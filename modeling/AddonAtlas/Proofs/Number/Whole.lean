import AddonAtlas.Number.Reading
import AddonAtlas.Proofs.Text.Blank

/-!
# Texts of whole numbers

A whole number is written with blanks around it, perhaps a sign, and digits of any script, between which
underscores may stand (`WholeText`).  A text is read as a whole number exactly if it is written like that
with no more digits than the limit allows (`readInt_eq_ok_iff`).
-/

namespace AddonAtlas.Number

open Text

/-- A row of digits of any script with their values; between two digits an underscore may stand. -/
inductive DigitText : List Char → List Nat → Prop
  | last {c : Char} {d : Nat} (hc : digitValue? c = some d) : DigitText [c] [d]
  | cons {c : Char} {d : Nat} {text : List Char} {digits : List Nat} (hc : digitValue? c = some d)
      (h : DigitText text digits) : DigitText (c :: text) (d :: digits)
  | joined {c : Char} {d : Nat} {text : List Char} {digits : List Nat} (hc : digitValue? c = some d)
      (h : DigitText text digits) : DigitText (c :: '_' :: text) (d :: digits)

/-- A sign as it is written: is the number negative? -/
inductive SignText : List Char → Bool → Prop
  | none : SignText [] false
  | plus : SignText ['+'] false
  | minus : SignText ['-'] true

/-- The text of a whole number that is written with `size` digits. -/
inductive WholeText : (text : List Char) → (n : Int) → (size : Nat) → Prop
  | mk {before sign body after : List Char} {negative : Bool} {digits : List Nat}
      (hbefore : ∀ c ∈ before, isMargin c = true) (hafter : ∀ c ∈ after, isMargin c = true)
      (hsign : SignText sign negative) (hbody : DigitText body digits) :
      WholeText (before ++ (sign ++ body ++ after))
        (Binary64.signed negative (Nat.ofDigits 10 digits.reverse)) digits.length

/-! ## Digits -/

theorem lt_ten_of_digitValue? {c : Char} {d : Nat} (h : digitValue? c = some d) : d < 10 := by
  obtain ⟨first, hfirst, rfl⟩ := Option.map_eq_some_iff.1 h
  have hrange := List.find?_some hfirst
  simp only [Bool.and_eq_true, decide_eq_true_eq] at hrange
  omega

theorem plainDigit_of_digitValue? {c : Char} {d : Nat} (h : digitValue? c = some d) :
    plainDigit c = Nat.digitChar d := by
  rw [plainDigit, h]

/-- A digit stays one, and nothing else becomes one. -/
theorem isDigit_plainDigit_iff {c : Char} :
    (plainDigit c).isDigit = true ↔ ∃ d, digitValue? c = some d := by
  cases hvalue : digitValue? c with
  | some d =>
    rw [plainDigit_of_digitValue? hvalue]
    exact iff_of_true (by simpa using lt_ten_of_digitValue? hvalue) ⟨d, rfl⟩
  | none =>
    -- the plain digits are the first row of digits
    have hplain : c.isDigit = false := by
      rw [Bool.eq_false_iff]
      intro hdigit
      have hnone := List.find?_eq_none.1 (Option.map_eq_none_iff.1 hvalue) 0x30 (by decide)
      simp only [Char.isDigit, Bool.and_eq_true, decide_eq_true_eq, UInt32.le_iff_toNat_le] at hdigit
      simp only [Bool.and_eq_true, decide_eq_true_eq, Char.toNat] at hnone
      have hlow : ('0'.val.toNat) = 48 := rfl
      have hhigh : ('9'.val.toNat) = 57 := rfl
      omega
    rw [plainDigit, hvalue]
    simp [hplain]

theorem plainDigit_eq_iff {c sign : Char} (h : digitValue? sign = none) (hdigit : sign.isDigit = false) :
    plainDigit c = sign ↔ c = sign := by
  cases hvalue : digitValue? c with
  | some d =>
    have hne : plainDigit c ≠ sign := by
      rintro rfl
      rw [isDigit_plainDigit_iff.2 ⟨d, hvalue⟩] at hdigit
      cases hdigit
    have hne' : c ≠ sign := by
      rintro rfl
      rw [h] at hvalue
      cases hvalue
    exact iff_of_false hne hne'
  | none => rw [plainDigit, hvalue]

/-- No row of digits meets a range of blanks. -/
theorem isMargin_of_digitValue? {c : Char} {d : Nat} (h : digitValue? c = some d) :
    isMargin c = false := by
  obtain ⟨first, hfirst, -⟩ := Option.map_eq_some_iff.1 h
  have hapart : ∀ z ∈ zeros, ∀ range ∈ blankRanges, z + 9 < range.1 ∨ range.2 < z := by decide
  have hrange := List.find?_some hfirst
  simp only [Bool.and_eq_true, decide_eq_true_eq] at hrange
  have hblank : isBlank c = false := by
    rw [isBlank, within, List.any_eq_false]
    intro range hmem
    have := hapart first (List.mem_of_find?_eq_some hfirst) range hmem
    simp only [Bool.and_eq_true, decide_eq_true_eq]
    omega
  rw [isMargin, hblank, Bool.false_and]

/-! ## Rows of digits -/

theorem joinDigits?_cons {c : Char} (hc : c ≠ '_') (before : Option Char) (rest : List Char) :
    joinDigits? before (c :: rest) = (joinDigits? (some c) rest).map (c :: ·) := by
  rw [joinDigits?]
  exact hc

theorem plainDigit_ne_underscore {c : Char} {d : Nat} (h : digitValue? c = some d) :
    plainDigit c ≠ '_' := by
  intro hc
  have hdigit := isDigit_plainDigit_iff.2 ⟨d, h⟩
  rw [hc] at hdigit
  exact absurd hdigit (by decide)

namespace DigitText

variable {text : List Char} {digits : List Nat}

theorem lt_ten (h : DigitText text digits) : ∀ d ∈ digits, d < 10 := by
  induction h with
  | last hc => simpa using lt_ten_of_digitValue? hc
  | cons hc _ ih => exact List.forall_mem_cons.2 ⟨lt_ten_of_digitValue? hc, ih⟩
  | joined hc _ ih => exact List.forall_mem_cons.2 ⟨lt_ten_of_digitValue? hc, ih⟩

theorem exists_cons (h : DigitText text digits) :
    ∃ c d rest, text = c :: rest ∧ digitValue? c = some d := by
  cases h with
  | last hc => exact ⟨_, _, _, rfl, hc⟩
  | cons hc _ => exact ⟨_, _, _, rfl, hc⟩
  | joined hc _ => exact ⟨_, _, _, rfl, hc⟩

theorem exists_concat (h : DigitText text digits) :
    ∃ c d front, text = front ++ [c] ∧ digitValue? c = some d := by
  induction h with
  | last hc => exact ⟨_, _, [], rfl, hc⟩
  | cons _ _ ih =>
    obtain ⟨c, d, front, rfl, hc⟩ := ih
    exact ⟨c, d, _ :: front, rfl, hc⟩
  | joined _ _ ih =>
    obtain ⟨c, d, front, rfl, hc⟩ := ih
    exact ⟨c, d, _ :: '_' :: front, rfl, hc⟩

theorem digits_ne_nil (h : DigitText text digits) : digits ≠ [] := by
  cases h <;> simp

theorem zeros_append (h : DigitText text digits) (n : Nat) :
    DigitText (List.replicate n '0' ++ text) (List.replicate n 0 ++ digits) := by
  induction n with
  | zero => exact h
  | succ n ih => exact .cons (by decide) ih

theorem joinDigits?_eq (h : DigitText text digits) (before : Option Char) :
    joinDigits? before (text.map plainDigit) = some (digits.map Nat.digitChar) := by
  induction h generalizing before with
  | last hc =>
    rw [List.map_singleton, joinDigits?_cons (plainDigit_ne_underscore hc), joinDigits?,
      plainDigit_of_digitValue? hc]
    rfl
  | cons hc _ ih =>
    rw [List.map_cons, joinDigits?_cons (plainDigit_ne_underscore hc), ih,
      plainDigit_of_digitValue? hc]
    rfl
  | joined hc h ih =>
    obtain ⟨c', d', rest, rfl, hc'⟩ := h.exists_cons
    have hunderscore : plainDigit '_' = '_' := by decide
    rw [List.map_cons, joinDigits?_cons (plainDigit_ne_underscore hc), List.map_cons, hunderscore,
      joinDigits?, ih]
    simp [isDigit_plainDigit_iff.2 ⟨_, hc'⟩, plainDigit_of_digitValue? hc, lt_ten_of_digitValue? hc]

end DigitText

/-- What is joined to digits is a row of digits, unless it starts with an underscore. -/
theorem exists_digitText_of_joinDigits? {text : List Char} {before : Option Char} {joined : List Char}
    (h : joinDigits? before (text.map plainDigit) = some joined)
    (hdigits : ∀ c ∈ joined, c.isDigit = true) (hne : text ≠ []) (hhead : text.head? ≠ some '_') :
    ∃ digits, DigitText text digits := by
  -- an underscore and the digit behind it are one step
  induction hsize : text.length using Nat.strong_induction_on generalizing text before joined with
  | _ size ih =>
    obtain _ | ⟨c, rest⟩ := text
    · exact absurd rfl hne
    have hc : plainDigit c ≠ '_' := by
      rw [ne_eq, plainDigit_eq_iff (by decide) (by decide)]
      simpa using hhead
    rw [List.map_cons, joinDigits?_cons hc] at h
    obtain ⟨joined, hjoined, rfl⟩ := Option.map_eq_some_iff.1 h
    obtain ⟨hdigit, hdigits⟩ := List.forall_mem_cons.1 hdigits
    obtain ⟨d, hd⟩ := isDigit_plainDigit_iff.1 hdigit
    obtain _ | ⟨c', rest⟩ := rest
    · exact ⟨_, .last hd⟩
    by_cases hunderscore : c' = '_'
    · subst hunderscore
      rw [List.map_cons, show plainDigit '_' = '_' by decide, joinDigits?] at hjoined
      split at hjoined
      · next hbetween =>
        obtain _ | ⟨c', rest⟩ := rest
        · simp at hbetween
        have hne' : c' ≠ '_' := by
          rintro rfl
          simp [show plainDigit '_' = '_' by decide] at hbetween
        obtain ⟨digits, hrest⟩ := ih _ (by simp at hsize ⊢; omega) hjoined hdigits (by simp)
          (by simpa using hne') rfl
        exact ⟨_, .joined hd hrest⟩
      · cases hjoined
    · obtain ⟨digits, hrest⟩ := ih _ (by simp at hsize ⊢; omega) hjoined hdigits (by simp)
        (by simpa using hunderscore) rfl
      exact ⟨_, .cons hd hrest⟩

theorem natOfDigits_map_digitChar {digits : List Nat} (h : ∀ d ∈ digits, d < 10) :
    natOfDigits (digits.map Nat.digitChar) = Nat.ofDigits 10 digits.reverse := by
  rw [natOfDigits, List.foldl_map, Nat.ofDigits_eq_foldr, List.foldr_reverse]
  refine List.foldl_ext _ _ _ fun n d hd => ?_
  rw [Nat.toNat_digitChar_of_lt_ten (h d hd)]
  simp [Nat.add_comm]

/-! ## Signs -/

theorem splitSign_map {sign : List Char} {negative : Bool} (hsign : SignText sign negative)
    {body : List Char} {digits : List Nat} (hbody : DigitText body digits) :
    splitSign ((sign ++ body).map plainDigit) = (negative, body.map plainDigit) := by
  obtain ⟨c, d, rest, rfl, hc⟩ := hbody.exists_cons
  cases hsign with
  | none =>
    have hdigit := isDigit_plainDigit_iff.2 ⟨d, hc⟩
    have hplus : plainDigit c ≠ '+' := fun h => absurd hdigit (by rw [h]; decide)
    have hminus : plainDigit c ≠ '-' := fun h => absurd hdigit (by rw [h]; decide)
    rw [List.nil_append, List.map_cons, splitSign]
    · exact fun rest h => hminus (List.cons.inj h).1
    · exact fun rest h => hplus (List.cons.inj h).1
  | plus => rfl
  | minus => rfl

theorem exists_signText (text : List Char) :
    ∃ sign body, text = sign ++ body ∧ SignText sign (splitSign (text.map plainDigit)).1 ∧
      (splitSign (text.map plainDigit)).2 = body.map plainDigit := by
  obtain _ | ⟨c, rest⟩ := text
  · exact ⟨[], [], rfl, .none, rfl⟩
  by_cases hminus : c = '-'
  · exact ⟨['-'], rest, by rw [hminus]; rfl, by rw [hminus]; exact .minus, by rw [hminus]; rfl⟩
  by_cases hplus : c = '+'
  · exact ⟨['+'], rest, by rw [hplus]; rfl, by rw [hplus]; exact .plus, by rw [hplus]; rfl⟩
  have hnone : splitSign ((c :: rest).map plainDigit) = (false, (c :: rest).map plainDigit) := by
    rw [List.map_cons, splitSign]
    · exact fun rest h => hminus ((plainDigit_eq_iff (by decide) (by decide)).1 (List.cons.inj h).1)
    · exact fun rest h => hplus ((plainDigit_eq_iff (by decide) (by decide)).1 (List.cons.inj h).1)
  rw [hnone]
  exact ⟨[], c :: rest, rfl, .none, rfl⟩

/-! ## Whole numbers -/

/-- Zeros in front count as digits and leave the number as it is. -/
theorem wholeText_zeros_append {text : List Char} {digits : List Nat} (h : DigitText text digits)
    (n : Nat) : WholeText (List.replicate n '0' ++ text) (Nat.ofDigits 10 digits.reverse : ℕ)
      (n + digits.length) := by
  have hwhole := @WholeText.mk [] [] _ [] _ _ (by simp) (by simp) .none (h.zeros_append n)
  simpa [Binary64.signed, Nat.ofDigits_append_replicate_zero] using hwhole

theorem normalized_eq {before after sign body : List Char} {negative : Bool} {digits : List Nat}
    (hbefore : ∀ c ∈ before, isMargin c = true) (hafter : ∀ c ∈ after, isMargin c = true)
    (hsign : SignText sign negative) (hbody : DigitText body digits) :
    normalized (before ++ (sign ++ body ++ after)) = (sign ++ body).map plainDigit := by
  obtain ⟨first, d, rest, hrest, hfirst⟩ := hbody.exists_cons
  obtain ⟨last, d', front, hfront, hlast⟩ := hbody.exists_concat
  rw [normalized, trimBoth_append hbefore hafter]
  · simp [hrest]
  · intro c hc
    cases hsign with
    | none =>
      obtain rfl : first = c := by simpa [hrest] using hc
      exact isMargin_of_digitValue? hfirst
    | plus =>
      obtain rfl : '+' = c := by simpa using hc
      decide
    | minus =>
      obtain rfl : '-' = c := by simpa using hc
      decide
  · intro c hc
    obtain rfl : last = c := by simpa [hfront] using hc
    exact isMargin_of_digitValue? hlast

/-- What is written as a whole number is read as this number, unless it has too many digits. -/
theorem readInt_of_wholeText {text : String} {n : Int} {size : Nat} (h : WholeText text.toList n size) :
    readInt text = if digitLimit < size then .error (.tooLong size) else .ok n := by
  generalize htext : text.toList = chars at h
  cases h with
  | @mk before sign body after negative digits hbefore hafter hsign hbody =>
    have hmalformed : ((digits.map Nat.digitChar).isEmpty ||
        !(digits.map Nat.digitChar).all Char.isDigit) = false := by
      simpa [hbody.digits_ne_nil] using hbody.lt_ten
    simp only [readInt, htext, normalized_eq hbefore hafter hsign hbody, splitSign_map hsign hbody,
      hbody.joinDigits?_eq, hmalformed, Bool.false_eq_true, if_false, List.length_map,
      natOfDigits_map_digitChar hbody.lt_ten]

/-- What is read as a whole number is written as one. -/
theorem exists_wholeText_of_readInt {text : String} {n : Int} (h : readInt text = .ok n) :
    ∃ m size, WholeText text.toList m size := by
  obtain ⟨before, after, htext, hbefore, hafter⟩ := exists_eq_append_trimBoth isMargin text.toList
  obtain ⟨sign, body, hbody, hsign, hrest⟩ := exists_signText (trimBoth isMargin text.toList)
  change (splitSign (normalized text.toList)).2 = body.map plainDigit at hrest
  unfold readInt at h
  dsimp only at h
  rw [hrest] at h
  cases hjoin : joinDigits? none (body.map plainDigit) with
  | none => simp [hjoin] at h
  | some joined =>
    simp only [hjoin] at h
    split at h
    · cases h
    · next hmalformed =>
      simp only [Bool.or_eq_true, List.isEmpty_iff, Bool.not_eq_true', not_or, Bool.not_eq_false,
        List.all_eq_true] at hmalformed
      have hne : body ≠ [] := by
        rintro rfl
        exact hmalformed.1 (Option.some.inj hjoin).symm
      have hhead : body.head? ≠ some '_' := by
        intro hhead
        obtain ⟨rest, rfl⟩ := List.head?_eq_some_iff.1 hhead
        rw [List.map_cons, show plainDigit '_' = '_' by decide, joinDigits?] at hjoin
        simp at hjoin
      obtain ⟨digits, hdigits⟩ := exists_digitText_of_joinDigits? hjoin hmalformed.2 hne hhead
      rw [hbody] at htext
      rw [htext]
      exact ⟨_, _, .mk hbefore hafter hsign hdigits⟩

theorem readInt_eq_ok_iff {text : String} {n : Int} :
    readInt text = .ok n ↔ ∃ size ≤ digitLimit, WholeText text.toList n size := by
  constructor
  · intro h
    obtain ⟨m, size, hwhole⟩ := exists_wholeText_of_readInt h
    rw [readInt_of_wholeText hwhole] at h
    split at h
    · cases h
    · next hsize =>
      obtain rfl := Except.ok.inj h
      exact ⟨size, Nat.not_lt.1 hsize, hwhole⟩
  · rintro ⟨size, hsize, h⟩
    rw [readInt_of_wholeText h, if_neg (Nat.not_lt.2 hsize)]

end AddonAtlas.Number
