import Mathlib
import AddonAtlas.Document.Json
import AddonAtlas.Document.Reading

/-!
# Strings and whole numbers are read back

The text of a string is read as its code points and UTF-16 units, one character after the other
(`readUnits_jsonChar`), and the characters are joined from them (`joinUnits_unitsOf`), so a string is
read back whatever characters it holds (`readString_flatMap`).  A whole number that is not too long is
read back if a comma, a line end or nothing stands behind it (`readSimple_intText`).
-/

namespace AddonAtlas.Document

open Number Text

/-! ## Strings -/

/-- The UTF-16 units of a character. -/
def unitsOf (c : Char) : List Nat :=
  if c.toNat < 0x10000 then [c.toNat]
  else [0xD800 + (c.toNat - 0x10000) / 0x400, 0xDC00 + (c.toNat - 0x10000) % 0x400]

theorem hexValue?_digitChar : ∀ d < 16, hexValue? (Nat.digitChar d) = some d := by decide

theorem readUnits_unitEscape (start : List Char) (read : List Nat) {n : Nat} (hn : n < 0x10000)
    {rest : List Char} (hrest : rest ≠ []) :
    readUnits start read (unitEscape n ++ rest) = readUnits start (n :: read) rest := by
  obtain ⟨e, rest, rfl⟩ := List.exists_cons_of_ne_nil hrest
  have hvalue : unitValue? (Nat.digitChar (n / 16 / 16 / 16 % 16)) (Nat.digitChar (n / 16 / 16 % 16))
      (Nat.digitChar (n / 16 % 16)) (Nat.digitChar (n % 16)) = some n := by
    simp only [unitValue?, hexValue?_digitChar _ (Nat.mod_lt _ (by omega : 16 > 0)), bind,
      Option.bind, pure, Option.some.injEq]
    omega
  simp only [unitEscape, hexDigits, List.nil_append, List.cons_append]
  rw [readUnits, hvalue]

theorem readUnits_letter (start : List Char) (read : List Nat) {letter : Char} {n : Nat}
    (hletter : letter ≠ 'u') (hn : escaped? letter = some n) (rest : List Char) :
    readUnits start read ('\\' :: letter :: rest) = readUnits start (n :: read) rest := by
  rw [readUnits, hn]
  · exact fun _ _ _ _ _ _ h => absurd h hletter
  · exact hletter

theorem readUnits_plain (start : List Char) (read : List Nat) {c : Char} (hquote : c ≠ '"')
    (hslash : c ≠ '\\') (hc : 0x20 ≤ c.toNat) (rest : List Char) :
    readUnits start read (c :: rest) = readUnits start (c.toNat :: read) rest := by
  rw [readUnits, if_neg (Nat.not_lt.2 hc)] <;> simp [hquote, hslash]

theorem unitsOf_of_lt {c : Char} (h : c.toNat < 0x10000) : unitsOf c = [c.toNat] :=
  if_pos h

/-- Each character of a string is read as its units. -/
theorem readUnits_jsonChar (start : List Char) (read : List Nat) (c : Char) {rest : List Char}
    (hrest : rest ≠ []) :
    readUnits start read (jsonChar c ++ rest) =
      readUnits start ((unitsOf c).reverse ++ read) rest := by
  have hletter {letter : Char} (hu : letter ≠ 'u') {n : Nat} (hn : escaped? letter = some n)
      (hc : c.toNat = n) (hlt : n < 0x10000) : readUnits start read (['\\', letter] ++ rest) =
        readUnits start ((unitsOf c).reverse ++ read) rest := by
    rw [unitsOf_of_lt (hc ▸ hlt), hc]
    exact readUnits_letter start read hu hn rest
  unfold jsonChar
  split
  · next h => exact hletter (by decide) rfl (congrArg Char.toNat (eq_of_beq h)) (by decide)
  split
  · next h => exact hletter (by decide) rfl (congrArg Char.toNat (eq_of_beq h)) (by decide)
  split
  · next h => exact hletter (by decide) rfl (congrArg Char.toNat (eq_of_beq h)) (by decide)
  split
  · next h => exact hletter (by decide) rfl (congrArg Char.toNat (eq_of_beq h)) (by decide)
  split
  · next h => exact hletter (by decide) rfl (congrArg Char.toNat (eq_of_beq h)) (by decide)
  split
  · next h => exact hletter (by decide) rfl h (by decide)
  split
  · next h => exact hletter (by decide) rfl h (by decide)
  split
  · next hquote hslash _ _ _ _ _ h =>
    simp only [Bool.and_eq_true, decide_eq_true_eq] at h
    rw [unitsOf_of_lt (by omega)]
    exact readUnits_plain start read (by simpa using hquote) (by simpa using hslash) h.1 rest
  split
  · next h =>
    rw [unitsOf_of_lt h]
    exact readUnits_unitEscape start read h hrest
  · next h =>
    have hvalid : c.toNat < 0xD800 ∨ 0xDFFF < c.toNat ∧ c.toNat < 0x110000 := c.valid
    rw [unitsOf, if_neg h, List.append_assoc,
      readUnits_unitEscape start read (by omega) (by simp [unitEscape]),
      readUnits_unitEscape start _ (by omega) hrest]
    rfl

theorem readUnits_flatMap (start : List Char) (read : List Nat) (chars rest : List Char) :
    readUnits start read (chars.flatMap jsonChar ++ '"' :: rest) =
      .ok (read.reverse ++ chars.flatMap unitsOf, rest) := by
  induction chars generalizing read with
  | nil => simp [readUnits]
  | cons c chars ih =>
    rw [List.flatMap_cons, List.append_assoc, readUnits_jsonChar start read c (by simp), ih]
    simp

/-- A character is joined from its units. -/
theorem joinUnits_unitsOf (read : List Char) (c : Char) (units : List Nat) :
    joinUnits read (unitsOf c ++ units) = joinUnits (c :: read) units := by
  have hvalid : c.toNat < 0xD800 ∨ 0xDFFF < c.toNat ∧ c.toNat < 0x110000 := c.valid
  by_cases hlt : c.toNat < 0x10000
  · have hone : joinUnits.joinOne c.toNat = c := by
      rw [joinUnits.joinOne, if_neg (by simp; omega), Char.ofNat_toNat]
    rw [unitsOf_of_lt hlt]
    cases units with
    | nil => simp [joinUnits, hone]
    | cons m units =>
      rw [List.singleton_append, joinUnits, if_neg (by simp; omega), hone]
  · have hpair : 0x10000 + (0xD800 + (c.toNat - 0x10000) / 0x400 - 0xD800) * 0x400 +
        (0xDC00 + (c.toNat - 0x10000) % 0x400 - 0xDC00) = c.toNat := by omega
    rw [unitsOf, if_neg hlt, List.cons_append, List.singleton_append, joinUnits,
      if_pos (by simp; omega), hpair, Char.ofNat_toNat]

theorem joinUnits_flatMap (read chars : List Char) :
    joinUnits read (chars.flatMap unitsOf) = read.reverse ++ chars := by
  induction chars generalizing read with
  | nil => simp [joinUnits]
  | cons c chars ih =>
    rw [List.flatMap_cons, joinUnits_unitsOf, ih]
    simp

/-- A string is read back, whatever characters it holds. -/
theorem readString_flatMap (s : String) (rest : List Char) :
    readString (s.toList.flatMap jsonChar ++ '"' :: rest) = .ok (s, rest) := by
  rw [readString, readUnits_flatMap]
  simp [joinUnits_flatMap, bind, Except.bind, pure, Except.pure]

/-! ## Numbers -/

/-- What stands behind a value in a document: a comma, a line end, or nothing. -/
def EndsValue (rest : List Char) : Prop :=
  ∀ c ∈ rest.head?, c = ',' ∨ c = '\n'

theorem EndsValue.cases {rest : List Char} (h : EndsValue rest) :
    rest = [] ∨ (∃ more, rest = ',' :: more) ∨ ∃ more, rest = '\n' :: more := by
  cases rest with
  | nil => exact .inl rfl
  | cons c more =>
    rcases h c rfl with rfl | rfl
    · exact .inr (.inl ⟨more, rfl⟩)
    · exact .inr (.inr ⟨more, rfl⟩)

theorem span_digits {digits rest : List Char} (hdigits : ∀ c ∈ digits, c.isDigit = true)
    (hrest : EndsValue rest) : (digits ++ rest).span Char.isDigit = (digits, rest) := by
  have hhead : rest.takeWhile Char.isDigit = [] ∧ rest.dropWhile Char.isDigit = rest := by
    rcases hrest.cases with rfl | ⟨more, rfl⟩ | ⟨more, rfl⟩ <;> simp
  rw [List.span_eq_takeWhile_dropWhile, List.takeWhile_append_of_pos hdigits,
    List.dropWhile_append_of_pos hdigits, hhead.1, hhead.2, List.append_nil]

/-- Only zero is written with a zero at the start. -/
theorem head?_toDigits {n : Nat} (hn : n ≠ 0) : (Nat.toDigits 10 n).head? ≠ some '0' := by
  induction n using Nat.strongRecOn with
  | ind n ih =>
    rw [Nat.toDigits_eq_if (by decide)]
    split
    · next hlt =>
      have hall : ∀ d < 10, d ≠ 0 → Nat.digitChar d ≠ '0' := by decide
      simpa using hall n hlt hn
    · next hge =>
      rw [List.head?_append_of_ne_nil _ Nat.toDigits_ne_nil]
      exact ih (n / 10) (by omega) (by omega)

theorem wholePart?_toDigits (n : Nat) {rest : List Char} (hrest : EndsValue rest) :
    wholePart? (Nat.toDigits 10 n ++ rest) = some (Nat.toDigits 10 n, rest) := by
  by_cases hn : n = 0
  · subst hn
    rfl
  · have hhead := head?_toDigits hn
    have hspan : (Nat.toDigits 10 n ++ rest).span Char.isDigit = (Nat.toDigits 10 n, rest) :=
      span_digits (fun c hc => Nat.isDigit_of_mem_toDigits (by decide) (by decide) hc) hrest
    cases hdigits : Nat.toDigits 10 n with
    | nil => exact absurd hdigits Nat.toDigits_ne_nil
    | cons d digits =>
      rw [hdigits] at hhead hspan
      rw [List.cons_append, wholePart?, digits?, ← List.cons_append, hspan]
      intro more hmore
      rw [(List.cons.inj hmore).1] at hhead
      exact hhead rfl

theorem readNumber_toDigits (negative : Bool) {n : Nat} {rest : List Char} (hrest : EndsValue rest)
    (hn : (Nat.toDigits 10 n).length ≤ digitLimit) :
    readNumber negative (Nat.toDigits 10 n ++ rest) =
      some (.ok (.int (Binary64.signed negative n)), rest) := by
  have hfraction : fraction rest = ([], rest) := by
    rcases hrest.cases with rfl | ⟨more, rfl⟩ | ⟨more, rfl⟩ <;> rfl
  have hexponent : exponent rest = ([], rest) := by
    rcases hrest.cases with rfl | ⟨more, rfl⟩ | ⟨more, rfl⟩ <;> rfl
  have hvalue : natOfDigits (Nat.toDigits 10 n) = n := by
    rw [natOfDigits, ← Nat.ofDigitChars_eq_foldl]
    exact Nat.ofDigitChars_ten_toDigits
  simp only [readNumber, wholePart?_toDigits n hrest, bind, Option.bind, hfraction, hexponent,
    List.isEmpty_nil, Bool.and_self, if_true, if_neg (Nat.not_lt.2 hn), hvalue, pure]

theorem ne_of_isDigit {c d : Char} (hc : c.isDigit = true) (hd : d.isDigit = false) : c ≠ d := by
  rintro rfl
  rw [hc] at hd
  cases hd

/-- A text that starts with a digit, or with a minus and a digit, is read as a number. -/
theorem readSimple_number {d : Char} (hd : d.isDigit = true) {text rest : List Char} {value : Value} :
    (readNumber false (d :: text) = some (.ok value, rest) →
      readSimple (d :: text) = .ok (value, rest)) ∧
    (readNumber true (d :: text) = some (.ok value, rest) →
      readSimple ('-' :: d :: text) = .ok (value, rest)) := by
  have hne (c : Char) (hc : c.isDigit = false) : c ≠ d := (ne_of_isDigit hd hc).symm
  constructor
  · intro h
    have hword : (words.find? fun entry => entry.1.isPrefixOf (d :: text)) = none := by
      simp [words, hne 'n' rfl, hne 't' rfl, hne 'f' rfl, hne 'N' rfl, hne 'I' rfl, hne '-' rfl]
    rw [readSimple, hword]
    dsimp only
    rw [h]
    exact fun _ hmore => hne '-' rfl (List.cons.inj hmore).1.symm
  · intro h
    have hword : (words.find? fun entry => entry.1.isPrefixOf ('-' :: d :: text)) = none := by
      simp [words, hne 'I' rfl]
    rw [readSimple, hword]
    dsimp only
    rw [h]

theorem exists_toDigits (n : Nat) : ∃ d digits, Nat.toDigits 10 n = d :: digits ∧ d.isDigit = true := by
  obtain ⟨d, digits, hdigits⟩ := List.exists_cons_of_ne_nil (Nat.toDigits_ne_nil (n := n) (b := 10))
  refine ⟨d, digits, hdigits, ?_⟩
  exact Nat.isDigit_of_mem_toDigits (by decide) (by decide) (hdigits ▸ List.mem_cons_self)

theorem exists_intText (n : Int) :
    ∃ c rest, (intText n).toList = c :: rest ∧ (c = '-' ∨ c.isDigit = true) := by
  obtain ⟨d, digits, hdigits, hd⟩ := exists_toDigits n.natAbs
  rw [intText]
  split
  · exact ⟨'-', _, String.toList_ofList, .inl rfl⟩
  · exact ⟨d, digits, by rw [String.toList_ofList, hdigits], .inr hd⟩

theorem readSimple_intText {n : Int} (hn : (Nat.toDigits 10 n.natAbs).length ≤ digitLimit)
    {rest : List Char} (hrest : EndsValue rest) :
    readSimple ((intText n).toList ++ rest) = .ok (.int n, rest) := by
  obtain ⟨d, digits, hdigits, hd⟩ := exists_toDigits n.natAbs
  have hread (negative : Bool) := readNumber_toDigits negative hrest hn
  rw [hdigits] at hread
  rw [intText]
  split
  · next hneg =>
    have hvalue : Binary64.signed true n.natAbs = n := by
      simp only [Binary64.signed, if_true]
      omega
    rw [String.toList_ofList, hdigits]
    exact ((readSimple_number hd).2 (hread true)).trans (by rw [hvalue])
  · next hpos =>
    have hvalue : Binary64.signed false n.natAbs = n := by
      simp only [Binary64.signed, Bool.false_eq_true, if_false]
      omega
    rw [String.toList_ofList, hdigits]
    exact ((readSimple_number hd).1 (hread false)).trans (by rw [hvalue])

end AddonAtlas.Document
