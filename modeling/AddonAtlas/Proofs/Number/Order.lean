import Mathlib
import AddonAtlas.Number.Binary64

/-!
# The order of binary numbers

Numbers are compared by their values (`lt_iff`), which are real numbers or infinite.  Rounding keeps the
order: a quotient that is not less than another is not rounded to less (`value_ofRatio_mono`), and so
for numbers that are rounded to some decimal places (`AtMost.roundPlaces`).
-/

namespace AddonAtlas.Number

/-! ## Quotients rounded to whole numbers -/

theorem pow2_pos (n : Nat) : 0 < pow2 n := Nat.pow_pos (by decide)

theorem cast_pow2 (n : Nat) : (pow2 n : ℝ) = 2 ^ (n : ℤ) := by
  rw [pow2, zpow_natCast]
  exact Nat.cast_pow 2 n

/-- A larger quotient is not rounded to less. -/
theorem roundDiv_le_roundDiv {a b c d : Nat} (hb : 0 < b) (hd : 0 < d) (h : a * d ≤ c * b) :
    roundDiv a b ≤ roundDiv c d := by
  have ha := Nat.div_add_mod a b
  have hc := Nat.div_add_mod c d
  have hra := Nat.mod_lt a hb
  have hrc := Nat.mod_lt c hd
  have hq : a / b ≤ c / d := by
    rw [Nat.le_div_iff_mul_le hd]
    refine Nat.le_of_mul_le_mul_right ?_ hb
    calc a / b * d * b = a / b * b * d := by ring
      _ ≤ a * d := Nat.mul_le_mul_right d (Nat.div_mul_le_self a b)
      _ ≤ c * b := h
  unfold roundDiv
  simp only
  rcases hq.lt_or_eq with hlt | heq
  · split_ifs <;> omega
  · -- the whole parts are equal, so the remainders decide
    have hr : a % b * d ≤ c % d * b := by
      have hsplit : (b * (a / b) + a % b) * d ≤ (d * (c / d) + c % d) * b := by rwa [ha, hc]
      rw [heq, add_mul, add_mul] at hsplit
      have hwhole : b * (c / d) * d = d * (c / d) * b := by ring
      omega
    have hless (hfirst : 2 * (c % d) < d) : 2 * (a % b) < b := by
      refine Nat.lt_of_mul_lt_mul_right (a := d) ?_
      calc 2 * (a % b) * d = 2 * (a % b * d) := by ring
        _ ≤ 2 * (c % d * b) := Nat.mul_le_mul_left 2 hr
        _ = 2 * (c % d) * b := by ring
        _ < d * b := Nat.mul_lt_mul_of_pos_right hfirst hb
        _ = b * d := Nat.mul_comm d b
    have hmore (hfirst : b < 2 * (a % b)) : d < 2 * (c % d) := by
      refine Nat.lt_of_mul_lt_mul_right (a := b) ?_
      calc d * b = b * d := Nat.mul_comm d b
        _ < 2 * (a % b) * d := Nat.mul_lt_mul_of_pos_right hfirst hd
        _ = 2 * (a % b * d) := by ring
        _ ≤ 2 * (c % d * b) := Nat.mul_le_mul_left 2 hr
        _ = 2 * (c % d) * b := by ring
    rw [heq]
    split_ifs <;> omega

theorem roundDiv_mono {a b c d : Nat} (hb : 0 < b) (hd : 0 < d) (h : (a / b : ℝ) ≤ c / d) :
    roundDiv a b ≤ roundDiv c d := by
  rw [div_le_div_iff₀ (by exact_mod_cast hb) (by exact_mod_cast hd)] at h
  exact roundDiv_le_roundDiv hb hd (by exact_mod_cast h)

theorem roundDiv_one (q : Nat) : roundDiv q 1 = q := by
  simp [roundDiv, Nat.mod_one]

theorem roundDiv_le {a b q : Nat} (hb : 0 < b) (h : (a / b : ℝ) ≤ q) : roundDiv a b ≤ q := by
  rw [← roundDiv_one q]
  exact roundDiv_mono hb one_pos (by simpa using h)

theorem le_roundDiv {a b q : Nat} (hb : 0 < b) (h : (q : ℝ) ≤ a / b) : q ≤ roundDiv a b := by
  rw [← roundDiv_one q]
  exact roundDiv_mono one_pos hb (by simpa using h)

/-- A quotient whose parts are scaled by powers of two. -/
theorem scaled_div (num den : Nat) (e : Int) :
    ((num * pow2 (-e).toNat : Nat) / (den * pow2 e.toNat : Nat) : ℝ) = num / den * 2 ^ (-e) := by
  rw [Nat.cast_mul, Nat.cast_mul, cast_pow2, cast_pow2, mul_div_mul_comm,
    ← zpow_sub₀ (two_ne_zero' ℝ)]
  congr 2
  omega

namespace Binary64

/-! ## Values -/

/-- The value of a number; that of no number does not matter. -/
noncomputable def value : Binary64 → EReal
  | .nan => 0
  | .infinity true => ⊥
  | .infinity false => ⊤
  | .finite s m e => ((signed s m * 2 ^ e : ℝ) : EReal)

theorem cast_signed (s : Bool) (m : Nat) : ((signed s m : Int) : ℝ) = if s then -(m : ℝ) else m := by
  cases s <;> simp [signed]

theorem value_neg (x : Binary64) : x.neg.value = -x.value := by
  cases x with
  | nan => simp [neg, value]
  | infinity s => cases s <;> simp [neg, value]
  | finite s m e =>
    rw [neg, value, value, cast_signed, cast_signed, ← EReal.coe_neg]
    cases s <;> simp

theorem signed_scaled (s : Bool) (m : Nat) {e g : Int} (h : g ≤ e) :
    ((signed s (m * pow2 (e - g).toNat) : Int) : ℝ) = signed s m * 2 ^ e * 2 ^ (-g) := by
  have hpow : (pow2 (e - g).toNat : ℝ) = 2 ^ e * 2 ^ (-g) := by
    rw [cast_pow2, Int.toNat_of_nonneg (by omega), ← zpow_add₀ (two_ne_zero' ℝ), ← sub_eq_add_neg]
  rw [cast_signed, cast_signed, Nat.cast_mul, hpow]
  cases s
  · simp only [Bool.false_eq_true, if_false]
    ring
  · simp only [if_true]
    ring

theorem lt_iff {x y : Binary64} (hx : x ≠ .nan) (hy : y ≠ .nan) :
    x.lt y = true ↔ x.value < y.value := by
  cases x with
  | nan => exact absurd rfl hx
  | infinity s =>
    cases y with
    | nan => exact absurd rfl hy
    | infinity t => cases s <;> cases t <;> simp [lt, value]
    | finite t n f =>
      cases s
      · simp [lt, value]
      · exact iff_of_true rfl (EReal.bot_lt_coe _)
  | finite s m e =>
    cases y with
    | nan => exact absurd rfl hy
    | infinity t =>
      cases t
      · exact iff_of_true rfl (EReal.coe_lt_top _)
      · simp [lt, value]
    | finite t n f =>
      have hpos : (0 : ℝ) < 2 ^ (-min e f) := by positivity
      rw [lt, value, value, EReal.coe_lt_coe_iff, decide_eq_true_iff, ← Int.cast_lt (R := ℝ),
        signed_scaled s m (min_le_left e f), signed_scaled t n (min_le_right e f)]
      exact mul_lt_mul_iff_left₀ hpos

/-- One number is at most the other; both are numbers. -/
def AtMost (x y : Binary64) : Prop :=
  x ≠ .nan ∧ y ≠ .nan ∧ y.lt x = false

instance (x y : Binary64) : Decidable (x.AtMost y) :=
  inferInstanceAs (Decidable (x ≠ .nan ∧ y ≠ .nan ∧ y.lt x = false))

theorem atMost_iff {x y : Binary64} :
    x.AtMost y ↔ x ≠ .nan ∧ y ≠ .nan ∧ x.value ≤ y.value := by
  constructor
  · rintro ⟨hx, hy, hlt⟩
    refine ⟨hx, hy, not_lt.1 fun hless => ?_⟩
    rw [(lt_iff hy hx).2 hless] at hlt
    cases hlt
  · rintro ⟨hx, hy, hle⟩
    refine ⟨hx, hy, ?_⟩
    rw [← Bool.not_eq_true, lt_iff hy hx]
    exact not_lt.2 hle

theorem AtMost.refl {x : Binary64} (hx : x ≠ .nan) : x.AtMost x :=
  atMost_iff.2 ⟨hx, hx, le_rfl⟩

theorem AtMost.of_lt {x y : Binary64} (h : x.lt y = true) : x.AtMost y := by
  have hx : x ≠ .nan := by
    rintro rfl
    cases h
  have hy : y ≠ .nan := by
    rintro rfl
    cases x <;> cases h
  exact atMost_iff.2 ⟨hx, hy, ((lt_iff hx hy).1 h).le⟩

/-! ## Rounding to significant bits -/

theorem log2_spec {n : Nat} (h : n ≠ 0) :
    (2 : ℝ) ^ (n.log2 : Int) ≤ n ∧ (n : ℝ) < 2 ^ (n.log2 + 1 : Int) := by
  constructor
  · rw [zpow_natCast]
    exact_mod_cast Nat.log2_self_le h
  · have hlt : n < 2 ^ (n.log2 + 1) := Nat.lt_log2_self
    exact_mod_cast hlt

theorem ratioLog2_spec {num den : Nat} (hnum : num ≠ 0) (hden : den ≠ 0) :
    (2 : ℝ) ^ ratioLog2 num den ≤ num / den ∧ (num / den : ℝ) < 2 ^ (ratioLog2 num den + 1) := by
  obtain ⟨hnum1, hnum2⟩ := log2_spec hnum
  obtain ⟨hden1, hden2⟩ := log2_spec hden
  have hpos : (0 : ℝ) < den := by exact_mod_cast Nat.pos_of_ne_zero hden
  have hsplit (i j : Int) : (2 : ℝ) ^ (i + j) = 2 ^ i * 2 ^ j := zpow_add₀ (two_ne_zero' ℝ) i j
  unfold ratioLog2
  simp only
  generalize hk : (num.log2 : Int) - den.log2 = k
  have hcompare : den * pow2 k.toNat ≤ num * pow2 (-k).toNat ↔ (2 : ℝ) ^ k ≤ num / den := by
    have hscale : (pow2 k.toNat : ℝ) = 2 ^ k * pow2 (-k).toNat := by
      rw [cast_pow2, cast_pow2, ← hsplit]
      congr 1
      omega
    have hpow : (0 : ℝ) < pow2 (-k).toNat := by exact_mod_cast pow2_pos _
    rw [le_div_iff₀ hpos, ← Nat.cast_le (α := ℝ), Nat.cast_mul, Nat.cast_mul, hscale, ← mul_assoc,
      mul_comm (den : ℝ), mul_le_mul_iff_left₀ hpow]
  split
  · next hle =>
    refine ⟨hcompare.1 hle, ?_⟩
    rw [div_lt_iff₀ hpos]
    calc (num : ℝ) < 2 ^ (num.log2 + 1 : Int) := hnum2
      _ = 2 ^ (k + 1) * 2 ^ (den.log2 : Int) := by rw [← hsplit]; congr 1; omega
      _ ≤ 2 ^ (k + 1) * den := by gcongr
  · next hlt =>
    rw [hcompare, not_le] at hlt
    refine ⟨?_, by rwa [sub_add_cancel]⟩
    rw [le_div_iff₀ hpos]
    calc (2 : ℝ) ^ (k - 1) * den ≤ 2 ^ (k - 1) * 2 ^ (den.log2 + 1 : Int) := by gcongr
      _ = 2 ^ (num.log2 : Int) := by rw [← hsplit]; congr 1; omega
      _ ≤ num := hnum1

/-- The exponent of a quotient. -/
def exponentOf (num den : Nat) : Int :=
  max leastExponent (ratioLog2 num den - 52)

/-- The mantissa of a quotient, before a carry. -/
def mantissaOf (num den : Nat) : Nat :=
  roundDiv (num * pow2 (-exponentOf num den).toNat) (den * pow2 (exponentOf num den).toNat)

/-- The exponent of a quotient, after a carry. -/
def carriedExponent (num den : Nat) : Int :=
  if mantissaOf num den = pow2 53 then exponentOf num den + 1 else exponentOf num den

/-- The mantissa of a quotient, after a carry. -/
def carriedMantissa (num den : Nat) : Nat :=
  if mantissaOf num den = pow2 53 then pow2 52 else mantissaOf num den

theorem ofRatio_eq (s : Bool) {num : Nat} (hnum : num ≠ 0) (den : Nat) :
    ofRatio s num den = if greatestExponent < carriedExponent num den then .infinity s
      else .finite s (carriedMantissa num den) (carriedExponent num den) := by
  rw [ofRatio, if_neg hnum, carriedExponent, carriedMantissa]
  by_cases hcarry : mantissaOf num den = pow2 53
  · rw [if_pos hcarry, if_pos hcarry]
    simp only [mantissaOf, exponentOf] at hcarry ⊢
    simp only [if_pos hcarry]
    rfl
  · rw [if_neg hcarry, if_neg hcarry]
    simp only [mantissaOf, exponentOf] at hcarry ⊢
    simp only [if_neg hcarry]
    rfl

/-- A carry does not change the value. -/
theorem carried_value (num den : Nat) :
    (carriedMantissa num den * 2 ^ carriedExponent num den : ℝ) =
      mantissaOf num den * 2 ^ exponentOf num den := by
  unfold carriedMantissa carriedExponent
  split
  · next hcarry =>
    rw [hcarry, cast_pow2, cast_pow2, ← zpow_add₀ (two_ne_zero' ℝ), ← zpow_add₀ (two_ne_zero' ℝ)]
    congr 1
    push_cast
    ring
  · rfl

theorem value_ofRatio {num : Nat} (hnum : num ≠ 0) (den : Nat) :
    (ofRatio false num den).value = if greatestExponent < carriedExponent num den then ⊤
      else ((mantissaOf num den * 2 ^ exponentOf num den : ℝ) : EReal) := by
  rw [ofRatio_eq false hnum, ← carried_value]
  split
  · rfl
  · rw [value, cast_signed]
    rfl

theorem ofRatio_true (num den : Nat) : ofRatio true num den = (ofRatio false num den).neg := by
  by_cases hnum : num = 0
  · rw [hnum]
    rfl
  · rw [ofRatio_eq true hnum, ofRatio_eq false hnum]
    split <;> rfl

theorem ofRatio_ne_nan (s : Bool) (num den : Nat) : ofRatio s num den ≠ .nan := by
  by_cases hnum : num = 0
  · rw [hnum]
    exact nofun
  · rw [ofRatio_eq s hnum]
    split <;> exact nofun

section Quotient

variable {num den : Nat} (hnum : num ≠ 0) (hden : den ≠ 0)

include hden

theorem scaled_pos (e : Int) : 0 < den * pow2 e.toNat :=
  Nat.mul_pos (Nat.pos_of_ne_zero hden) (pow2_pos _)

include hnum

theorem lt_exponentOf : (num / den : ℝ) < 2 ^ (exponentOf num den + 53) := by
  refine (ratioLog2_spec hnum hden).2.trans_le (zpow_le_zpow_right₀ one_le_two ?_)
  have := le_max_right leastExponent (ratioLog2 num den - 52)
  unfold exponentOf
  omega

theorem le_exponentOf (h : leastExponent < exponentOf num den) :
    (2 : ℝ) ^ (exponentOf num den + 52) ≤ num / den := by
  have hexponent : exponentOf num den = ratioLog2 num den - 52 := by
    unfold exponentOf at h ⊢
    omega
  rw [hexponent, sub_add_cancel]
  exact (ratioLog2_spec hnum hden).1

/-- A mantissa has 53 bits at most, unless it is carried. -/
theorem mantissaOf_le : mantissaOf num den ≤ pow2 53 := by
  refine roundDiv_le (scaled_pos hden _) ?_
  rw [scaled_div, cast_pow2]
  calc (num / den * 2 ^ (-exponentOf num den) : ℝ)
      ≤ 2 ^ (exponentOf num den + 53) * 2 ^ (-exponentOf num den) := by
        gcongr
        exact (lt_exponentOf hnum hden).le
    _ = 2 ^ ((53 : Nat) : Int) := by
        rw [← zpow_add₀ (two_ne_zero' ℝ)]
        congr 1
        push_cast
        ring

/-- A mantissa has 53 bits, unless the exponent is the least one. -/
theorem le_mantissaOf (h : leastExponent < exponentOf num den) : pow2 52 ≤ mantissaOf num den := by
  refine le_roundDiv (scaled_pos hden _) ?_
  rw [scaled_div, cast_pow2]
  calc (2 : ℝ) ^ ((52 : Nat) : Int)
      = 2 ^ (exponentOf num den + 52) * 2 ^ (-exponentOf num den) := by
        rw [← zpow_add₀ (two_ne_zero' ℝ)]
        congr 1
        push_cast
        ring
    _ ≤ num / den * 2 ^ (-exponentOf num den) := by
        gcongr
        exact le_exponentOf hnum hden h

end Quotient

section Compare

variable {num den num' den' : Nat} (hnum : num ≠ 0) (hden : den ≠ 0) (hnum' : num' ≠ 0)
  (hden' : den' ≠ 0) (h : (num / den : ℝ) ≤ num' / den')

include hden hden' h

/-- With the same exponent, the mantissas are in order. -/
theorem mantissaOf_mono (he : exponentOf num den = exponentOf num' den') :
    mantissaOf num den ≤ mantissaOf num' den' := by
  unfold mantissaOf
  refine roundDiv_mono (scaled_pos hden _) (scaled_pos hden' _) ?_
  rw [scaled_div, scaled_div, he]
  gcongr

include hnum hnum'

theorem exponentOf_mono : exponentOf num den ≤ exponentOf num' den' := by
  have hlog : ratioLog2 num den < ratioLog2 num' den' + 1 := by
    rw [← zpow_lt_zpow_iff_right₀ (one_lt_two (α := ℝ))]
    exact ((ratioLog2_spec hnum hden).1.trans h).trans_lt (ratioLog2_spec hnum' hden').2
  unfold exponentOf
  omega

theorem carriedExponent_mono : carriedExponent num den ≤ carriedExponent num' den' := by
  unfold carriedExponent
  rcases (exponentOf_mono hnum hden hnum' hden' h).lt_or_eq with hlt | heq
  · split <;> split <;> omega
  · have hle := mantissaOf_mono hden hden' h heq
    have hmost := mantissaOf_le hnum' hden'
    split <;> split <;> omega

theorem rounded_mono : (mantissaOf num den * 2 ^ exponentOf num den : ℝ) ≤
    mantissaOf num' den' * 2 ^ exponentOf num' den' := by
  rcases (exponentOf_mono hnum hden hnum' hden' h).lt_or_eq with hlt | heq
  · -- a power of two stands between the two
    have hleast : leastExponent < exponentOf num' den' :=
      (le_max_left _ _ : leastExponent ≤ exponentOf num den).trans_lt hlt
    calc (mantissaOf num den * 2 ^ exponentOf num den : ℝ)
        ≤ pow2 53 * 2 ^ exponentOf num den := by
          gcongr
          exact mantissaOf_le hnum hden
      _ = 2 ^ (exponentOf num den + 53) := by
          rw [cast_pow2, ← zpow_add₀ (two_ne_zero' ℝ)]
          congr 1
          push_cast
          ring
      _ ≤ 2 ^ (exponentOf num' den' + 52) := zpow_le_zpow_right₀ one_le_two (by omega)
      _ = pow2 52 * 2 ^ exponentOf num' den' := by
          rw [cast_pow2, ← zpow_add₀ (two_ne_zero' ℝ)]
          congr 1
          push_cast
          ring
      _ ≤ mantissaOf num' den' * 2 ^ exponentOf num' den' := by
          gcongr
          exact le_mantissaOf hnum' hden' hleast
  · rw [heq]
    gcongr
    exact mantissaOf_mono hden hden' h heq

end Compare

theorem value_ofRatio_zero (den : Nat) : (ofRatio false 0 den).value = 0 := by
  simp [ofRatio, zero, value, signed]

theorem value_ofRatio_nonneg (num den : Nat) : 0 ≤ (ofRatio false num den).value := by
  by_cases hnum : num = 0
  · rw [hnum, value_ofRatio_zero]
  · rw [value_ofRatio hnum]
    split
    · exact le_top
    · exact EReal.coe_nonneg.2 (by positivity)

/-- A larger quotient is not rounded to less. -/
theorem value_ofRatio_mono {num den num' den' : Nat} (hden : den ≠ 0) (hden' : den' ≠ 0)
    (h : (num / den : ℝ) ≤ num' / den') :
    (ofRatio false num den).value ≤ (ofRatio false num' den').value := by
  by_cases hnum : num = 0
  · rw [hnum, value_ofRatio_zero]
    exact value_ofRatio_nonneg num' den'
  · have hnum' : num' ≠ 0 := by
      rintro rfl
      have hpos : (0 : ℝ) < num / den := by positivity
      rw [Nat.cast_zero, zero_div] at h
      exact absurd h (not_le.2 hpos)
    have hcarried := carriedExponent_mono hnum hden hnum' hden' h
    rw [value_ofRatio hnum, value_ofRatio hnum']
    by_cases hlarge : greatestExponent < carriedExponent num' den'
    · rw [if_pos hlarge]
      exact le_top
    · rw [if_neg hlarge, if_neg (by omega), EReal.coe_le_coe_iff]
      exact rounded_mono hnum hden hnum' hden' h

/-! ## Rounding to decimal places -/

/-- The absolute value of a number in units of its last place after rounding. -/
def unitsOf (places m : Nat) (e : Int) : Nat :=
  roundDiv (m * pow2 e.toNat * pow10 places) (pow2 (-e).toNat)

theorem unitsOf_zero (places : Nat) (e : Int) : unitsOf places 0 e = 0 := by
  simp [unitsOf, roundDiv, pow2_pos]

theorem pow10_ne_zero (n : Nat) : pow10 n ≠ 0 := (Nat.pow_pos (by decide)).ne'

theorem value_roundPlaces (places : Nat) (s : Bool) (m : Nat) (e : Int) :
    ((finite s m e).roundPlaces places).value =
      if s then -(ofRatio false (unitsOf places m e) (pow10 places)).value
      else (ofRatio false (unitsOf places m e) (pow10 places)).value := by
  cases s
  · rfl
  · rw [if_pos rfl, ← value_neg, ← ofRatio_true]
    rfl

theorem roundPlaces_ne_nan {x : Binary64} (h : x ≠ .nan) (places : Nat) :
    x.roundPlaces places ≠ .nan := by
  cases x with
  | nan => exact absurd rfl h
  | infinity s => exact nofun
  | finite s m e => exact ofRatio_ne_nan s (unitsOf places m e) (pow10 places)

theorem unitsOf_mono (places : Nat) {m n : Nat} {e f : Int}
    (h : (m * 2 ^ e : ℝ) ≤ n * 2 ^ f) : unitsOf places m e ≤ unitsOf places n f := by
  have hdiv (m : Nat) (e : Int) :
      ((m * pow2 e.toNat * pow10 places : Nat) / (pow2 (-e).toNat : Nat) : ℝ) =
        m * 2 ^ e * pow10 places := by
    have hscaled := scaled_div (m * pow10 places) 1 (-e)
    rw [neg_neg, one_mul, Nat.cast_one, div_one] at hscaled
    rw [mul_right_comm, hscaled, Nat.cast_mul]
    ring
  refine roundDiv_mono (pow2_pos _) (pow2_pos _) ?_
  rw [hdiv, hdiv]
  gcongr

theorem value_units_mono (places : Nat) {m n : Nat} {e f : Int}
    (h : (m * 2 ^ e : ℝ) ≤ n * 2 ^ f) :
    (ofRatio false (unitsOf places m e) (pow10 places)).value ≤
      (ofRatio false (unitsOf places n f) (pow10 places)).value := by
  refine value_ofRatio_mono (pow10_ne_zero _) (pow10_ne_zero _) ?_
  have := unitsOf_mono places h
  gcongr

/-- Rounding to decimal places keeps the order. -/
theorem AtMost.roundPlaces {x y : Binary64} (h : x.AtMost y) (places : Nat) :
    (x.roundPlaces places).AtMost (y.roundPlaces places) := by
  obtain ⟨hx, hy, hle⟩ := atMost_iff.1 h
  refine atMost_iff.2 ⟨roundPlaces_ne_nan hx places, roundPlaces_ne_nan hy places, ?_⟩
  cases x with
  | nan => exact absurd rfl hx
  | infinity s =>
    cases s with
    | true => exact bot_le
    | false =>
      obtain rfl : y = .infinity false := by
        cases y with
        | nan => exact absurd rfl hy
        | infinity t => cases t <;> simp_all [value]
        | finite t n f => exact absurd hle (not_le.2 (EReal.coe_lt_top _))
      exact le_rfl
  | finite s m e =>
    cases y with
    | nan => exact absurd rfl hy
    | infinity t =>
      cases t with
      | false => exact le_top
      | true => exact absurd hle (not_le.2 (EReal.bot_lt_coe _))
    | finite t n f =>
      rw [value, value, EReal.coe_le_coe_iff, cast_signed, cast_signed] at hle
      rw [value_roundPlaces, value_roundPlaces]
      have hm : (0 : ℝ) ≤ m * 2 ^ e := by positivity
      have hn : (0 : ℝ) ≤ n * 2 ^ f := by positivity
      have hvalue (m : Nat) (e : Int) :=
        value_ofRatio_nonneg (unitsOf places m e) (pow10 places)
      cases s <;> cases t <;>
        simp only [Bool.false_eq_true, if_false, if_true, neg_mul] at hle ⊢
      · exact value_units_mono places hle
      · -- both are zero
        have hzero {k : Nat} {g : Int} (hk : (k * 2 ^ g : ℝ) = 0) : k = 0 := by
          have hpow : (2 : ℝ) ^ g ≠ 0 := zpow_ne_zero g two_ne_zero
          exact_mod_cast (mul_eq_zero.1 hk).resolve_right hpow
        obtain rfl := hzero (show (m * 2 ^ e : ℝ) = 0 by linarith)
        obtain rfl := hzero (show (n * 2 ^ f : ℝ) = 0 by linarith)
        rw [unitsOf_zero, unitsOf_zero, value_ofRatio_zero, neg_zero]
      · exact (EReal.neg_le_zero.2 (hvalue m e)).trans (hvalue n f)
      · exact EReal.neg_le_neg_iff.2 (value_units_mono places (by linarith))

end Binary64

end AddonAtlas.Number
