import AddonAtlas.Proofs.Number.Order

/-!
# Sums of binary numbers in order

A sum is the exact sum of the values, rounded once (`exists_value_add`), so that sums of larger numbers are
not less (`AtMost.add`).  The same holds for the lesser and the greater one of two numbers.  Finite numbers
denote rational numbers, and are in order if these are (`AtMost.below`).  Whole numbers have a finite number
next to them unless they are too large (`isFinite_ofInt_iff`).
-/

namespace AddonAtlas.Number.Binary64

/-! ## Rational values -/

/-- The rational number that a finite number denotes. -/
def rational? : Binary64 → Option ℚ
  | .finite s m e => some (signed s m * 2 ^ e)
  | .nan | .infinity _ => none

/-- Two finite numbers whose rational values are in order. -/
def Below (x y : Binary64) : Prop :=
  ∃ p q, x.rational? = some p ∧ y.rational? = some q ∧ p ≤ q

theorem AtMost.below {x y : Binary64} (h : x.AtMost y) (hx : x.isFinite) (hy : y.isFinite) :
    x.Below y := by
  obtain ⟨-, -, hle⟩ := atMost_iff.1 h
  cases x with
  | nan | infinity => cases hx
  | finite s m e =>
    cases y with
    | nan | infinity => cases hy
    | finite t n f =>
      rw [value, value, EReal.coe_le_coe_iff] at hle
      refine ⟨_, _, rfl, rfl, (Rat.cast_le (K := ℝ)).1 ?_⟩
      push_cast
      exact hle

theorem AtMost.trans {x y z : Binary64} (hxy : x.AtMost y) (hyz : y.AtMost z) : x.AtMost z := by
  obtain ⟨hx, -, hle⟩ := atMost_iff.1 hxy
  obtain ⟨-, hz, hle'⟩ := atMost_iff.1 hyz
  exact atMost_iff.2 ⟨hx, hz, hle.trans hle'⟩

/-- What stands between two finite numbers is finite. -/
theorem isFinite_of_between {low x high : Binary64} (hlow : low.AtMost x) (hhigh : x.AtMost high)
    (hl : low.isFinite) (hh : high.isFinite) : x.isFinite := by
  cases x with
  | nan => exact absurd rfl hlow.2.1
  | finite => rfl
  | infinity s =>
    cases s with
    | true =>
      cases low with
      | nan | infinity => cases hl
      | finite => exact absurd hlow.2.2 (by simp [lt])
    | false =>
      cases high with
      | nan | infinity => cases hh
      | finite => exact absurd hhigh.2.2 (by simp [lt])

/-! ## The lesser and the greater one -/

section Choice

variable {x x' y y' : Binary64}

theorem value_lesser (hx : x ≠ .nan) (hy : y ≠ .nan) :
    (if x.lt y then x else y).value = min x.value y.value := by
  split
  · next hlt => exact (min_eq_left ((lt_iff hx hy).1 hlt).le).symm
  · next hlt => exact (min_eq_right (not_lt.1 fun h => hlt ((lt_iff hx hy).2 h))).symm

theorem value_greater (hx : x ≠ .nan) (hy : y ≠ .nan) :
    (if x.lt y then y else x).value = max x.value y.value := by
  split
  · next hlt => exact (max_eq_right ((lt_iff hx hy).1 hlt).le).symm
  · next hlt => exact (max_eq_left (not_lt.1 fun h => hlt ((lt_iff hx hy).2 h))).symm

theorem AtMost.lesser (hx : x.AtMost x') (hy : y.AtMost y') :
    (if x.lt y then x else y).AtMost (if x'.lt y' then x' else y') := by
  obtain ⟨hx₁, hx₂, hx⟩ := atMost_iff.1 hx
  obtain ⟨hy₁, hy₂, hy⟩ := atMost_iff.1 hy
  refine atMost_iff.2 ⟨by split <;> assumption, by split <;> assumption, ?_⟩
  rw [value_lesser hx₁ hy₁, value_lesser hx₂ hy₂]
  exact min_le_min hx hy

theorem AtMost.greater (hx : x.AtMost x') (hy : y.AtMost y') :
    (if x.lt y then y else x).AtMost (if x'.lt y' then y' else x') := by
  obtain ⟨hx₁, hx₂, hx⟩ := atMost_iff.1 hx
  obtain ⟨hy₁, hy₂, hy⟩ := atMost_iff.1 hy
  refine atMost_iff.2 ⟨by split <;> assumption, by split <;> assumption, ?_⟩
  rw [value_greater hx₁ hy₁, value_greater hx₂ hy₂]
  exact max_le_max hx hy

end Choice

/-! ## Sums -/

theorem value_ofScaled (n e : Int) : (ofScaled n e).value =
    if n < 0 then -(ofRatio false (n.natAbs * pow2 e.toNat) (pow2 (-e).toNat)).value
    else (ofRatio false (n.natAbs * pow2 e.toNat) (pow2 (-e).toNat)).value := by
  rw [ofScaled]
  split
  · next hn => rw [decide_eq_true hn, ofRatio_true, value_neg]
  · next hn => rw [decide_eq_false hn]

theorem scaled_quotient (n e : Int) :
    ((n.natAbs * pow2 e.toNat : Nat) / (pow2 (-e).toNat : Nat) : ℝ) = |(n : ℝ)| * 2 ^ e := by
  have h := scaled_div n.natAbs 1 (-e)
  rw [neg_neg, one_mul, Nat.cast_one, div_one] at h
  rw [h, Nat.cast_natAbs, Int.cast_abs]

/-- A larger exact value is not rounded to less, whatever the signs. -/
theorem value_ofScaled_mono {n n' e e' : Int} (h : (n * 2 ^ e : ℝ) ≤ n' * 2 ^ e') :
    (ofScaled n e).value ≤ (ofScaled n' e').value := by
  have hpow (k : Int) : (0 : ℝ) < 2 ^ k := by positivity
  have hround {n n' e e' : Int} (h : (|(n : ℝ)| * 2 ^ e) ≤ |(n' : ℝ)| * 2 ^ e') :
      (ofRatio false (n.natAbs * pow2 e.toNat) (pow2 (-e).toNat)).value ≤
        (ofRatio false (n'.natAbs * pow2 e'.toNat) (pow2 (-e').toNat)).value := by
    refine value_ofRatio_mono (pow2_pos _).ne' (pow2_pos _).ne' ?_
    rwa [scaled_quotient, scaled_quotient]
  rw [value_ofScaled, value_ofScaled]
  by_cases hn : n < 0
  · have hneg : (n : ℝ) < 0 := by exact_mod_cast hn
    rw [if_pos hn]
    by_cases hn' : n' < 0
    · have hneg' : (n' : ℝ) < 0 := by exact_mod_cast hn'
      rw [if_pos hn', EReal.neg_le_neg_iff]
      refine hround ?_
      rw [abs_of_neg hneg, abs_of_neg hneg']
      linarith
    · rw [if_neg hn']
      exact (EReal.neg_le_zero.2 (value_ofRatio_nonneg _ _)).trans (value_ofRatio_nonneg _ _)
  · have hpos : (0 : ℝ) ≤ n := by exact_mod_cast not_lt.1 hn
    have hpos' : (0 : ℝ) ≤ n' :=
      nonneg_of_mul_nonneg_left ((mul_nonneg hpos (hpow e).le).trans h) (hpow e')
    have hn' : ¬ n' < 0 := not_lt.2 (by exact_mod_cast hpos')
    rw [if_neg hn, if_neg hn']
    refine hround ?_
    rwa [abs_of_nonneg hpos, abs_of_nonneg hpos']

/-- The sum of finite numbers is their exact sum, rounded. -/
theorem exists_value_add (s t : Bool) (m k : Nat) (e f : Int) :
    ∃ n g : Int, ((finite s m e).add (finite t k f)).value = (ofScaled n g).value ∧
      (n * 2 ^ g : ℝ) = signed s m * 2 ^ e + signed t k * 2 ^ f := by
  set g := min e f with hg
  set n := signed s (m * pow2 (e - g).toNat) + signed t (k * pow2 (f - g).toNat) with hn
  refine ⟨n, g, ?_, ?_⟩
  · rw [add, ← hg, ← hn]
    split
    · next hzero => simp [hzero, ofScaled, ofRatio, zero, value, signed]
    · rfl
  · have hcancel : (2 : ℝ) ^ (-g) * 2 ^ g = 1 := by
      rw [← zpow_add₀ (two_ne_zero' ℝ), neg_add_cancel, zpow_zero]
    rw [hn, Int.cast_add, signed_scaled s m (min_le_left e f), signed_scaled t k (min_le_right e f),
      ← add_mul, mul_assoc, hcancel, mul_one]

theorem finite_add_ne_nan (s t : Bool) (m k : Nat) (e f : Int) :
    (finite s m e).add (finite t k f) ≠ .nan := by
  rw [add]
  split
  · exact Binary64.noConfusion
  · exact ofRatio_ne_nan _ _ _

/-- A number that is not negative: infinite, or finite. -/
theorem cases_of_nonneg {x : Binary64} (h : (zero false).AtMost x) :
    x = .infinity false ∨ ∃ s m e, x = .finite s m e := by
  cases x with
  | nan => exact absurd rfl h.2.1
  | finite s m e => exact .inr ⟨s, m, e, rfl⟩
  | infinity s =>
    cases s with
    | true => exact absurd h.2.2 (by simp [lt, zero])
    | false => exact .inl rfl

section Add

variable {x x' y y' : Binary64}

theorem add_infinity (h : (zero false).AtMost x) :
    x.add (.infinity false) = .infinity false ∧ (Binary64.infinity false).add x = .infinity false := by
  rcases cases_of_nonneg h with rfl | ⟨s, m, e, rfl⟩ <;> exact ⟨rfl, rfl⟩

/-- Sums of larger numbers are not less, where none is negative. -/
theorem AtMost.add (hx : x.AtMost x') (hy : y.AtMost y') (hx₀ : (zero false).AtMost x)
    (hy₀ : (zero false).AtMost y) : (x.add y).AtMost (x'.add y') := by
  have hx₀' := hx₀.trans hx
  have hy₀' := hy₀.trans hy
  -- a sum that is infinite is at least every other one
  have hmost {z : Binary64} (hz : z ≠ .nan) : z.AtMost (.infinity false) :=
    atMost_iff.2 ⟨hz, by decide, le_top⟩
  have hsum : x.add y ≠ .nan := by
    rcases cases_of_nonneg hx₀ with rfl | ⟨s, m, e, rfl⟩
    · rw [(add_infinity hy₀).2]
      decide
    · rcases cases_of_nonneg hy₀ with rfl | ⟨t, k, f, rfl⟩
      · rw [(add_infinity hx₀).1]
        decide
      · exact finite_add_ne_nan s t m k e f
  rcases cases_of_nonneg hx₀' with rfl | ⟨s', m', e', rfl⟩
  · rw [(add_infinity hy₀').2]
    exact hmost hsum
  rcases cases_of_nonneg hy₀' with rfl | ⟨t', k', f', rfl⟩
  · exact hmost hsum
  rcases cases_of_nonneg hx₀ with rfl | ⟨s, m, e, rfl⟩
  · exact absurd hx.2.2 (by simp [lt])
  rcases cases_of_nonneg hy₀ with rfl | ⟨t, k, f, rfl⟩
  · exact absurd hy.2.2 (by simp [lt])
  obtain ⟨n, g, hvalue, hexact⟩ := exists_value_add s t m k e f
  obtain ⟨n', g', hvalue', hexact'⟩ := exists_value_add s' t' m' k' e' f'
  refine atMost_iff.2 ⟨hsum, finite_add_ne_nan _ _ _ _ _ _, ?_⟩
  rw [hvalue, hvalue']
  refine value_ofScaled_mono ?_
  have hlex := (atMost_iff.1 hx).2.2
  have hley := (atMost_iff.1 hy).2.2
  rw [value, value, EReal.coe_le_coe_iff] at hlex hley
  rw [hexact, hexact']
  exact add_le_add hlex hley

/-- A sum of numbers that are not negative is not negative. -/
theorem nonneg_add (hx : (zero false).AtMost x) (hy : (zero false).AtMost y) :
    (zero false).AtMost (x.add y) := by
  have hzero : (zero false).AtMost (zero false) := .refl (by decide)
  exact hx.add hy hzero hzero

end Add

theorem nonneg_ofRatio (num den : Nat) : (zero false).AtMost (ofRatio false num den) := by
  refine atMost_iff.2 ⟨by decide, ofRatio_ne_nan _ _ _, ?_⟩
  have hzero : (zero false).value = 0 := by simp [zero, value, signed]
  rw [hzero]
  exact value_ofRatio_nonneg num den

/-- A larger numerator gives a number that is not less. -/
theorem ofRatio_mono {num num' den : Nat} (hden : den ≠ 0) (h : num ≤ num') :
    (ofRatio false num den).AtMost (ofRatio false num' den) := by
  refine atMost_iff.2 ⟨ofRatio_ne_nan _ _ _, ofRatio_ne_nan _ _ _, value_ofRatio_mono hden hden ?_⟩
  gcongr

/-! ## Whole numbers -/

theorem isFinite_neg (x : Binary64) : x.neg.isFinite = x.isFinite := by
  cases x <;> rfl

/-- The whole numbers that have a finite number next to them. -/
theorem isFinite_ofInt_iff {n : Int} : (ofInt n).isFinite ↔ n.natAbs < 2 ^ 1024 - 2 ^ 970 := by
  have hsign : (ofInt n).isFinite = (ofRatio false n.natAbs 1).isFinite := by
    unfold ofInt
    cases decide (n < 0) with
    | false => rfl
    | true => rw [ofRatio_true, isFinite_neg]
  rw [hsign]
  constructor
  · intro hfinite
    by_contra hlarge
    have hmono : (ofRatio false (2 ^ 1024 - 2 ^ 970) 1).AtMost (ofRatio false n.natAbs 1) :=
      ofRatio_mono one_ne_zero (Nat.le_of_not_lt hlarge)
    have hinfinite : ofRatio false (2 ^ 1024 - 2 ^ 970) 1 = .infinity false := by decide +kernel
    rw [hinfinite] at hmono
    cases h : ofRatio false n.natAbs 1 with
    | nan | infinity =>
      rw [h] at hfinite
      cases hfinite
    | finite s m e =>
      rw [h] at hmono
      exact absurd hmono.2.2 (by simp [lt])
  · intro hsmall
    have hmono : (ofRatio false n.natAbs 1).AtMost (ofRatio false (2 ^ 1024 - 2 ^ 970 - 1) 1) :=
      ofRatio_mono one_ne_zero (by omega)
    exact isFinite_of_between (nonneg_ofRatio _ _) hmono rfl (by decide +kernel)

end AddonAtlas.Number.Binary64
