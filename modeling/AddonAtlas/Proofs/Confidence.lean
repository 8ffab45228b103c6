import AddonAtlas.Proofs.Number.Sum
import AddonAtlas.Proofs.Report.Score

/-!
# Scores in order

A score lies between its bounds (`Bounds.clamp_between`).  What a signal adds does not become less with a
larger count (`contribution_mono`), nor does a sum with larger parts, a number kept between bounds, or a
number rounded to some places; so a score does not become less with larger counts (`score_mono`).  It depends
on no other counts, and on those of the signals only as far as they are positive (`score_congr`).
-/

namespace AddonAtlas.Confidence

open Number

variable {bounds : Bounds}

/-! ## Bounds -/

theorem Bounds.clamp_between (hfloor : bounds.floor ≠ .nan) (hceiling : bounds.ceiling ≠ .nan)
    (horder : bounds.ceiling.lt bounds.floor = false) (x : Binary64) :
    bounds.floor.AtMost (bounds.clamp x) ∧ (bounds.clamp x).AtMost bounds.ceiling := by
  have hlow : (if x.lt bounds.ceiling then x else bounds.ceiling).AtMost bounds.ceiling := by
    split
    · next hlt => exact .of_lt hlt
    · exact .refl hceiling
  unfold clamp
  generalize (if x.lt bounds.ceiling then x else bounds.ceiling) = low at hlow ⊢
  dsimp only
  split
  · next hlt => exact ⟨.of_lt hlt, hlow⟩
  · exact ⟨.refl hfloor, hfloor, hceiling, horder⟩

theorem Bounds.clamp_mono (hfloor : bounds.floor ≠ .nan) (hceiling : bounds.ceiling ≠ .nan)
    {x x' : Binary64} (h : x.AtMost x') : (bounds.clamp x).AtMost (bounds.clamp x') :=
  .greater (.refl hfloor) (.lesser h (.refl hceiling))

/-! ## Larger counts -/

theorem inRange_of_counts {metrics : Metrics} (h : ∀ entry ∈ metrics, |entry.2| < 10 ^ 15) :
    InRange metrics := by
  intro signal
  rw [Metrics.get]
  cases hlookup : metrics.lookup signal with
  | none => decide
  | some count =>
    obtain ⟨before, after, rfl, -⟩ := List.lookup_eq_some_iff.1 hlookup
    have hcount : |count| < 10 ^ 15 := h (signal, count) (by simp)
    have hle : count ≤ |count| := le_abs_self count
    simp only [Option.getD_some]
    omega

/-- A larger count does not add less. -/
theorem contribution_mono {weight : Weight} (hweight : weight ∈ weights) {count count' : Int}
    (hle : count ≤ count') (hcount' : count' < 2 ^ 200) :
    ∃ share share', contribution weight count = .ok share ∧ contribution weight count' = .ok share' ∧
      (Binary64.zero false).AtMost share ∧ share.AtMost share' := by
  obtain ⟨scale, percent, hzero, hscale, hcap⟩ := exists_form hweight
  refine ⟨_, _, contribution_eq hzero hscale hcap (by omega), contribution_eq hzero hscale hcap hcount',
    ?_, ?_⟩
  · split
    · exact Binary64.nonneg_ofRatio _ _
    · exact Binary64.nonneg_ofRatio _ _
  · have hshare : (Binary64.ofRatio false count.toNat scale).AtMost
        (Binary64.ofRatio false count'.toNat scale) :=
      Binary64.ofRatio_mono hzero (Int.toNat_le_toNat hle)
    exact .lesser (.refl (Binary64.ofRatio_ne_nan _ _ _)) hshare

theorem total_cons (weight : Weight) (rest : List Weight) (baseline : Binary64) (metrics : Metrics) :
    total (weight :: rest) baseline metrics =
      (contribution weight (metrics.get weight.signal)).bind fun share =>
        total rest (baseline.add share) metrics := by
  rw [total, List.foldlM_cons]
  cases contribution weight (metrics.get weight.signal) <;> rfl

/-- Larger counts and a larger baseline do not give a smaller sum. -/
theorem total_mono {metrics metrics' : Metrics} (hrange : InRange metrics') (weights' : List Weight)
    (hweights : ∀ weight ∈ weights', weight ∈ weights ∧
      metrics.get weight.signal ≤ metrics'.get weight.signal)
    {baseline baseline' : Binary64} (hzero : (Binary64.zero false).AtMost baseline)
    (hbaseline : baseline.AtMost baseline') :
    ∃ sum sum', total weights' baseline metrics = .ok sum ∧
      total weights' baseline' metrics' = .ok sum' ∧ sum.AtMost sum' := by
  induction weights' generalizing baseline baseline' with
  | nil => exact ⟨baseline, baseline', rfl, rfl, hbaseline⟩
  | cons weight rest ih =>
    obtain ⟨⟨hweight, hle⟩, hrest⟩ := List.forall_mem_cons.1 hweights
    obtain ⟨share, share', hshare, hshare', hpos, hmono⟩ :=
      contribution_mono hweight hle (hrange weight.signal)
    obtain ⟨sum, sum', hsum, hsum', hsums⟩ :=
      ih hrest (Binary64.nonneg_add hzero hpos) (hbaseline.add hmono hzero hpos)
    refine ⟨sum, sum', ?_, ?_, hsums⟩
    · rw [total_cons, hshare, ← hsum]
      rfl
    · rw [total_cons, hshare', ← hsum']
      rfl

/-! ## What a score depends on -/

theorem contribution_congr (weight : Weight) {count count' : Int} (h : max 0 count = max 0 count') :
    contribution weight count = contribution weight count' := by
  have hcount : count.toNat = count'.toNat := by omega
  rw [contribution, hcount, ← contribution]

theorem total_congr {metrics metrics' : Metrics} {weights' : List Weight}
    (h : ∀ weight ∈ weights',
      max 0 (metrics.get weight.signal) = max 0 (metrics'.get weight.signal)) (baseline : Binary64) :
    total weights' baseline metrics = total weights' baseline metrics' := by
  induction weights' generalizing baseline with
  | nil => rfl
  | cons weight rest ih =>
    obtain ⟨hweight, hrest⟩ := List.forall_mem_cons.1 h
    rw [total_cons, total_cons, contribution_congr weight hweight]
    simp only [ih hrest]

theorem score_congr {metrics metrics' : Metrics}
    (h : ∀ weight ∈ weights,
      max 0 (metrics.get weight.signal) = max 0 (metrics'.get weight.signal)) :
    score bounds weights metrics = score bounds weights metrics' := by
  rw [score, score, total_congr h]

/-! ## Scores -/

theorem isFinite_hundredths {percent : Nat} (h : percent < 2 ^ 7) :
    (Binary64.ofRatio false percent 100).isFinite :=
  Binary64.isFinite_ofRatio false (by omega) h 100

/-- A sum that is kept between the usual bounds and rounded stays between them, since they have two places
already. -/
theorem usual_between (sum : Binary64) :
    (Binary64.ofRatio false 55 100).AtMost ((({} : Bounds).clamp sum).roundPlaces 2) ∧
      ((({} : Bounds).clamp sum).roundPlaces 2).AtMost (Binary64.ofRatio false 97 100) := by
  have hfloor : (Binary64.ofRatio false 55 100).roundPlaces 2 = .ofRatio false 55 100 := by
    decide +kernel
  have hceiling : (Binary64.ofRatio false 97 100).roundPlaces 2 = .ofRatio false 97 100 := by
    decide +kernel
  obtain ⟨hlow, hhigh⟩ := @Bounds.clamp_between {} (Binary64.ofRatio_ne_nan false 55 100)
    (Binary64.ofRatio_ne_nan false 97 100) (by decide +kernel) sum
  exact ⟨hfloor ▸ hlow.roundPlaces 2, hceiling ▸ hhigh.roundPlaces 2⟩

theorem isFinite_usual (sum : Binary64) : ((({} : Bounds).clamp sum).roundPlaces 2).isFinite :=
  Binary64.isFinite_of_between (usual_between sum).1 (usual_between sum).2
    (isFinite_hundredths (by decide)) (isFinite_hundredths (by decide))

/-- Where no count of a signal is larger than in other metrics, the score is not larger either.  Both are
numbers between the floor and the ceiling.  A negative count acts as zero, and counts of other names have
no effect. -/
theorem score_mono {metrics metrics' : Metrics}
    (hmetrics' : ∀ entry ∈ metrics', |entry.2| < 10 ^ 15)
    (hle : ∀ weight ∈ weights, metrics.get weight.signal ≤ metrics'.get weight.signal) :
    ∃ x x', score {} weights metrics = .ok x ∧ score {} weights metrics' = .ok x' ∧
      (Binary64.ofRatio false 55 100).Below x ∧ x.Below x' ∧
      x'.Below (Binary64.ofRatio false 97 100) ∧
      ∀ other : Metrics, (∀ weight ∈ weights,
        max 0 (other.get weight.signal) = max 0 (metrics.get weight.signal)) →
          score {} weights other = .ok x := by
  have hnumber (percent : Nat) : Binary64.ofRatio false percent 100 ≠ .nan :=
    Binary64.ofRatio_ne_nan _ _ _
  obtain ⟨sum, sum', hsum, hsum', hsums⟩ := total_mono (inRange_of_counts hmetrics') weights
    (fun weight hweight => ⟨hweight, hle weight hweight⟩) (Binary64.nonneg_ofRatio 55 100)
    (.refl (hnumber 55))
  have hmono := (@Bounds.clamp_mono {} (hnumber 55) (hnumber 97) _ _ hsums).roundPlaces 2
  have hscore {m : Metrics} {sum : Binary64} (h : total weights (.ofRatio false 55 100) m = .ok sum) :
      score {} weights m = .ok ((({} : Bounds).clamp sum).roundPlaces 2) := by
    rw [score, h]
    rfl
  refine ⟨_, _, hscore hsum, hscore hsum', ?_, ?_, ?_, fun other hother => ?_⟩
  · exact (usual_between sum).1.below (isFinite_hundredths (by decide)) (isFinite_usual sum)
  · exact hmono.below (isFinite_usual sum) (isFinite_usual sum')
  · exact (usual_between sum').2.below (isFinite_usual sum') (isFinite_hundredths (by decide))
  · rw [score_congr hother, hscore hsum]

theorem score_mono_sample :
    ((∀ entry ∈ ([("modules", 50), ("orm_models", 1000)] : Metrics), |entry.2| < 10 ^ 15) ∧
      ∀ weight ∈ weights, Metrics.get [("modules", -7), ("menus", 900000)] weight.signal ≤
        Metrics.get [("modules", 50), ("orm_models", 1000)] weight.signal) ∧
    ∃ x x', score {} weights [("modules", -7), ("menus", 900000)] = .ok x ∧
      score {} weights [("modules", 50), ("orm_models", 1000)] = .ok x' ∧
      (Binary64.ofRatio false 55 100).Below x ∧ x.Below x' ∧
      x'.Below (Binary64.ofRatio false 97 100) ∧
      score {} weights [] = .ok x ∧ x' = .ofRatio false 70 100 := by
  have hcounts : ∀ entry ∈ ([("modules", 50), ("orm_models", 1000)] : Metrics), |entry.2| < 10 ^ 15 := by
    decide
  have hle : ∀ weight ∈ weights, Metrics.get [("modules", -7), ("menus", 900000)] weight.signal ≤
      Metrics.get [("modules", 50), ("orm_models", 1000)] weight.signal := by
    decide +kernel
  obtain ⟨x, x', hx, hx', hlow, hmono, hhigh, hcongr⟩ := score_mono hcounts hle
  have hvalue : score {} weights [("modules", 50), ("orm_models", 1000)] =
      .ok (.ofRatio false 70 100) := by
    decide +kernel
  refine ⟨⟨hcounts, hle⟩, x, x', hx, hx', hlow, hmono, hhigh, hcongr [] (by decide +kernel), ?_⟩
  exact Except.ok.inj (hx'.symm.trans hvalue)

end AddonAtlas.Confidence
