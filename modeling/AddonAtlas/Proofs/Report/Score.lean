import Mathlib
import AddonAtlas.Confidence

/-!
# Scores of counts in range

A score is computed from counts by floating-point numbers, which are finite unless a count is beyond
all measure.  Where the counts are in range, there is a score (`exists_score`).  Counts of one name in
several groups are added up (`get_merge_of_nodup`), so they are in range if their sum is (`get_merge_le`).
-/

namespace AddonAtlas

open Number

theorem Number.Binary64.isFinite_ofRatio (negative : Bool) {num bits : Nat} (hbits : bits ≤ 1023)
    (h : num < 2 ^ bits) (den : Nat) : (ofRatio negative num den).isFinite := by
  rw [ofRatio]
  split
  · rfl
  · next hnum =>
    have hlog : num.log2 < bits := (Nat.log2_lt hnum).2 h
    have hratio : ratioLog2 num den ≤ 1022 := by
      simp only [ratioLog2]
      split <;> omega
    have hexponent : max leastExponent (ratioLog2 num den - 52) ≤ 970 := by
      simp only [leastExponent]
      omega
    generalize max leastExponent (ratioLog2 num den - 52) = e at hexponent
    simp only
    generalize roundDiv (num * pow2 (-e).toNat) (den * pow2 e.toNat) = m
    have hgreatest : greatestExponent = 971 := rfl
    split
    · rw [if_neg (by simp only; omega)]
      rfl
    · rw [if_neg (by omega)]
      rfl

namespace Confidence

/-- No count of these metrics is too large for a score. -/
def InRange (metrics : Metrics) : Prop :=
  ∀ signal, metrics.get signal < 2 ^ 200

/-- Every signal has a positive scale and a cap that is a number of hundredths. -/
theorem exists_form {weight : Weight} (hweight : weight ∈ weights) :
    ∃ scale percent : Nat, scale ≠ 0 ∧ weight.scale = .whole scale ∧
      weight.cap = .float (.ofRatio false percent 100) := by
  simp only [weights, List.mem_cons, List.not_mem_nil, or_false] at hweight
  rcases hweight with rfl | rfl | rfl | rfl | rfl <;> exact ⟨_, _, by decide, rfl, rfl⟩

/-- A count in range adds its share of the scale, but not more than the cap. -/
theorem contribution_eq {weight : Weight} {scale : Nat} {cap : Binary64} (hzero : scale ≠ 0)
    (hscale : weight.scale = .whole scale) (hcap : weight.cap = .float cap) {count : Int}
    (hcount : count < 2 ^ 200) :
    contribution weight count =
      .ok (if cap.lt (.ofRatio false count.toNat scale) then cap
        else .ofRatio false count.toNat scale) := by
  have hfinite := Binary64.isFinite_ofRatio false (show 200 ≤ 1023 by omega)
    (show count.toNat < 2 ^ 200 by omega) scale
  have hsign : decide ((scale : Int) < 0) = false := by simp
  rw [contribution, hscale, hcap, ratio, if_neg (by exact_mod_cast hzero), Int.natAbs_natCast, hsign,
    if_pos hfinite]
  rfl

theorem exists_total {metrics : Metrics} (h : InRange metrics) (weights' : List Weight)
    (hweights : ∀ weight ∈ weights', weight ∈ weights) (baseline : Binary64) :
    ∃ sum, total weights' baseline metrics = .ok sum := by
  induction weights' generalizing baseline with
  | nil => exact ⟨baseline, rfl⟩
  | cons weight rest ih =>
    obtain ⟨scale, percent, hzero, hscale, hcap⟩ := exists_form (hweights weight List.mem_cons_self)
    have hshare := contribution_eq hzero hscale hcap (h weight.signal)
    obtain ⟨sum, hsum⟩ := ih (fun w hw => hweights w (List.mem_cons_of_mem _ hw)) (baseline.add _)
    refine ⟨sum, ?_⟩
    rw [total, List.foldlM_cons, hshare]
    exact hsum

/-- There is a score for metrics in range. -/
theorem exists_score {metrics : Metrics} (h : InRange metrics) (bounds : Bounds) :
    ∃ x, score bounds weights metrics = .ok x := by
  obtain ⟨sum, hsum⟩ := exists_total h weights (fun _ => id) bounds.baseline
  exact ⟨_, by rw [score, hsum]; rfl⟩

end Confidence

/-! ## Counts that are added up -/

theorem Metrics.lookup_map_add (metrics : Metrics) (name signal : String) (extra : Int) :
    (metrics.map fun (n, k) => if n == name then (n, k + extra) else (n, k)).lookup signal =
      (metrics.lookup signal).map fun k => if signal = name then k + extra else k := by
  induction metrics with
  | nil => rfl
  | cons entry metrics ih =>
    obtain ⟨n, k⟩ := entry
    rw [List.map_cons]
    dsimp only
    by_cases hname : n = name
    · by_cases hsignal : signal = n
      · subst hname hsignal
        simp
      · rw [if_pos (by simpa using hname), List.lookup_cons, List.lookup_cons,
          beq_eq_false_iff_ne.2 hsignal]
        exact ih
    · by_cases hsignal : signal = n
      · subst hsignal
        simp [hname]
      · rw [if_neg (by simpa using hname), List.lookup_cons, List.lookup_cons,
          beq_eq_false_iff_ne.2 hsignal]
        exact ih

theorem Metrics.get_increase (metrics : Metrics) (entry : String × Int) (signal : String) :
    (metrics.increase entry).get signal =
      metrics.get signal + if signal = entry.1 then entry.2 else 0 := by
  rw [increase, get, get]
  split
  · next hsome =>
    rw [lookup_map_add]
    by_cases hsignal : signal = entry.1
    · obtain ⟨k, hk⟩ := Option.isSome_iff_exists.1 hsome
      simp [hsignal, hk]
    · cases metrics.lookup signal <;> simp [hsignal]
  · next hnone =>
    rw [List.lookup_append, List.lookup_cons, List.lookup_nil]
    by_cases hsignal : signal = entry.1
    · simp [hsignal, Option.not_isSome_iff_eq_none.1 hnone]
    · simp [beq_eq_false_iff_ne.2 hsignal, hsignal]

theorem Metrics.get_foldl_increase (entries metrics : Metrics) (signal : String) :
    (entries.foldl increase metrics).get signal =
      metrics.get signal + (entries.map fun entry => if signal = entry.1 then entry.2 else 0).sum := by
  induction entries generalizing metrics with
  | nil => simp
  | cons entry entries ih =>
    rw [List.foldl_cons, ih, get_increase, List.map_cons, List.sum_cons, add_assoc]

/-- A count that is added up is the sum of all counts of its name. -/
theorem Metrics.get_merge (groups : List Metrics) (signal : String) :
    (Metrics.merge groups).get signal =
      (groups.flatten.map fun entry => if signal = entry.1 then entry.2 else 0).sum := by
  rw [Metrics.merge, get_foldl_increase]
  simp [get]

theorem Metrics.get_merge_le {groups : List Metrics}
    (h : ∀ group ∈ groups, ∀ entry ∈ group, 0 ≤ entry.2) (signal : String) :
    (Metrics.merge groups).get signal ≤ (groups.flatten.map (·.2)).sum := by
  rw [get_merge]
  refine List.sum_le_sum fun entry hentry => ?_
  obtain ⟨group, hgroup, hentry⟩ := List.mem_flatten.1 hentry
  have hnonneg := h group hgroup entry hentry
  split <;> omega

theorem Metrics.sum_eq_get {group : Metrics} (h : (group.map (·.1)).Nodup) (signal : String) :
    (group.map fun entry => if signal = entry.1 then entry.2 else 0).sum = group.get signal := by
  induction group with
  | nil => rfl
  | cons entry group ih =>
    obtain ⟨hnot, hrest⟩ := List.nodup_cons.1 h
    rw [List.map_cons, List.sum_cons, ih hrest, get, get, List.lookup_cons]
    by_cases hsignal : signal = entry.1
    · have hnone : group.lookup entry.1 = none := by
        rw [List.lookup_eq_none_iff]
        intro other hother
        rw [bne_iff_ne]
        exact fun heq => hnot (List.mem_map.2 ⟨other, hother, heq.symm⟩)
      simp [hnone, hsignal]
    · simp [beq_eq_false_iff_ne.2 hsignal, hsignal]

/-- Where no group has two counts of one name, the counts of the groups are added up. -/
theorem Metrics.get_merge_of_nodup {groups : List Metrics}
    (h : ∀ group ∈ groups, (group.map (·.1)).Nodup) (signal : String) :
    (Metrics.merge groups).get signal = (groups.map (·.get signal)).sum := by
  rw [get_merge]
  induction groups with
  | nil => rfl
  | cons group groups ih =>
    rw [List.flatten_cons, List.map_append, List.sum_append, List.map_cons, List.sum_cons,
      sum_eq_get (h group List.mem_cons_self), ih fun g hg => h g (List.mem_cons_of_mem _ hg)]

end AddonAtlas
