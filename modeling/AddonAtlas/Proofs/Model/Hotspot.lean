import AddonAtlas.Proofs.Model.Map

/-!
# Hotspots

The model map lists its models by name, and the hotspots by `Record.rank`: the most extended models
first.  Both orders are strict, so that the map does not tell in which order the classes were found, and
what is left out of the hotspots ranks behind all of them (`chart_ranks`).
-/

namespace AddonAtlas

open Text Document

/-- A chart without one field of its body. -/
def Chart.without (chart : Chart) (name : String) : Chart :=
  { chart with body := chart.body.filter (·.1 != name) }

namespace Model

/-- The rank of a model: more extended models come first, then those in more modules, then those whose
name comes first. -/
def Record.rank (r : Record) : ℕᵒᵈ ×ₗ ℕᵒᵈ ×ₗ String :=
  toLex (.toDual r.extensionPoints, toLex (.toDual r.modules.length, r.model))

theorem Record.ranksBefore_eq (a b : Record) : a.ranksBefore b = decide (a.rank ≤ b.rank) := by
  rw [Bool.eq_iff_iff, decide_eq_true_iff, rank, rank, Prod.Lex.toLex_le_toLex,
    Prod.Lex.toLex_le_toLex, ranksBefore]
  by_cases hpoints : a.extensionPoints = b.extensionPoints
  · by_cases hmodules : a.modules.length = b.modules.length <;> simp [hpoints, hmodules]
  · simp [hpoints]

/-! ## The order of the models -/

theorem pairwise_records (classes : List Class) :
    (records classes).Pairwise fun a b => nameKey a.model < nameKey b.model := by
  have hnodup := nodup_models classes
  have hsorted : ((records classes).map (·.model)).Pairwise
      fun a b => (nameKey a).le (nameKey b) = true := by
    rw [map_model_records]
    exact pairwise_sortOn nameKey _
  refine (List.pairwise_map.1 (hsorted.and hnodup)).imp fun {a b} hab => ?_
  refine lt_of_le_of_ne (Key.le_iff.1 hab.1) fun heq => hab.2 ?_
  exact (nameKey_append_inj.1 (congrArg (· ++ []) heq)).1

/-! ## The order of the hotspots -/

/-- The records with their ranks in order. -/
theorem mergeSort_ranksBefore (l : List Record) :
    l.mergeSort Record.ranksBefore = l.mergeSort fun a b => decide (a.rank ≤ b.rank) := by
  congr 1
  funext a b
  exact a.ranksBefore_eq b

theorem nodup_rank (classes : List Class) : ((records classes).map Record.rank).Nodup := by
  refine List.Nodup.of_map (fun rank => (ofLex (ofLex rank).2).2) ?_
  rw [List.map_map]
  exact nodup_models classes

theorem pairwise_ranks (classes : List Class) :
    ((records classes).mergeSort Record.ranksBefore).Pairwise fun a b => a.rank < b.rank := by
  rw [mergeSort_ranksBefore]
  exact pairwise_mergeSort_lt Record.rank (nodup_rank classes)

theorem length_hotspots (limit : Nat) (l : List Record) :
    (hotspots limit l).length = min limit l.length := by
  rw [hotspots, List.length_take, List.length_mergeSort]

theorem rank_lt_of_notMem_hotspots {classes : List Class} {limit : Nat} {h r : Record}
    (hh : h ∈ hotspots limit (records classes)) (hr : r ∈ records classes)
    (hleft : r ∉ hotspots limit (records classes)) : h.rank < r.rank :=
  rel_of_notMem_take (pairwise_ranks classes) hh (List.mem_mergeSort.2 hr) hleft

/-! ## The model map -/

/-- Only the count of the classes tells how often a class was found. -/
theorem chart_congr {classes classes' : List Class} (hsame : ∀ c, c ∈ classes' ↔ c ∈ classes)
    (limits : Limits) :
    (chart limits classes').without "raw_class_entries" =
      (chart limits classes).without "raw_class_entries" := by
  rw [chart, chart, records_congr hsame]
  rfl

/-- The model map does not depend on the order in which classes are found, nor on how often, but for the
count of the classes.  It lists the models by name, and as hotspots the models with the first ranks, as
many as there is room for. -/
theorem chart_ranks (limits : Limits) (classes : List Class) :
    (∀ classes', (∀ c, c ∈ classes' ↔ c ∈ classes) →
        (chart limits classes').without "raw_class_entries" =
          (chart limits classes).without "raw_class_entries") ∧
      ((chart limits classes).body.get? "models_detected" = some (.int (records classes).length) ∧
        (chart limits classes).body.get? "model_entries" =
          some (.list ((records classes).map (·.value limits.fileSample))) ∧
        (records classes).Pairwise fun a b => nameKey a.model < nameKey b.model) ∧
      ∃ hot : List Record,
        (chart limits classes).body.get? "hotspots" = some (.list (hot.map (·.hotspotValue))) ∧
        hot.Pairwise (fun a b => a.rank < b.rank) ∧
        hot.length = min limits.hotspots (records classes).length ∧
        (∀ h ∈ hot, h ∈ records classes) ∧
        ∀ r ∈ records classes, r ∉ hot → ∀ h ∈ hot, h.rank < r.rank := by
  refine ⟨fun classes' hsame => chart_congr hsame limits, ⟨rfl, rfl, pairwise_records classes⟩,
    hotspots limits.hotspots (records classes), rfl, (pairwise_ranks classes).take, length_hotspots _ _,
    fun h hh => List.mem_mergeSort.1 (List.mem_of_mem_take hh), ?_⟩
  exact fun r hr hleft h hh => rank_lt_of_notMem_hotspots hh hr hleft

/-- Classes that are found twice, the second time in another order, and room for one hotspot. -/
theorem chart_ranks_sample :
    (chart ⟨1, 1⟩ (sampleModels.reverse ++ sampleModels)).without "raw_class_entries" =
        (chart ⟨1, 1⟩ sampleModels).without "raw_class_entries" ∧
      ∃ hot : List Record,
        (chart ⟨1, 1⟩ sampleModels).body.get? "hotspots" = some (.list (hot.map (·.hotspotValue))) ∧
        hot.length = 1 ∧ ∀ r ∈ records sampleModels, r ∉ hot → ∀ h ∈ hot, h.rank < r.rank := by
  obtain ⟨hsame, -, hot, hbody, -, hlength, -, hleft⟩ := chart_ranks ⟨1, 1⟩ sampleModels
  have hmodel : "res" ∈ (records sampleModels).map (·.model) :=
    mem_models.2 ⟨_, .tail _ (.head _), .inl ⟨by decide, rfl⟩⟩
  have hpos : 0 < (records sampleModels).length := by
    simpa only [List.length_map] using List.length_pos_of_mem hmodel
  exact ⟨hsame _ fun c => by simp, hot, hbody, hlength.trans (Nat.min_eq_left hpos), hleft⟩

end Model

end AddonAtlas
