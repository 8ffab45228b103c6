import AddonAtlas.Proofs.Text.Order
import AddonAtlas.Tally

/-!
# What a tally ranks

The names of a tally are listed once each, with how often they were counted (`counts_eq_map`), and
ranked by that (`pairwise_ranked`).  The top of the ranking is its start: it has as many names as are
asked for, or all of them (`length_top`), and every name that is left out ranks behind it
(`ranksBefore_of_notMem_top`).  Its counts add up to all that was counted, or to less if a name is left
out (`sum_top_eq_iff`).  While a tally is filled and asked in turn, every answer tells how often names
were counted before, and asking leaves the other answers as they are (`answers_history`).
-/

namespace AddonAtlas

open Text

/-- A name with its count ranks before another one: it was counted more often, or as often and comes
before it. -/
def RanksBefore (a b : String × Nat) : Prop :=
  b.2 < a.2 ∨ a.2 = b.2 ∧ a.1 < b.1

namespace Tally

/-! ## Counts -/

/-- Runs of different names hold each name in its own run only. -/
theorem count_flatten_replicate {names : List String} (hnodup : names.Nodup) (size : String → Nat)
    (x : String) :
    (names.map fun n => List.replicate (size n) n).flatten.count x =
      if x ∈ names then size x else 0 := by
  induction names with
  | nil => rfl
  | cons n names ih =>
    obtain ⟨hn, hnodup⟩ := List.nodup_cons.1 hnodup
    rw [List.map_cons, List.flatten_cons, List.count_append, ih hnodup, List.count_replicate]
    by_cases h : n = x
    · subst h
      simp [hn]
    · simp [h, Ne.symm h]

/-- Sorted names are the distinct ones, each as often as it was counted. -/
theorem mergeSort_eq_flatten (names : List String) :
    (names.mergeSort fun a b => decide (a ≤ b)) =
      ((distinctSorted names).map fun n => List.replicate (names.count n) n).flatten := by
  have horder := pairwise_distinctSorted names
  have hperm : names.Perm
      ((distinctSorted names).map fun n => List.replicate (names.count n) n).flatten := by
    rw [List.perm_iff_count]
    intro x
    rw [count_flatten_replicate (horder.imp ne_of_lt) (names.count ·)]
    by_cases hx : x ∈ names
    · rw [if_pos (mem_distinctSorted.2 hx)]
    · rw [if_neg (mem_distinctSorted.not.2 hx), List.count_eq_zero_of_not_mem hx]
  have hsorted : ((distinctSorted names).map fun n =>
      List.replicate (names.count n) n).flatten.Pairwise (· ≤ ·) := by
    rw [List.pairwise_flatten, List.forall_mem_map, List.pairwise_map]
    refine ⟨fun n _ => List.pairwise_replicate.2 (.inr le_rfl), horder.imp fun hab x hx y hy => ?_⟩
    rw [List.eq_of_mem_replicate hx, List.eq_of_mem_replicate hy]
    exact hab.le
  exact ((names.mergeSort_perm _).trans hperm).eq_of_pairwise (fun a b _ _ => le_antisymm)
    (pairwise_mergeSort_le names) hsorted

/-- The counts of a tally: its distinct names in order, each with how often it was counted. -/
theorem counts_eq_map (t : Tally) :
    t.counts = (distinctSorted t.names).map fun n => (n, t.count n) := by
  have hpos : ∀ n ∈ distinctSorted t.names, t.names.count n ≠ 0 := fun n hn =>
    (List.count_pos_iff.2 (mem_distinctSorted.1 hn)).ne'
  have hruns : (t.names.mergeSort fun a b => decide (a ≤ b)).splitBy (· == ·) =
      (distinctSorted t.names).map fun n => List.replicate (t.names.count n) n := by
    rw [List.splitBy_eq_iff]
    refine ⟨mergeSort_eq_flatten t.names, ?_, ?_, ?_⟩
    · simpa using hpos
    · rw [List.forall_mem_map]
      exact fun n _ => List.isChain_replicate_of_rel _ (beq_self_eq_true n)
    · rw [List.isChain_map]
      refine ((pairwise_distinctSorted t.names).imp_of_mem fun {a b} ha hb hab => ?_).isChain
      refine ⟨by simpa using hpos a ha, by simpa using hpos b hb, ?_⟩
      simpa using hab.ne
  rw [counts, hruns, List.map_map]
  refine List.map_congr_left fun n hn => ?_
  obtain ⟨k, hk⟩ := Nat.exists_eq_succ_of_ne_zero (hpos n hn)
  simp [Function.comp, count, hk, List.replicate_succ]

theorem mem_counts {t : Tally} {entry : String × Nat} :
    entry ∈ t.counts ↔ entry.1 ∈ t.names ∧ entry.2 = t.count entry.1 := by
  rw [counts_eq_map, List.mem_map]
  constructor
  · rintro ⟨n, hn, rfl⟩
    exact ⟨mem_distinctSorted.1 hn, rfl⟩
  · rintro ⟨hmem, hcount⟩
    exact ⟨entry.1, mem_distinctSorted.2 hmem, Prod.ext rfl hcount.symm⟩

theorem length_counts (t : Tally) : t.counts.length = t.names.toFinset.card := by
  rw [counts_eq_map, List.length_map, distinctSorted_eq_sort, Finset.length_sort]

/-! ## The ranking -/

theorem mem_ranked {t : Tally} {entry : String × Nat} :
    entry ∈ t.ranked ↔ entry.1 ∈ t.names ∧ entry.2 = t.count entry.1 := by
  rw [ranked, List.mem_mergeSort, mem_counts]

/-- A ranking is a strict one: the counts stand in the order of their names, and sorting by how often a
name was counted keeps that order where two were counted equally often. -/
theorem pairwise_ranked (t : Tally) : t.ranked.Pairwise RanksBefore := by
  have hnames : t.counts.Pairwise fun a b => a.1 < b.1 := by
    rw [counts_eq_map, List.pairwise_map]
    exact pairwise_distinctSorted t.names
  have htrans (a b c : String × Nat) : decide (b.2 ≤ a.2) = true → decide (c.2 ≤ b.2) = true →
      decide (c.2 ≤ a.2) = true := by
    simp only [decide_eq_true_eq]
    omega
  have htotal (a b : String × Nat) : (decide (b.2 ≤ a.2) || decide (a.2 ≤ b.2)) = true := by
    simpa using Nat.le_total b.2 a.2
  refine (pairwise_mergeSort_of_pairwise htrans htotal hnames).imp fun {a b} hab => ?_
  simp only [decide_eq_true_eq] at hab
  rcases Nat.lt_or_ge b.2 a.2 with hlt | hge
  · exact .inl hlt
  · exact .inr ⟨by omega, hab.2 hge⟩

theorem length_ranked (t : Tally) : t.ranked.length = t.names.toFinset.card := by
  rw [ranked, List.length_mergeSort, length_counts]

/-- Every name is counted in the ranking, as often as it comes. -/
theorem sum_ranked (t : Tally) : (t.ranked.map (·.2)).sum = t.names.length := by
  have hperm : (distinctSorted t.names).Perm t.names.dedup := by
    have hnodup : (distinctSorted t.names).Nodup := (pairwise_distinctSorted t.names).imp ne_of_lt
    rw [List.perm_ext_iff_of_nodup hnodup t.names.nodup_dedup]
    intro name
    rw [mem_distinctSorted, List.mem_dedup]
  calc (t.ranked.map (·.2)).sum
      = (t.counts.map (·.2)).sum := ((t.counts.mergeSort_perm _).map _).sum_eq
    _ = ((distinctSorted t.names).map t.count).sum := by
        rw [counts_eq_map, List.map_map]
        rfl
    _ = (t.names.dedup.map t.count).sum := (hperm.map _).sum_eq
    _ = t.names.length := List.sum_map_count_dedup_eq_length t.names

/-! ## The top of the ranking -/

theorem mem_names_of_mem_top {t : Tally} {limit : Nat} {entry : String × Nat}
    (h : entry ∈ t.top limit) : entry.1 ∈ t.names ∧ entry.2 = t.count entry.1 :=
  mem_ranked.1 (List.mem_of_mem_take h)

theorem pairwise_top (t : Tally) (limit : Nat) : (t.top limit).Pairwise RanksBefore :=
  t.pairwise_ranked.take

theorem length_top (t : Tally) (limit : Nat) :
    (t.top limit).length = min limit t.names.toFinset.card := by
  rw [top, List.length_take, length_ranked]

/-- A name that is left out ranks behind all that are listed. -/
theorem ranksBefore_of_notMem_top {t : Tally} {limit : Nat} {name : String} (hname : name ∈ t.names)
    (h : name ∉ (t.top limit).map (·.1)) {entry : String × Nat} (hentry : entry ∈ t.top limit) :
    RanksBefore entry (name, t.count name) := by
  refine rel_of_notMem_take t.pairwise_ranked hentry (mem_ranked.2 ⟨hname, rfl⟩) fun hmem => ?_
  exact h (List.mem_map.2 ⟨_, hmem, rfl⟩)

/-- The counts at the top and those that are left out add up to all names. -/
theorem sum_top_add (t : Tally) (limit : Nat) :
    ((t.top limit).map (·.2)).sum + ((t.ranked.drop limit).map (·.2)).sum = t.names.length := by
  rw [top, ← List.sum_append, ← List.map_append, List.take_append_drop, sum_ranked]

/-- The counts at the top add up to all names only if none is left out, since each of them was counted. -/
theorem sum_top_eq_iff (t : Tally) (limit : Nat) :
    ((t.top limit).map (·.2)).sum = t.names.length ↔ t.names.toFinset.card ≤ limit := by
  have hpos : ∀ entry ∈ t.ranked, 0 < entry.2 := by
    intro entry hentry
    obtain ⟨hname, hcount⟩ := mem_ranked.1 hentry
    rw [hcount]
    exact List.count_pos_iff.2 hname
  have hrest : ((t.ranked.drop limit).map (·.2)).sum = 0 ↔ t.ranked.drop limit = [] := by
    rw [List.sum_eq_zero_iff, List.forall_mem_map, List.eq_nil_iff_forall_not_mem]
    refine forall₂_congr fun entry hentry => ?_
    exact iff_of_false (hpos entry (List.mem_of_mem_drop hentry)).ne' (by simp)
  have hsum := t.sum_top_add limit
  rw [← length_ranked, ← List.drop_eq_nil_iff, ← hrest]
  omega

/-! ## Counting every name of a list once -/

section AddDistinct

variable {α : Type} (f : α → List String)

theorem count_addDistinct (t : Tally) (names : List String) (x : String) :
    (t.addDistinct names).count x = t.count x + if x ∈ names then 1 else 0 := by
  rw [count, addDistinct, List.count_append, count, Nat.add_comm]
  congr 1
  by_cases hx : x ∈ names
  · rw [if_pos hx]
    exact List.count_eq_one_of_mem ((pairwise_distinctSorted names).imp ne_of_lt)
      (mem_distinctSorted.2 hx)
  · rw [if_neg hx]
    exact List.count_eq_zero_of_not_mem (mem_distinctSorted.not.2 hx)

/-- A name is counted once for every list that holds it. -/
theorem count_foldl_addDistinct (t : Tally) (items : List α) (x : String) :
    (items.foldl (fun t item => t.addDistinct (f item)) t).count x =
      t.count x + items.countP fun item => decide (x ∈ f item) := by
  induction items generalizing t with
  | nil => rfl
  | cons item items ih =>
    rw [List.foldl_cons, ih, count_addDistinct, List.countP_cons]
    by_cases hx : x ∈ f item
    · rw [if_pos hx, if_pos (decide_eq_true hx)]
      omega
    · rw [if_neg hx, if_neg (by simpa using hx)]
      omega

theorem mem_names_foldl_addDistinct {t : Tally} {items : List α} {x : String} :
    x ∈ (items.foldl (fun t item => t.addDistinct (f item)) t).names ↔
      x ∈ t.names ∨ ∃ item ∈ items, x ∈ f item := by
  rw [← List.count_pos_iff, ← List.count_pos_iff]
  have hcount := count_foldl_addDistinct f t items x
  unfold count at hcount
  have hpos := List.countP_pos_iff (p := fun item => decide (x ∈ f item)) (l := items)
  simp only [decide_eq_true_eq] at hpos
  rw [hcount, ← hpos]
  omega

end AddDistinct

/-! ## Histories -/

/-- Does an operation count this name? -/
def Operation.adds (name : String) : Operation → Bool
  | .add names => decide (name ∈ names)
  | .count _ | .top _ => false

/-- How many operations of a history count a name. -/
def timesAdded (history : List Operation) (name : String) : Nat :=
  history.countP (Operation.adds name)

/-- The tally after a history. -/
def afterAll (t : Tally) (history : List Operation) : Tally :=
  history.foldl (fun t operation => (t.step operation).1) t

theorem count_step (t : Tally) (operation : Operation) (name : String) :
    (t.step operation).1.count name = t.count name + if operation.adds name then 1 else 0 := by
  cases operation with
  | add names => simpa [Operation.adds, step] using count_addDistinct t names name
  | count _ | top _ => rfl

theorem count_afterAll (t : Tally) (history : List Operation) (name : String) :
    (t.afterAll history).count name = t.count name + timesAdded history name := by
  induction history generalizing t with
  | nil => rfl
  | cons operation history ih =>
    rw [afterAll, List.foldl_cons, ← afterAll, ih, count_step, timesAdded, timesAdded,
      List.countP_cons]
    omega

theorem length_answers (t : Tally) (history : List Operation) :
    (t.answers history).length = history.length := by
  induction history generalizing t with
  | nil => rfl
  | cons operation history ih => rw [answers, List.length_cons, ih, List.length_cons]

/-- What comes later is answered from the tally that the earlier operations leave. -/
theorem answers_append (t : Tally) (before after : List Operation) :
    t.answers (before ++ after) = t.answers before ++ (t.afterAll before).answers after := by
  induction before generalizing t with
  | nil => rfl
  | cons operation before ih => rw [List.cons_append, answers, ih, answers]; rfl

theorem getElem?_answers (t : Tally) (before after : List Operation) (operation : Operation) :
    (t.answers (before ++ operation :: after))[before.length]? =
      some ((t.afterAll before).step operation).2 := by
  have hlength := t.length_answers before
  rw [answers_append, List.getElem?_append_right hlength.le, hlength, Nat.sub_self]
  rfl

/-- An operation that leaves the tally as it is does not change the answers to the others. -/
theorem eraseIdx_answers (t : Tally) (before after : List Operation) {operation : Operation}
    (h : ∀ u : Tally, (u.step operation).1 = u) :
    (t.answers (before ++ operation :: after)).eraseIdx before.length =
      t.answers (before ++ after) := by
  have hlength := t.length_answers before
  rw [answers_append, answers_append, List.eraseIdx_append_of_length_le hlength.le, hlength,
    Nat.sub_self, answers, h]
  rfl

/-- Every name is counted as often as operations before counted it, the ranking has the names that were
counted at all, and asking changes none of the other answers. -/
theorem answers_history (before after : List Operation) :
    (∀ name, (answers {} (before ++ .count name :: after))[before.length]? =
        some (.count (timesAdded before name)) ∧
      (answers {} (before ++ .count name :: after)).eraseIdx before.length =
        answers {} (before ++ after)) ∧
    ∃ ranking : List (String × Nat), ranking.Pairwise RanksBefore ∧
      (∀ name number, (name, number) ∈ ranking ↔ number = timesAdded before name ∧ 0 < number) ∧
      ∀ limit, (answers {} (before ++ .top limit :: after))[before.length]? =
          some (.top (ranking.take limit)) ∧
        (answers {} (before ++ .top limit :: after)).eraseIdx before.length =
          answers {} (before ++ after) := by
  have hcount (name : String) : (afterAll {} before).count name = timesAdded before name := by
    rw [count_afterAll, count, List.count_nil, Nat.zero_add]
  refine ⟨fun name => ⟨?_, eraseIdx_answers _ before after fun _ => rfl⟩,
    (afterAll {} before).ranked, pairwise_ranked _, fun name number => ?_,
    fun limit => ⟨getElem?_answers _ before after _, eraseIdx_answers _ before after fun _ => rfl⟩⟩
  · rw [getElem?_answers, step, hcount]
  · have hmem : name ∈ (afterAll {} before).names ↔ 0 < timesAdded before name := by
      rw [← List.count_pos_iff, ← hcount, count]
    rw [mem_ranked, hcount, hmem]
    constructor
    · rintro ⟨hpos, hnumber⟩
      exact ⟨hnumber, hpos.trans_eq hnumber.symm⟩
    · rintro ⟨rfl, hpos⟩
      exact ⟨hpos, rfl⟩

end Tally

end AddonAtlas
