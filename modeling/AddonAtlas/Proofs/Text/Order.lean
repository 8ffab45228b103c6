import Mathlib
import AddonAtlas.Text.Order

/-!
# Sorted lists

A list whose members have different keys has only one order by key (`mergeSort_eq_of_perm`), and
sorting keeps the order of members that it does not tell apart (`pairwise_mergeSort_of_pairwise`).
Keys are ordered like lists of texts (`Key.le_iff`).  `sortOn` keeps the members of a list
(`sortOn_perm`) and puts them in the order of their keys (`pairwise_sortOn`).  `distinctSorted` lists
every member of a list once, in strictly increasing order (`distinctSorted_eq_sort`), and `insertText`
keeps that order (`pairwise_insertText`).
-/

namespace AddonAtlas.Text

section Key

variable {α κ : Type} [LinearOrder κ] [DecidableLE κ] (key : α → κ)

theorem pairwise_mergeSort_key (l : List α) :
    (l.mergeSort fun a b => decide (key a ≤ key b)).Pairwise fun a b => key a ≤ key b := by
  have htrans (a b c : α) : decide (key a ≤ key b) = true → decide (key b ≤ key c) = true →
      decide (key a ≤ key c) = true := by
    simp only [decide_eq_true_eq]
    exact le_trans
  have htotal (a b : α) : (decide (key a ≤ key b) || decide (key b ≤ key a)) = true := by
    simpa using le_total (key a) (key b)
  exact (List.pairwise_mergeSort htrans htotal l).imp of_decide_eq_true

/-- Members with different keys are sorted so that the keys increase. -/
theorem pairwise_mergeSort_lt {l : List α} (hnodup : (l.map key).Nodup) :
    (l.mergeSort fun a b => decide (key a ≤ key b)).Pairwise fun a b => key a < key b := by
  have hperm := l.mergeSort_perm fun a b => decide (key a ≤ key b)
  have hne : (l.mergeSort fun a b => decide (key a ≤ key b)).Pairwise fun a b => key a ≠ key b :=
    List.pairwise_map.1 ((hperm.map key).nodup_iff.2 hnodup)
  exact ((pairwise_mergeSort_key key l).and hne).imp fun hab => lt_of_le_of_ne hab.1 hab.2

/-- Sorting by a key gives back the arrangement in which the keys increase. -/
theorem mergeSort_eq_of_perm {l sorted : List α} (h : l.Perm sorted)
    (hsorted : sorted.Pairwise fun a b => key a < key b) :
    l.mergeSort (fun a b => decide (key a ≤ key b)) = sorted := by
  have hinj : ∀ a ∈ sorted, ∀ b ∈ sorted, key a = key b → a = b := by
    have hnodup : (sorted.map key).Nodup :=
      List.pairwise_map.2 (hsorted.imp fun hab => hab.ne)
    exact fun a ha b hb => List.inj_on_of_nodup_map hnodup ha hb
  have hperm := (l.mergeSort_perm fun a b => decide (key a ≤ key b)).trans h
  refine hperm.eq_of_pairwise (fun a b ha hb hab hba => ?_) (pairwise_mergeSort_key key l)
    (hsorted.imp le_of_lt)
  exact hinj a (hperm.subset ha) b hb (le_antisymm hab hba)

/-- Members with different keys are sorted in only one way. -/
theorem mergeSort_eq_mergeSort {l l' : List α} (h : l.Perm l') (hnodup : (l.map key).Nodup) :
    l.mergeSort (fun a b => decide (key a ≤ key b)) =
      l'.mergeSort (fun a b => decide (key a ≤ key b)) := by
  have hperm := l'.mergeSort_perm fun a b => decide (key a ≤ key b)
  exact mergeSort_eq_of_perm key (h.trans hperm.symm)
    (pairwise_mergeSort_lt key ((h.map key).nodup_iff.1 hnodup))

end Key

/-- What is left out at the end of an ordered list comes after all that stays. -/
theorem rel_of_notMem_take {α : Type} {r : α → α → Prop} {l : List α} (h : l.Pairwise r) {n : Nat}
    {a b : α} (ha : a ∈ l.take n) (hb : b ∈ l) (hleft : b ∉ l.take n) : r a b := by
  rw [← List.take_append_drop n l] at h hb
  exact (List.pairwise_append.1 h).2.2 a ha b ((List.mem_append.1 hb).resolve_left hleft)

section Stable

variable {α : Type} {le : α → α → Bool} (trans : ∀ a b c, le a b = true → le b c = true → le a c = true)
  (total : ∀ a b, (le a b || le b a) = true)

include trans total

/-- Sorting leaves the members that stand on one level with `a` as they are. -/
theorem filter_mergeSort (l : List α) (a : α) :
    (l.mergeSort le).filter (fun x => le a x && le x a) = l.filter fun x => le a x && le x a := by
  have hlevel : (l.filter fun x => le a x && le x a).Pairwise fun x y => le x y = true := by
    refine List.pairwise_of_forall_mem_list fun x hx y hy => ?_
    simp only [List.mem_filter, Bool.and_eq_true] at hx hy
    exact trans x a y hx.2.2 hy.2.1
  have hsub := (List.sublist_mergeSort trans total hlevel List.filter_sublist).filter
    fun x => le a x && le x a
  rw [List.filter_filter] at hsub
  simp only [Bool.and_self] at hsub
  exact (hsub.eq_of_length ((l.mergeSort_perm le).filter _).length_eq.symm).symm

/-- Sorting keeps the order of members that stand on one level. -/
theorem pairwise_mergeSort_of_pairwise {before : α → α → Prop} {l : List α}
    (h : l.Pairwise before) :
    (l.mergeSort le).Pairwise fun a b => le a b = true ∧ (le b a = true → before a b) := by
  rw [List.pairwise_iff_forall_sublist]
  intro a b hab
  have hle := List.pairwise_iff_forall_sublist.1 (List.pairwise_mergeSort trans total l) hab
  refine ⟨hle, fun hback => ?_⟩
  have hrefl : le a a = true := by simpa using total a a
  have hlevel := hab.filter fun x => le a x && le x a
  rw [filter_mergeSort trans total] at hlevel
  simp only [List.filter_cons, hrefl, hle, hback, Bool.and_self, if_true, List.filter_nil] at hlevel
  exact List.pairwise_iff_forall_sublist.1 h (hlevel.trans List.filter_sublist)

end Stable

/-! ## Sorting by a key -/

/-- Keys are compared like words in a dictionary. -/
theorem Key.le_iff {a b : Key} : a.le b = true ↔ a ≤ b := by
  rw [← not_lt]
  induction a generalizing b with
  | nil => simp [Key.le]
  | cons x a ih =>
    cases b with
    | nil => simp [Key.le]
    | cons y b =>
      rw [List.cons_lt_cons_iff, Key.le]
      by_cases h : x = y
      · subst h
        simp [ih]
      · simp only [beq_eq_false_iff_ne.2 h, Ne.symm h, Bool.false_eq_true, if_false, false_and, or_false,
          decide_eq_true_iff, not_lt]

theorem Key.total (a b : Key) : (a.le b || b.le a) = true := by
  rw [Bool.or_eq_true, Key.le_iff, Key.le_iff]
  exact le_total a b

theorem Key.trans (a b c : Key) (hab : a.le b = true) (hbc : b.le c = true) : a.le c = true := by
  rw [Key.le_iff] at hab hbc ⊢
  exact hab.trans hbc

theorem sortOn_eq_mergeSort {α : Type} (key : α → Key) (members : List α) :
    sortOn key members = members.mergeSort fun a b => (key a).le (key b) := by
  have hkeys : ∀ entry ∈ members.map fun m => (key m, m), entry.1 = key entry.2 := by simp
  rw [sortOn, List.map_mergeSort (s := fun a b => (key a).le (key b)) fun a ha b hb => by
    rw [hkeys a ha, hkeys b hb]]
  rw [List.map_map, Function.comp_def, List.map_id']

/-- Members that are sorted by a key are in the order of their keys. -/
theorem pairwise_sortOn {α : Type} (key : α → Key) (members : List α) :
    (sortOn key members).Pairwise fun a b => (key a).le (key b) = true := by
  rw [sortOn_eq_mergeSort]
  exact List.pairwise_mergeSort (fun a b c => Key.trans (key a) (key b) (key c))
    (fun a b => Key.total (key a) (key b)) members

theorem sortOn_perm {α : Type} (key : α → Key) (members : List α) :
    (sortOn key members).Perm members := by
  rw [sortOn_eq_mergeSort]
  exact members.mergeSort_perm _

/-- Sorting the images of members by a key sorts the members by the key of their images. -/
theorem sortOn_map {α β : Type} (key : β → Key) (f : α → β) (members : List α) :
    sortOn key (members.map f) = (sortOn (fun a => key (f a)) members).map f := by
  rw [sortOn_eq_mergeSort, sortOn_eq_mergeSort,
    List.map_mergeSort (s := fun a b => (key a).le (key b)) fun _ _ _ _ => rfl]

/-- Members with different keys are sorted by their keys in only one way. -/
theorem sortOn_eq_of_perm {α : Type} {key : α → Key} {l l' : List α} (h : l.Perm l')
    (hnodup : (l.map key).Nodup) : sortOn key l = sortOn key l' := by
  have hle : (fun a b => (key a).le (key b)) = fun a b => decide (key a ≤ key b) := by
    funext a b
    rw [Bool.eq_iff_iff, Key.le_iff, decide_eq_true_iff]
  rw [sortOn_eq_mergeSort, sortOn_eq_mergeSort, hle]
  exact mergeSort_eq_mergeSort key h hnodup

theorem length_sortOn {α : Type} (key : α → Key) (members : List α) :
    (sortOn key members).length = members.length :=
  (sortOn_perm key members).length_eq

theorem length_filter_sortOn {α : Type} (key : α → Key) (members : List α) (p : α → Bool) :
    ((sortOn key members).filter p).length = members.countP p := by
  rw [← List.countP_eq_length_filter, (sortOn_perm key members).countP_eq]

theorem nameKey_append_inj {a b : String} {rest rest' : Key} :
    nameKey a ++ rest = nameKey b ++ rest' ↔ a = b ∧ rest = rest' := by
  simp only [nameKey, List.cons_append, List.nil_append, List.cons.injEq]
  exact ⟨fun h => h.2, fun h => ⟨h.1 ▸ rfl, h⟩⟩

/-! ## Distinct members -/

theorem mem_dropRepeats {l : List String} {x : String} : x ∈ dropRepeats l ↔ x ∈ l := by
  induction l using dropRepeats.induct with
  | case1 => rfl
  | case2 y => rfl
  | case3 y z rest h ih =>
    have hyz : y = z := by simpa using h
    rw [dropRepeats, if_pos h, ih, hyz]
    simp
  | case4 y z rest h ih =>
    rw [dropRepeats, if_neg h, List.mem_cons, ih]
    exact List.mem_cons.symm

theorem pairwise_dropRepeats {l : List String} (h : l.Pairwise (· ≤ ·)) :
    (dropRepeats l).Pairwise (· < ·) := by
  induction l using dropRepeats.induct with
  | case1 => exact List.Pairwise.nil
  | case2 y => exact List.pairwise_singleton _ _
  | case3 y z rest hyz ih =>
    rw [dropRepeats, if_pos hyz]
    exact ih h.of_cons
  | case4 y z rest hyz ih =>
    rw [dropRepeats, if_neg hyz]
    refine List.pairwise_cons.2 ⟨fun x hx => ?_, ih h.of_cons⟩
    have hne : y ≠ z := by simpa using hyz
    have hle := List.pairwise_cons.1 h
    rcases List.mem_cons.1 (mem_dropRepeats.1 hx) with rfl | hx
    · exact lt_of_le_of_ne (hle.1 x (by simp)) hne
    · have hzx := (List.pairwise_cons.1 hle.2).1 x hx
      exact lt_of_lt_of_le (lt_of_le_of_ne (hle.1 z (by simp)) hne) hzx

theorem mem_distinctSorted {texts : List String} {x : String} :
    x ∈ distinctSorted texts ↔ x ∈ texts := by
  rw [distinctSorted, mem_dropRepeats, List.mem_mergeSort]

theorem pairwise_mergeSort_le (texts : List String) :
    (texts.mergeSort fun a b => decide (a ≤ b)).Pairwise (· ≤ ·) :=
  pairwise_mergeSort_key id texts

theorem pairwise_distinctSorted (texts : List String) :
    (distinctSorted texts).Pairwise (· < ·) :=
  pairwise_dropRepeats (pairwise_mergeSort_le texts)

theorem distinctSorted_congr {texts texts' : List String} (h : ∀ x, x ∈ texts ↔ x ∈ texts') :
    distinctSorted texts = distinctSorted texts' := by
  refine (pairwise_distinctSorted texts).eq_of_mem_iff (pairwise_distinctSorted texts') fun x => ?_
  rw [mem_distinctSorted, mem_distinctSorted, h]

theorem mem_insertText {text x : String} {list : List String} :
    x ∈ insertText text list ↔ x = text ∨ x ∈ list := by
  induction list with
  | nil => simp [insertText]
  | cons first rest ih =>
    unfold insertText
    split
    · next heq => simp [beq_iff_eq.1 heq]
    · split
      · simp
      · rw [List.mem_cons, ih, List.mem_cons]
        tauto

theorem pairwise_insertText {list : List String} (h : list.Pairwise (· < ·)) (text : String) :
    (insertText text list).Pairwise (· < ·) := by
  induction list with
  | nil => exact List.pairwise_singleton _ _
  | cons first rest ih =>
    obtain ⟨hfirst, hrest⟩ := List.pairwise_cons.1 h
    unfold insertText
    split
    · exact h
    · next hne =>
      have hne : text ≠ first := by simpa using hne
      split
      · next hle =>
        have hlt : text < first := lt_of_le_of_ne hle hne
        exact List.pairwise_cons.2
          ⟨List.forall_mem_cons.2 ⟨hlt, fun x hx => hlt.trans (hfirst x hx)⟩, h⟩
      · next hle =>
        refine List.pairwise_cons.2 ⟨fun x hx => ?_, ih hrest⟩
        rcases mem_insertText.1 hx with rfl | hx
        · exact lt_of_not_ge hle
        · exact hfirst x hx

theorem mem_insertTexts {texts list : List String} {x : String} :
    x ∈ insertTexts texts list ↔ x ∈ texts ∨ x ∈ list := by
  unfold insertTexts
  induction texts generalizing list with
  | nil => simp
  | cons text texts ih =>
    rw [List.foldl_cons, ih, mem_insertText, List.mem_cons]
    tauto

theorem pairwise_insertTexts {list : List String} (h : list.Pairwise (· < ·)) (texts : List String) :
    (insertTexts texts list).Pairwise (· < ·) := by
  unfold insertTexts
  induction texts generalizing list with
  | nil => exact h
  | cons text texts ih => exact ih (pairwise_insertText h text)

theorem distinctSorted_eq_sort (texts : List String) :
    distinctSorted texts = texts.toFinset.sort (· ≤ ·) := by
  refine (pairwise_distinctSorted texts).eq_of_mem_iff (Finset.sortedLT_sort _).pairwise ?_
  simp [mem_distinctSorted]

end AddonAtlas.Text
