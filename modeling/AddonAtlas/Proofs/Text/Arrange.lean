import AddonAtlas.Proofs.Text.Order

/-!
# Rearranged lists

A list is `Rearranged` if members change places but those with equal keys stay in order among
themselves.  Sorting by a key rearranges a list into one whose keys increase (`sortedForm_sortOn`), and
a list has only one such form: what is sorted does not tell how it was arranged before
(`Rearranged.sortOn_eq`).
-/

namespace AddonAtlas.Text

/-- The two lists have the same members, and those with equal keys are in the same order. -/
structure Rearranged {α κ : Type} [DecidableEq κ] (key : α → κ) (l l' : List α) : Prop where
  perm : l.Perm l'
  filter_eq : ∀ k, l.filter (fun a => decide (key a = k)) = l'.filter fun a => decide (key a = k)

namespace Rearranged

variable {α κ : Type} [DecidableEq κ] {key : α → κ} {l l' l'' : List α}

theorem refl (l : List α) : Rearranged key l l :=
  ⟨.refl l, fun _ => rfl⟩

theorem symm (h : Rearranged key l l') : Rearranged key l' l :=
  ⟨h.perm.symm, fun k => (h.filter_eq k).symm⟩

theorem trans (h : Rearranged key l l') (h' : Rearranged key l' l'') : Rearranged key l l'' :=
  ⟨h.perm.trans h'.perm, fun k => (h.filter_eq k).trans (h'.filter_eq k)⟩

/-- Neighbours with different keys may change places. -/
theorem swap {a b : α} (h : key a ≠ key b) (l : List α) :
    Rearranged key (a :: b :: l) (b :: a :: l) := by
  refine ⟨.swap b a l, fun k => ?_⟩
  by_cases ha : key a = k
  · have hb : key b ≠ k := fun hb => h (ha.trans hb.symm)
    simp [ha, hb]
  · simp [List.filter_cons, ha]

/-- What counts is which members have equal keys, not what the keys are. -/
theorem of_iff {κ' : Type} [DecidableEq κ'] {key' : α → κ'}
    (hkey : ∀ a b, key' a = key' b ↔ key a = key b) (h : Rearranged key l l') :
    Rearranged key' l l' := by
  refine ⟨h.perm, fun k => ?_⟩
  by_cases hk : ∃ a, key' a = k
  · obtain ⟨a, rfl⟩ := hk
    simpa only [hkey] using h.filter_eq (key a)
  · have hnone (a : α) : ¬key' a = k := fun ha => hk ⟨a, ha⟩
    simp [hnone]

theorem of_cons {a : α} (h : Rearranged key (a :: l) (a :: l')) : Rearranged key l l' := by
  refine ⟨h.perm.cons_inv, fun k => ?_⟩
  have hk := h.filter_eq k
  rw [List.filter_cons, List.filter_cons] at hk
  split at hk
  · exact List.tail_eq_of_cons_eq hk
  · exact hk

theorem eq_of_pairwise [PartialOrder κ] (h : Rearranged key l l')
    (hl : l.Pairwise fun a b => key a ≤ key b) (hl' : l'.Pairwise fun a b => key a ≤ key b) :
    l = l' := by
  induction l generalizing l' with
  | nil => exact h.perm.nil_eq
  | cons a l ih =>
    cases l' with
    | nil => exact h.perm.eq_nil
    | cons b l' =>
      obtain ⟨ha, hl⟩ := List.pairwise_cons.1 hl
      obtain ⟨hb, htail⟩ := List.pairwise_cons.1 hl'
      -- each head has the least key of all members
      have hab : key a ≤ key b := by
        rcases List.mem_cons.1 (h.perm.mem_iff.2 List.mem_cons_self) with hba | hmem
        · rw [hba]
        · exact ha b hmem
      have hba : key b ≤ key a := by
        rcases List.mem_cons.1 (h.perm.mem_iff.1 List.mem_cons_self) with hab' | hmem
        · rw [hab']
        · exact hb a hmem
      have hkey : key b = key a := le_antisymm hba hab
      -- so they are the first members with that key
      have hhead := h.filter_eq (key a)
      rw [List.filter_cons_of_pos (by simp), List.filter_cons_of_pos (by simp [hkey])] at hhead
      obtain rfl := List.head_eq_of_cons_eq hhead
      rw [ih h.of_cons hl htail]

end Rearranged

/-- The members of a list in the order of their keys, those with equal keys as they come in the list. -/
structure SortedForm {α : Type} (key : α → Key) (l sorted : List α) : Prop where
  rearranged : Rearranged key l sorted
  increasing : sorted.Pairwise fun a b => key a ≤ key b

section SortOn

variable {α : Type} {key : α → Key}

theorem filter_sortOn (members : List α) (k : Key) :
    (sortOn key members).filter (fun a => decide (key a = k)) =
      members.filter fun a => decide (key a = k) := by
  by_cases hk : ∃ a, key a = k
  · obtain ⟨a, rfl⟩ := hk
    have hlevel (x : α) : ((key a).le (key x) && (key x).le (key a)) = decide (key x = key a) := by
      rw [Bool.eq_iff_iff, Bool.and_eq_true, Key.le_iff, Key.le_iff, decide_eq_true_iff]
      exact ⟨fun h => le_antisymm h.2 h.1, fun h => ⟨h.ge, h.le⟩⟩
    have hsort := filter_mergeSort (fun a b c => Key.trans (key a) (key b) (key c))
      (fun a b => Key.total (key a) (key b)) members a
    simpa only [hlevel, ← sortOn_eq_mergeSort] using hsort
  · have hnone (a : α) : ¬key a = k := fun ha => hk ⟨a, ha⟩
    simp [hnone]

theorem sortedForm_sortOn (key : α → Key) (members : List α) :
    SortedForm key members (sortOn key members) where
  rearranged := ⟨(sortOn_perm key members).symm, fun k => (filter_sortOn members k).symm⟩
  increasing := (pairwise_sortOn key members).imp Key.le_iff.1

/-- How a list is arranged before it is sorted does not matter, as long as members with equal keys are in
the same order. -/
theorem Rearranged.sortOn_eq {l l' : List α} (h : Rearranged key l l') :
    sortOn key l = sortOn key l' := by
  have hl := sortedForm_sortOn key l
  have hl' := sortedForm_sortOn key l'
  exact (hl.rearranged.symm.trans (h.trans hl'.rearranged)).eq_of_pairwise hl.increasing hl'.increasing

end SortOn

end AddonAtlas.Text
