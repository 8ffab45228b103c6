import Mathlib

/-!
# Outcomes of fallible computations

A computation in steps has a result if all its steps have one, and fails as the first of them that fails.
There is one rule for every way to build a computation, so that a proof follows the steps of the definition
that it is about.
-/

namespace AddonAtlas

section Steps

variable {ε α β : Type} {x : Except ε α}

theorem bind_eq_ok_iff {f : α → Except ε β} {b : β} :
    x >>= f = .ok b ↔ ∃ a, x = .ok a ∧ f a = .ok b := by
  cases x <;> simp [bind, Except.bind]

theorem pure_ne_error (a : α) (fault : ε) : (pure a : Except ε α) ≠ .error fault := by
  simp [pure, Except.pure]

theorem bind_eq_error_iff {f : α → Except ε β} {fault : ε} :
    x >>= f = .error fault ↔ x = .error fault ∨ ∃ a, x = .ok a ∧ f a = .error fault := by
  cases x <;> simp [bind, Except.bind]

theorem exists_eq_ok_iff_forall : (∃ a, x = .ok a) ↔ ∀ fault, x ≠ .error fault := by
  cases x <;> simp

/-- A computation that can fail in one way only, and does so if `P`, has a result otherwise. -/
theorem exists_eq_ok_iff {cause : ε} {P : Prop} (h : ∀ fault, x = .error fault ↔ fault = cause ∧ P) :
    (∃ a, x = .ok a) ↔ ¬ P := by
  rw [exists_eq_ok_iff_forall]
  simp [h]

theorem map_eq_ok_iff {f : α → β} {b : β} : f <$> x = .ok b ↔ ∃ a, x = .ok a ∧ f a = b := by
  cases x <;> simp [Functor.map, Except.map]

theorem mapError_eq_ok_iff {δ : Type} {f : ε → δ} {a : α} : x.mapError f = .ok a ↔ x = .ok a := by
  cases x <;> simp [Except.mapError]

end Steps

/-- A list of results, one for each item, where `R` says what the result of an item is. -/
theorem mapM_eq_ok_iff_of_mem {ε α β : Type} {f : α → Except ε β} {R : α → β → Prop} {items : List α}
    {results : List β} (h : ∀ a ∈ items, ∀ b, f a = .ok b ↔ R a b) :
    items.mapM f = .ok results ↔ List.Forall₂ R items results := by
  induction items generalizing results with
  | nil => simp [pure, Except.pure, eq_comm]
  | cons a items ih =>
    replace ih (results : List β) : items.mapM f = .ok results ↔ List.Forall₂ R items results :=
      ih fun a ha => h a (List.mem_cons_of_mem _ ha)
    rw [List.mapM_cons, List.forall₂_cons_left_iff]
    simp only [← h a List.mem_cons_self]
    cases hfirst : f a with
    | error e => simp [bind, Except.bind]
    | ok b =>
      cases hrest : items.mapM f with
      | error e =>
        rw [hrest] at ih
        simp [bind, Except.bind, ← ih]
      | ok rest =>
        rw [hrest] at ih
        simp [bind, Except.bind, pure, Except.pure, ← ih, eq_comm]

theorem mapM_eq_ok_iff {ε α β : Type} {f : α → Except ε β} {items : List α} {results : List β} :
    items.mapM f = .ok results ↔ List.Forall₂ (fun a b => f a = .ok b) items results :=
  mapM_eq_ok_iff_of_mem fun _ _ _ => Iff.rfl

/-- If items can be without a result for one reason only, so can a list of them. -/
theorem mapM_eq_error_iff_of_cause {ε α β : Type} {f : α → Except ε β} {cause : ε} {P : α → Prop}
    (h : ∀ a fault, f a = .error fault ↔ fault = cause ∧ P a) {items : List α} {fault : ε} :
    items.mapM f = .error fault ↔ fault = cause ∧ ∃ a ∈ items, P a := by
  induction items with
  | nil => simp [pure, Except.pure]
  | cons a items ih =>
    simp only [List.mapM_cons, bind_eq_error_iff, ih, h, exists_and_right, exists_eq_ok_iff (h a),
      pure_ne_error, and_false, exists_const, or_false, List.mem_cons, exists_eq_or_imp]
    tauto

end AddonAtlas
