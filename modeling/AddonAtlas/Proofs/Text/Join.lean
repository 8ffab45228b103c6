import AddonAtlas.Proofs.Text.Scan

/-!
# Scans of two texts

A recogniser is `Local` if a match depends on the characters that it takes and on nothing before or
behind them.  When no match reaches over the place where two texts meet, the matches of both texts
together are those of the first one and those of the second one (`findAll_append`).
-/

namespace AddonAtlas.Text

variable {α : Type} {r : Recogniser α}

/-- A match depends only on the characters that it takes. -/
structure Local (r : Recogniser α) : Prop where
  sized : Sized r
  before_eq : ∀ before before' text, r before text = r before' text
  append_iff : ∀ before text more value size, size ≤ text.length →
    (r before (text ++ more) = some (value, size) ↔ r before text = some (value, size))

/-- A match of a text that goes on with `more`. -/
def Found.extend (more : List Char) (f : Found α) : Found α :=
  { f with rest := f.rest ++ more }

/-- A match of a text that stands behind `size` other characters. -/
def Found.shift (size : Nat) (f : Found α) : Found α :=
  { f with start := size + f.start, stop := size + f.stop }

/-- What is not found in a text that goes on is not found in the text. -/
theorem Local.eq_none (hr : Local r) {before : Option Char} {text more : List Char}
    (h : r before (text ++ more) = none) : r before text = none := by
  cases hmatch : r before text with
  | none => rfl
  | some found =>
    have hsize := (hr.sized _ _ _ _ hmatch).2
    rw [(hr.append_iff before text more found.1 found.2 hsize).2 hmatch] at h
    exact absurd h (by simp)

/-- A scan that starts behind other text finds the same matches, that much further on. -/
theorem findAllFrom_shift (hr : Local r) (before before' : Option Char) (size offset skip : Nat)
    (text : List Char) :
    findAllFrom r before (size + offset) skip [] text =
      (findAllFrom r before' offset skip [] text).map (Found.shift size) := by
  induction text generalizing before before' offset skip with
  | nil => rfl
  | cons c text ih =>
    cases skip with
    | succ skip => exact ih (some c) (some c) (offset + 1) skip
    | zero =>
      have hbefore := hr.before_eq before before' (c :: text)
      cases hmatch : r before' (c :: text) with
      | none =>
        simp only [findAllFrom, hbefore, hmatch]
        exact ih (some c) (some c) (offset + 1) 0
      | some found =>
        have hnext : findAllFrom r (some c) (size + offset + 1) (found.2 - 1) [] text =
            (findAllFrom r (some c) (offset + 1) (found.2 - 1) [] text).map (Found.shift size) :=
          ih (some c) (some c) (offset + 1) (found.2 - 1)
        simp only [findAllFrom, hbefore, hmatch]
        rw [findAllFrom_eq_append, hnext, findAllFrom_eq_append _ _ _ [_]]
        simp [Found.shift, Nat.add_assoc]

/-- Up to the place where two texts meet a scan finds what it finds in the first one. -/
theorem findAllFrom_append (hr : Local r) {front : List Char} (back : List Char)
    (before : Option Char) (offset : Nat) {skip : Nat} (hskip : skip ≤ front.length)
    (hjoin : ∀ f ∈ findAllFrom r before offset skip [] (front ++ back),
      f.stop ≤ offset + front.length ∨ offset + front.length ≤ f.start) :
    findAllFrom r before offset skip [] (front ++ back) =
      (findAllFrom r before offset skip [] front).map (Found.extend back) ++
        findAllFrom r (lastOf before front) (offset + front.length) 0 [] back := by
  induction front generalizing before offset skip with
  | nil =>
    obtain rfl : skip = 0 := Nat.le_zero.1 hskip
    rfl
  | cons c front ih =>
    have hlength : offset + (c :: front).length = offset + 1 + front.length := by
      rw [List.length_cons]
      omega
    rw [hlength] at hjoin ⊢
    cases skip with
    | succ skip => exact ih (some c) (offset + 1) (Nat.le_of_succ_le_succ hskip) hjoin
    | zero =>
      cases hmatch : r before (c :: (front ++ back)) with
      | none =>
        have hfront : r before (c :: front) = none := hr.eq_none hmatch
        simp only [List.cons_append, findAllFrom, hmatch, hfront] at hjoin ⊢
        exact ih (some c) (offset + 1) (Nat.zero_le _) hjoin
      | some found =>
        obtain ⟨value, size⟩ := found
        have hpos := (hr.sized _ _ _ _ hmatch).1
        simp only [List.cons_append, findAllFrom, hmatch] at hjoin ⊢
        rw [findAllFrom_eq_append, List.reverse_singleton, List.singleton_append] at hjoin ⊢
        obtain ⟨hhere, hjoin⟩ := List.forall_mem_cons.1 hjoin
        -- the match does not reach over, so it is one of the first text
        have hsize : size ≤ (c :: front).length := by
          rw [List.length_cons]
          rcases hhere with h | h <;> dsimp only at h <;> omega
        have hfront := (hr.append_iff before (c :: front) back value size hsize).1 hmatch
        rw [List.length_cons] at hsize
        have hrest : (front ++ back).drop (size - 1) = front.drop (size - 1) ++ back :=
          List.drop_append_of_le_length (by omega)
        simp only [hfront]
        rw [ih (some c) (offset + 1) (by omega) hjoin, findAllFrom_eq_append _ _ _ [_], hrest]
        rfl

/-- The matches of two texts, if none reaches over the place where they meet. -/
theorem findAll_append (hr : Local r) {front back : List Char}
    (hjoin : ∀ f ∈ findAll r (front ++ back), f.stop ≤ front.length ∨ front.length ≤ f.start) :
    findAll r (front ++ back) =
      (findAll r front).map (Found.extend back) ++
        (findAll r back).map (Found.shift front.length) := by
  have hfront := findAllFrom_append hr back none 0 (Nat.zero_le _) (by simpa [findAll] using hjoin)
  have hback := findAllFrom_shift hr (lastOf none front) none front.length 0 0 back
  rw [Nat.add_zero] at hback
  rw [findAll, hfront, Nat.zero_add, hback]
  rfl

end AddonAtlas.Text
