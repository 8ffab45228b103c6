import AddonAtlas.Proofs.Text.Scan

/-!
# Where words start

`NeverStarts word text` says that no occurrence of the word starts in the text, whatever follows it.
Other than the absence of the word from the text this carries over to texts that are put together
(`NeverStarts.append`), so that it is proved piece by piece.  A recogniser that needs the word
finds nothing in such a text (`quiet_of_neverStarts`).
-/

namespace AddonAtlas.Text

/-- No occurrence of the word starts in the text, whatever follows the text. -/
def NeverStarts (word text : List Char) : Prop :=
  ∀ c s rest, c :: s <:+ text → ¬ word <+: c :: (s ++ rest)

variable {x : Char} {word text : List Char}

theorem neverStarts_nil (word : List Char) : NeverStarts word [] :=
  fun _ _ _ h => absurd (List.suffix_nil.1 h) (List.cons_ne_nil _ _)

theorem NeverStarts.append {a b : List Char} (ha : NeverStarts word a) (hb : NeverStarts word b) :
    NeverStarts word (a ++ b) := by
  rintro c s rest ⟨front, hfront⟩
  rcases List.append_eq_append_iff.1 hfront with ⟨left, rfl, hleft⟩ | ⟨left, rfl, rfl⟩
  · cases left with
    | nil => exact hb c s rest (hleft ▸ List.suffix_rfl)
    | cons d left =>
      rw [List.cons_append] at hleft
      obtain ⟨rfl, rfl⟩ := List.cons.inj hleft
      rw [List.append_assoc]
      exact ha c left (b ++ rest) (List.suffix_append _ _)
  · exact hb c s rest (List.suffix_append _ _)

theorem neverStarts_of_notMem (h : x ∉ text) : NeverStarts (x :: word) text := by
  intro c s rest hs hprefix
  obtain ⟨rfl, -⟩ := List.cons_prefix_cons.1 hprefix
  exact h (hs.subset (by simp))

/-- A text without the word never starts it once a sign stands behind it that is not in the word. -/
theorem neverStarts_append_singleton (h : ¬ word <:+: text) (hx : x ∉ word) (hne : word ≠ []) :
    NeverStarts word (text ++ [x]) := by
  rintro c s rest ⟨front, hfront⟩ hprefix
  rcases List.append_eq_append_iff.1 hfront with ⟨left, rfl, hleft⟩ | ⟨left, rfl, hleft⟩
  · -- the word would end before the sign
    rw [← List.cons_append, hleft, List.append_assoc, List.singleton_append] at hprefix
    have hword := prefix_of_prefix_append_cons hx hprefix
    exact h (hword.isInfix.trans (List.suffix_append _ _).isInfix)
  · cases left with
    | cons d left => simp at hleft
    | nil =>
      obtain ⟨rfl, -⟩ := List.cons.inj hleft
      obtain ⟨w, word, rfl⟩ := List.exists_cons_of_ne_nil hne
      obtain ⟨rfl, -⟩ := List.cons_prefix_cons.1 hprefix
      exact hx (by simp)

theorem NeverStarts.of_cons {c : Char} (h : NeverStarts word (c :: text)) : NeverStarts word text :=
  fun d s rest hs => h d s rest (hs.trans (List.suffix_cons c text))

/-- A text without the word never starts it before a sign that is not in the word. -/
theorem NeverStarts.append_left {a : List Char} (h : NeverStarts word (x :: text))
    (ha : ¬ word <:+: a) (hx : x ∉ word) (hne : word ≠ []) : NeverStarts word (a ++ x :: text) := by
  rw [← List.singleton_append, ← List.append_assoc]
  exact (neverStarts_append_singleton ha hx hne).append h.of_cons

/-- A text that never starts a word adds no occurrence of it to the text behind. -/
theorem NeverStarts.not_isInfix_append {b : List Char} (h : NeverStarts (x :: word) text)
    (hb : ¬ (x :: word) <:+: b) : ¬ (x :: word) <:+: text ++ b := by
  rintro ⟨front, back, heq⟩
  rw [List.append_assoc] at heq
  rcases List.append_eq_append_iff.1 heq with ⟨left, rfl, hleft⟩ | ⟨left, rfl, rfl⟩
  · cases left with
    | nil =>
      rw [List.nil_append] at hleft
      exact hb (hleft ▸ (List.prefix_append _ _).isInfix)
    | cons c left =>
      obtain ⟨rfl, hrest⟩ := List.cons.inj hleft
      refine h x left b (List.suffix_append _ _) ?_
      rw [List.cons_prefix_cons]
      exact ⟨rfl, back, hrest⟩
  · exact hb ⟨left, back, List.append_assoc _ _ _⟩

theorem NeverStarts.not_isInfix (h : NeverStarts (x :: word) text) : ¬ (x :: word) <:+: text := by
  simpa using h.not_isInfix_append (b := []) (by simp)

/-- Two texts without a word have none together, if the second one does not go on with it. -/
theorem not_isInfix_append {a b : List Char} (ha : ¬ (x :: word) <:+: a)
    (hb : ¬ (x :: word) <:+: b) (hhead : ∀ c ∈ b.head?, c ∉ word) :
    ¬ (x :: word) <:+: a ++ b := by
  induction a with
  | nil => exact hb
  | cons c a ih =>
    rw [List.cons_append, List.infix_cons_iff, not_or]
    constructor
    · exact fun h => ha (cons_prefix_of_append hhead h).isInfix
    · exact ih fun h => ha (h.trans (List.suffix_cons c a).isInfix)

/-- A text whose first sign is its only one of this kind never starts a word with this sign, if it
goes on from there with letters that neither start with the rest of the word nor are its start. -/
theorem neverStarts_cons (lead : List Char) (hword : ¬ word <+: lead) (hlead : ¬ lead <+: word)
    (htext : x ∉ lead ++ text) : NeverStarts (x :: word) (x :: (lead ++ text)) := by
  intro c s rest hs hprefix
  rcases List.suffix_cons_iff.1 hs with heq | hs
  · obtain ⟨rfl, rfl⟩ := List.cons.inj heq
    rw [List.cons_prefix_cons, List.append_assoc] at hprefix
    rcases List.prefix_or_prefix_of_prefix hprefix.2 (List.prefix_append lead _) with h | h
    · exact hword h
    · exact hlead h
  · exact neverStarts_of_notMem htext c s rest hs hprefix

/-- A recogniser that needs a word finds nothing in a text that never starts it. -/
theorem quiet_of_neverStarts {β : Type} {r : Option Char → List Char → Option β}
    (hr : ∀ before text, ¬ word <+: text → r before text = none) (h : NeverStarts word text)
    (rest : List Char) : Quiet r rest text :=
  quiet_of_suffix fun c s hs before => hr before _ (h c s rest hs)

end AddonAtlas.Text
