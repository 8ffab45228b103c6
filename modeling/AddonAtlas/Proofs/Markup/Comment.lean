import AddonAtlas.Markup.Comment
import AddonAtlas.Proofs.Text.Start

/-!
# Written comments

A `Comment` is a comment as it is written, with any text in it that does not end it.  The signs of
a comment become spaces (`blankFrom_comment`), and a text in which no comment starts stays as it is
(`blankFrom_neverStarts`).
-/

namespace AddonAtlas.Markup

open Text

/-- What opens a comment. -/
def commentOpen : List Char := ['<', '!', '-', '-']

/-- What closes a comment. -/
def commentClose : List Char := ['-', '-', '>']

theorem contains_of_infix {word text : List Char} (h : word <:+: text) :
    contains word text = true := by
  induction text with
  | nil => simp [contains, List.infix_nil.1 h]
  | cons c text ih =>
    rw [contains, Bool.or_eq_true]
    rcases List.infix_cons_iff.1 h with ⟨rest, hrest⟩ | h
    · left
      rw [← hrest, after?_append]
      rfl
    · exact .inr (ih h)

/-! ## One step -/

theorem blankFrom_inside {c : Char} {rest : List Char} (h : ¬ commentClose <+: c :: rest)
    (done : List Char) : blankFrom true done (c :: rest) = blankFrom true (' ' :: done) rest := by
  rw [blankFrom]
  rintro rest rfl rfl
  exact h (by simp [commentClose])

theorem blankFrom_outside {c : Char} {rest : List Char} (h : ¬ commentOpen <+: c :: rest)
    (done : List Char) : blankFrom false done (c :: rest) = blankFrom false (c :: done) rest := by
  rw [blankFrom]
  rintro rest rfl rfl
  exact h (by simp [commentOpen])

/-! ## Texts and comments -/

theorem blankFrom_neverStarts {text : List Char} (h : NeverStarts commentOpen text)
    (done rest : List Char) :
    blankFrom false done (text ++ rest) = blankFrom false (text.reverse ++ done) rest := by
  induction text generalizing done with
  | nil => rfl
  | cons c text ih =>
    rw [List.cons_append, blankFrom_outside (h c text rest List.suffix_rfl), ih h.of_cons]
    simp

/-- A text in which no comment opens has none to blank. -/
theorem blankComments_of_not_isInfix {text : List Char} (h : ¬ commentOpen <:+: text) :
    blankComments text = text := by
  have hfrom (done : List Char) : blankFrom false done text = done.reverse ++ text := by
    induction text generalizing done with
    | nil => simp [blankFrom]
    | cons c text ih =>
      rw [List.infix_cons_iff, not_or] at h
      rw [blankFrom_outside h.1, ih h.2]
      simp
  exact hfrom []

/-- A comment as it is written. -/
structure Comment where
  inner : List Char
  no_close : ¬ commentClose <:+: inner

namespace Comment

def text (c : Comment) : List Char :=
  commentOpen ++ (c.inner ++ commentClose)

/-- The spaces that stand for a comment. -/
def blanked (c : Comment) : List Char :=
  List.replicate c.text.length ' '

theorem lt_notMem_blanked (c : Comment) : '<' ∉ c.blanked := by
  simp [blanked]

end Comment

/-- The inside of a comment and its end become spaces. -/
theorem blankFrom_inner {inner : List Char} (h : ¬ commentClose <:+: inner)
    (done rest : List Char) :
    blankFrom true done (inner ++ (commentClose ++ rest)) =
      blankFrom false (List.replicate (inner.length + 3) ' ' ++ done) rest := by
  induction inner generalizing done with
  | nil => rfl
  | cons c inner ih =>
    have hstep : ¬ commentClose <+: c :: (inner ++ (commentClose ++ rest)) := by
      -- the third sign of the closing word is its only `>`, so the word would stand in the inside
      intro hprefix
      rcases inner with _ | ⟨d, _ | ⟨e, inner⟩⟩
      · simp [commentClose] at hprefix
      · simp [commentClose] at hprefix
      · refine h (List.IsPrefix.isInfix ?_)
        simpa [commentClose] using hprefix
    have hinner : ¬ commentClose <:+: inner := fun hinner =>
      h (hinner.trans (List.suffix_cons c inner).isInfix)
    have hspaces : List.replicate (inner.length + 1 + 3) ' ' ++ done =
        List.replicate (inner.length + 3) ' ' ++ ' ' :: done := by
      rw [Nat.add_right_comm, List.replicate_succ', List.append_assoc, List.singleton_append]
    rw [List.cons_append, blankFrom_inside hstep, ih hinner, List.length_cons, hspaces]

theorem blankFrom_comment (c : Comment) (done rest : List Char) :
    blankFrom false done (c.text ++ rest) = blankFrom false (c.blanked.reverse ++ done) rest := by
  have hends : commentEnds (c.inner ++ (commentClose ++ rest)) = true :=
    contains_of_infix ⟨c.inner, rest, by simp [commentClose]⟩
  have hinner := blankFrom_inner c.no_close (' ' :: ' ' :: ' ' :: ' ' :: done) rest
  have hlength : c.text.length = c.inner.length + 3 + 4 := by
    simp [Comment.text, commentOpen, commentClose]
  rw [Comment.blanked, List.reverse_replicate, hlength, List.replicate_add, List.append_assoc,
    Comment.text, commentOpen, List.append_assoc, List.append_assoc]
  simpa [blankFrom, hends] using hinner

end AddonAtlas.Markup
