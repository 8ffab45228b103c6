import AddonAtlas.Access.Rule
import AddonAtlas.Proofs.Markup.Comment
import AddonAtlas.Screen.Entry

/-!
# Blanked texts

`Blanked text out` says that `out` is `text` with spaces over its comments: from left to right, a
comment is written over as a whole wherever one starts, and any other character stays.  There is one
such text, the one that `blankComments` gives (`blanked_iff`), and no comment is left in it
(`Blanked.not_isInfix_out`).

A comment between two texts leaves only its length to be seen (`blankComments_between`), if the text
before it does not open one itself, so that nothing that is read from the markup depends on what a
comment says (`readings_of_comments`).
-/

namespace AddonAtlas.Markup

open Text

/-! ## Where comments start -/

/-- A comment starts at the head of the text and comes to its end. -/
def StartsComment (text : List Char) : Prop :=
  ∃ c : Comment, c.text <+: text

theorem isInfix_of_contains {word text : List Char} (h : contains word text = true) :
    word <:+: text := by
  induction text with
  | nil => simp_all [contains]
  | cons c text ih =>
    rw [contains, Bool.or_eq_true, Option.isSome_iff_exists] at h
    rcases h with ⟨rest, hrest⟩ | h
    · exact List.IsPrefix.isInfix ⟨rest, (after?_eq_some_iff.1 hrest).symm⟩
    · exact (ih h).trans (List.suffix_cons c text).isInfix

/-- A text in which a comment may end has a first place where it ends. -/
theorem exists_inner_of_close {text : List Char} (h : commentClose <:+: text) :
    ∃ inner rest, text = inner ++ (commentClose ++ rest) ∧ ¬ commentClose <:+: inner := by
  induction text with
  | nil => simp [commentClose] at h
  | cons c text ih =>
    by_cases hhere : commentClose <+: c :: text
    · obtain ⟨rest, hrest⟩ := hhere
      exact ⟨[], rest, hrest.symm, by simp [commentClose]⟩
    · obtain ⟨inner, rest, rfl, hinner⟩ := ih ((List.infix_cons_iff.1 h).resolve_left hhere)
      refine ⟨c :: inner, rest, rfl, fun hclose => ?_⟩
      rcases List.infix_cons_iff.1 hclose with hclose | hclose
      · exact hhere (hclose.trans (List.prefix_append (c :: inner) _))
      · exact hinner hclose

theorem startsComment_iff {text : List Char} :
    StartsComment text ↔ ∃ rest, text = commentOpen ++ rest ∧ commentClose <:+: rest := by
  constructor
  · rintro ⟨c, rest, rfl⟩
    exact ⟨c.inner ++ (commentClose ++ rest), by simp [Comment.text], c.inner, rest, by simp⟩
  · rintro ⟨rest, rfl, hclose⟩
    obtain ⟨inner, more, rfl, hinner⟩ := exists_inner_of_close hclose
    exact ⟨⟨inner, hinner⟩, more, by simp [Comment.text]⟩

/-- There is no comment from a place on where one opens that does not come to its end. -/
theorem not_isInfix_of_unclosed {rest : List Char} (h : ¬ commentClose <:+: rest) (c : Comment) :
    ¬ c.text <:+: commentOpen ++ rest := by
  rintro ⟨front, back, heq⟩
  have hsuffix : c.inner ++ (commentClose ++ back) <:+ commentOpen ++ rest :=
    ⟨front ++ commentOpen, by simpa [Comment.text] using heq⟩
  have hlength : (c.inner ++ (commentClose ++ back)).length ≤ rest.length := by
    have hlength := congrArg List.length heq
    simp only [Comment.text, List.length_append] at hlength ⊢
    omega
  have hrest := List.suffix_of_suffix_length_le hsuffix (List.suffix_append _ _) hlength
  exact h (List.IsInfix.trans ⟨c.inner, back, by simp⟩ hrest.isInfix)

/-! ## Writing over comments -/

/-- The second text is the first one with spaces over its comments. -/
inductive Blanked : (text out : List Char) → Prop
  | nil : Blanked [] []
  /-- Where no comment starts, a character stays. -/
  | keep {c : Char} {text out : List Char} (hc : ¬ StartsComment (c :: text))
    (h : Blanked text out) : Blanked (c :: text) (c :: out)
  | comment (c : Comment) {text out : List Char} (h : Blanked text out) :
    Blanked (c.text ++ text) (c.blanked ++ out)

namespace Blanked

variable {text out : List Char}

theorem eq_self (h : Blanked text out) (hnone : ∀ c : Comment, ¬ c.text <:+: text) :
    out = text := by
  induction h with
  | nil => rfl
  | keep _ _ ih => rw [ih fun c hc => hnone c (hc.trans (List.suffix_cons _ _).isInfix)]
  | comment c _ _ => exact absurd (List.prefix_append _ _).isInfix (hnone c)

/-- A comment that opens and has no end leaves all as it is. -/
theorem eq_self_of_open (h : Blanked text out) (hopen : commentOpen <+: text)
    (hstarts : ¬ StartsComment text) : out = text := by
  obtain ⟨rest, rfl⟩ := hopen
  exact h.eq_self (not_isInfix_of_unclosed fun hclose =>
    hstarts (startsComment_iff.2 ⟨rest, rfl, hclose⟩))

theorem blankFrom_eq (h : Blanked text out) (done : List Char) :
    blankFrom false done text = done.reverse ++ out := by
  induction h generalizing done with
  | nil => simp [blankFrom]
  | comment c _ ih =>
    rw [blankFrom_comment, ih]
    simp
  | @keep c text out hc h ih =>
    by_cases hopen : commentOpen <+: c :: text
    · rw [(keep hc h).eq_self_of_open hopen hc]
      obtain ⟨rest, hrest⟩ := hopen
      have hends : commentEnds rest = false := Bool.eq_false_iff.2 fun hends =>
        hc (startsComment_iff.2 ⟨rest, hrest.symm, isInfix_of_contains hends⟩)
      rw [← hrest]
      simp [commentOpen, blankFrom, hends]
    · rw [blankFrom_outside hopen, ih]
      simp

end Blanked

theorem exists_blanked (text : List Char) : ∃ out, Blanked text out := by
  induction hsize : text.length using Nat.strong_induction_on generalizing text with
  | _ size ih =>
    by_cases hstarts : StartsComment text
    · obtain ⟨c, rest, rfl⟩ := hstarts
      have hlt : rest.length < size := by
        simp only [Comment.text, commentOpen, List.length_append, List.length_cons] at hsize
        omega
      obtain ⟨out, h⟩ := ih _ hlt rest rfl
      exact ⟨c.blanked ++ out, .comment c h⟩
    · cases text with
      | nil => exact ⟨[], .nil⟩
      | cons c text =>
        obtain ⟨out, h⟩ := ih text.length (by simp [← hsize]) text rfl
        exact ⟨c :: out, .keep hstarts h⟩

/-- The one text with spaces over the comments of `text` is that of `blankComments`. -/
theorem blanked_iff {text out : List Char} : Blanked text out ↔ out = blankComments text := by
  have heq {out : List Char} (h : Blanked text out) : out = blankComments text :=
    (h.blankFrom_eq []).symm
  constructor
  · exact heq
  · rintro rfl
    obtain ⟨out, h⟩ := exists_blanked text
    exact heq h ▸ h

theorem blanked_blankComments (text : List Char) : Blanked text (blankComments text) :=
  blanked_iff.2 rfl

/-! ## What is left of a text -/

namespace Blanked

variable {text out : List Char}

/-- A character stays or becomes a space. -/
theorem forall₂ (h : Blanked text out) : List.Forall₂ (fun a b => b = a ∨ b = ' ') text out := by
  induction h with
  | nil => exact .nil
  | keep _ _ ih => exact .cons (.inl rfl) ih
  | comment c _ ih =>
    refine List.rel_append ?_ ih
    rw [List.forall₂_iff_get]
    simp [Comment.blanked]

end Blanked

/-- A word without spaces that is left stood there before. -/
theorem append_of_forall₂ {word rest text : List Char} (hword : ' ' ∉ word)
    (h : List.Forall₂ (fun a b => b = a ∨ b = ' ') text (word ++ rest)) :
    ∃ more, text = word ++ more ∧ List.Forall₂ (fun a b => b = a ∨ b = ' ') more rest := by
  induction word generalizing text with
  | nil => exact ⟨text, rfl, h⟩
  | cons w word ih =>
    rw [List.mem_cons, not_or] at hword
    cases h with
    | cons hw h =>
      obtain ⟨more, rfl, hmore⟩ := ih hword.2 h
      exact ⟨more, by rw [hw.resolve_right (Ne.symm hword.1), List.cons_append], hmore⟩

theorem isInfix_of_forall₂ {word text out : List Char} (hword : ' ' ∉ word)
    (h : List.Forall₂ (fun a b => b = a ∨ b = ' ') text out) (hout : word <:+: out) :
    word <:+: text := by
  obtain ⟨front, back, rfl⟩ := hout
  induction front generalizing text with
  | nil =>
    rw [List.nil_append] at h
    obtain ⟨more, rfl, -⟩ := append_of_forall₂ hword h
    exact (List.prefix_append _ _).isInfix
  | cons c front ih =>
    cases h with
    | cons _ h => exact (ih h).trans (List.suffix_cons _ _).isInfix

namespace Blanked

variable {text out : List Char}

/-- No comment is left. -/
theorem not_isInfix_out (h : Blanked text out) (c : Comment) : ¬ c.text <:+: out := by
  induction h with
  | nil => simp [Comment.text, commentOpen]
  | comment d _ ih => exact (neverStarts_of_notMem d.lt_notMem_blanked).not_isInfix_append ih
  | @keep d text out hd h ih =>
    rw [List.infix_cons_iff, not_or]
    refine ⟨fun hstart => hd ?_, ih⟩
    -- what starts a comment now has been there before
    obtain ⟨rest, hout, hclose⟩ := startsComment_iff.1 ⟨c, hstart⟩
    have hall := (keep hd h).forall₂
    rw [hout] at hall
    obtain ⟨more, hmore, hrest⟩ := append_of_forall₂ (by decide) hall
    exact startsComment_iff.2 ⟨more, hmore, isInfix_of_forall₂ (by decide) hrest hclose⟩

end Blanked

theorem length_blankComments (text : List Char) : (blankComments text).length = text.length :=
  (blanked_blankComments text).forall₂.length_eq.symm

theorem not_isInfix_blankComments (text : List Char) (c : Comment) :
    ¬ c.text <:+: blankComments text :=
  (blanked_blankComments text).not_isInfix_out c

theorem blankComments_blankComments (text : List Char) :
    blankComments (blankComments text) = blankComments text :=
  (blanked_blankComments _).eq_self (not_isInfix_blankComments text)

/-! ## A comment between two texts -/

namespace Blanked

variable {text out : List Char}

/-- Texts are blanked one by one, if the first one opens no comment that goes on in the second. -/
theorem append {first left : List Char} (h : Blanked first left) (hleft : ¬ commentOpen <:+: left)
    (htext : ∀ c ∈ text.head?, c ∉ ['!', '-', '-']) (hrest : Blanked text out) :
    Blanked (first ++ text) (left ++ out) := by
  induction h with
  | nil => exact hrest
  | @comment c first left _ ih =>
    rw [List.append_assoc, List.append_assoc]
    exact .comment c (ih fun hopen => hleft (hopen.trans (List.suffix_append _ _).isInfix))
  | @keep c first left hc h ih =>
    refine .keep (fun hstarts => hleft ?_)
      (ih fun hopen => hleft (hopen.trans (List.suffix_cons _ _).isInfix))
    obtain ⟨rest, heq, -⟩ := startsComment_iff.1 hstarts
    have hopen : commentOpen <+: c :: first := cons_prefix_of_append htext ⟨rest, heq.symm⟩
    rw [(keep hc h).eq_self_of_open hopen hc]
    exact hopen.isInfix

end Blanked

/-- The comment between two texts. -/
def Comment.between (c : Comment) (pre post : List Char) : List Char :=
  pre ++ (c.text ++ post)

/-- Of a comment between two texts only the length is seen, if the first text opens no comment that
it does not close. -/
theorem blankComments_between {pre : List Char} (hpre : ¬ commentOpen <:+: blankComments pre)
    (post : List Char) (c : Comment) :
    blankComments (c.between pre post) =
      blankComments pre ++ (List.replicate (c.inner.length + 7) ' ' ++ blankComments post) := by
  have hhead : ∀ d ∈ (c.text ++ post).head?, d ∉ ['!', '-', '-'] := by
    simp [Comment.text, commentOpen]
  have hblanked : c.blanked = List.replicate (c.inner.length + 7) ' ' := by
    simp [Comment.blanked, Comment.text, commentOpen, commentClose]
  rw [← hblanked]
  exact (blanked_iff.1 ((blanked_blankComments pre).append hpre hhead
    (.comment c (blanked_blankComments post)))).symm

theorem blankComments_between_eq {pre : List Char} (hpre : ¬ commentOpen <:+: blankComments pre)
    (post : List Char) {c₁ c₂ : Comment} (hlength : c₁.inner.length = c₂.inner.length) :
    blankComments (c₁.between pre post) = blankComments (c₂.between pre post) := by
  rw [blankComments_between hpre, blankComments_between hpre, hlength]

/-- Spaces stand over exactly the comments of a text, no comment is left, and nothing else changes.
What a comment says is never read: two texts that differ only inside of a comment, by as many
characters, have the same records, self-closing elements, rules, views, actions and menus. -/
theorem readings_of_comments :
    (∀ text : List Char, (blankComments text).length = text.length ∧
      (∀ out, Blanked text out ↔ out = blankComments text) ∧
      (∀ c : Comment, ¬ c.text <:+: blankComments text) ∧
      blankComments (blankComments text) = blankComments text) ∧
    ∀ (pre post : List Char) (c₁ c₂ : Comment), ¬ commentOpen <:+: blankComments pre →
      c₁.inner.length = c₂.inner.length →
      (∀ model cap,
        records model cap (c₁.between pre post) = records model cap (c₂.between pre post)) ∧
      (∀ name,
        selfClosingElements name (c₁.between pre post) =
          selfClosingElements name (c₂.between pre post)) ∧
      ∀ module file cap,
        Access.parseRules module file cap (c₁.between pre post) =
            Access.parseRules module file cap (c₂.between pre post) ∧
          Screen.parse module file cap (c₁.between pre post) =
            Screen.parse module file cap (c₂.between pre post) := by
  refine ⟨fun text => ⟨length_blankComments text, fun _ => blanked_iff,
    not_isInfix_blankComments text, blankComments_blankComments text⟩, ?_⟩
  intro pre post c₁ c₂ hpre hlength
  have heq := blankComments_between_eq hpre post hlength
  have hrecords (model : String) (cap : Nat) :
      records model cap (c₁.between pre post) = records model cap (c₂.between pre post) := by
    rw [records, records, heq]
  have htags (name : List Char) : selfClosingElements name (c₁.between pre post) =
      selfClosingElements name (c₂.between pre post) := by
    rw [selfClosingElements, selfClosingElements, heq]
  refine ⟨hrecords, htags, fun module file cap => ⟨?_, ?_⟩⟩
  · rw [Access.parseRules, Access.parseRules, hrecords]
  · rw [Screen.parse, Screen.parse, hrecords, hrecords, htags]

/-- A comment with a menu in it, which ends in dashes. -/
def sampleMenuComment : Comment where
  inner := "<!-- <menuitem id=\"o\"/> --".toList
  no_close := by decide

/-- A comment of the same length, whose first sign does not end it. -/
def sampleLongComment : Comment where
  inner := '>' :: List.replicate 25 'x'
  no_close := by decide

theorem readings_of_comments_sample :
    (¬ commentOpen <:+: blankComments "<!--<!--> <!-".toList ∧
      sampleMenuComment.inner.length = sampleLongComment.inner.length) ∧
    Screen.parse "sale" "views.xml" 9
        (sampleMenuComment.between "<!--<!--> <!-".toList "-><menuitem id=\"m\"/><!--".toList) =
      Screen.parse "sale" "views.xml" 9
        (sampleLongComment.between "<!--<!--> <!-".toList "-><menuitem id=\"m\"/><!--".toList) := by
  have hpre : ¬ commentOpen <:+: blankComments "<!--<!--> <!-".toList := by decide
  have hlength : sampleMenuComment.inner.length = sampleLongComment.inner.length := by decide
  exact ⟨⟨hpre, hlength⟩,
    ((readings_of_comments.2 _ _ _ _ hpre hlength).2.2 "sale" "views.xml" 9).2⟩

end AddonAtlas.Markup
