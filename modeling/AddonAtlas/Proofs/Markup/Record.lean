import AddonAtlas.Proofs.Markup.Sibling

/-!
# Records, some of which are not closed

In a text of sibling records every record is found, in order (`records_siblings`), whichever of them
lack a closing tag.  A record with a closing tag has the text before that as its body, and one without
it has the text up to the next record, or to the end: no record takes anything from its neighbours.
-/

namespace AddonAtlas.Markup

open Text

namespace Sibling

/-! ## What is told of siblings -/

section Told

variable {name : TagName}

def isClosed (s : Sibling name) : Bool :=
  match s.ending with
  | .missing => false
  | _ => true

/-- The text that belongs to an element, with the siblings `rest` behind it: up to its closing tag, or
else up to the next sibling or the end. -/
def ownText (last : Margin name) (rest : List (Sibling name)) (s : Sibling name) : List Char :=
  match s.ending, rest with
  | .closed inner _, _ => inner.text
  | _, [] => last.text
  | _, next :: _ => next.gap.text

/-- What is told of each element: its attributes, its body, and whether it is closed. -/
def told (cap : Nat) (last : Margin name) :
    List (Sibling name) → List (Attributes × List Char × Bool)
  | [] => []
  | s :: rest =>
    (firsts (s.head.attributes.map WrittenAttribute.entry), (s.ownText last rest).take cap,
      s.isClosed) :: told cap last rest

theorem closed_element (s : Sibling name) (cap start next : Nat) (rest : List Char) :
    (s.element cap start next rest).closed = s.isClosed := by
  rw [element, isClosed]
  cases s.ending <;> rfl

theorem selfClosing_element (s : Sibling name) (cap start next : Nat) (rest : List Char) :
    (s.element cap start next rest).selfClosing = s.isSelfClosing := by
  rw [element, isSelfClosing]
  cases s.ending <;> rfl

/-- Among siblings that are not self-closing the next opening tag is that of the next sibling. -/
theorem upToOpening_eq_ownText {s : Sibling name} (last : Margin name)
    {rest : List (Sibling name)} (hmissing : s.ending = .missing)
    (hrest : ∀ t ∈ rest, t.isSelfClosing = false) : upToOpening last rest = s.ownText last rest := by
  cases rest with
  | nil => simp only [upToOpening, ownText, hmissing]
  | cons t rest =>
    have hself := hrest t List.mem_cons_self
    simp [upToOpening, ownText, hmissing, hself]

theorem body_eq_ownText {s : Sibling name} (cap : Nat) (last : Margin name)
    {rest : List (Sibling name)} (hself : s.isSelfClosing = false)
    (hrest : ∀ t ∈ rest, t.isSelfClosing = false) :
    s.body cap last rest = (s.ownText last rest).take cap := by
  cases hending : s.ending with
  | closed inner tail => simp only [body, ownText, hending]
  | selfClosing => simp [isSelfClosing, hending] at hself
  | missing =>
    rw [← upToOpening_eq_ownText last hending hrest]
    simp only [body, hending]

/-- The elements of siblings that are not self-closing. -/
theorem map_elements {cap size : Nat} {last : Margin name} {offset : Nat}
    {siblings : List (Sibling name)} (hself : ∀ s ∈ siblings, s.isSelfClosing = false)
    (hsize : offset + (render last siblings).length = size) :
    (elements cap size last offset siblings).map (fun e => (e.attributes, e.body, e.closed)) =
      told cap last siblings := by
  induction siblings generalizing offset with
  | nil => rfl
  | cons s siblings ih =>
    obtain ⟨hs, hsiblings⟩ := List.forall_mem_cons.1 hself
    rw [length_render_cons] at hsize
    rw [elements, List.map_cons, ih hsiblings hsize, attributes_element, closed_element,
      s.body_element cap _ rfl hsize, body_eq_ownText cap last hs hsiblings, told]

end Told

/-! ## Comments -/

/-- The text between the tags of an element that is closed. -/
def inner? {name : TagName} (s : Sibling name) : Option (List Char) :=
  match s.ending with
  | .closed inner _ => some inner.text
  | _ => none

/-- No comment opens in the texts before and inside of an element, nor in a value of its tag. -/
def Uncommented {name : TagName} (s : Sibling name) : Prop :=
  ¬ commentOpen <:+: s.gap.text ∧ (∀ a ∈ s.head.attributes, ¬ commentOpen <:+: a.value) ∧
    ∀ inner ∈ s.inner?, ¬ commentOpen <:+: inner

instance {name : TagName} (s : Sibling name) : Decidable s.Uncommented :=
  inferInstanceAs (Decidable (_ ∧ _ ∧ ∀ inner ∈ s.inner?, ¬ commentOpen <:+: inner))

theorem neverStarts_attribute (a : WrittenAttribute) (h : ¬ commentOpen <:+: a.value) :
    NeverStarts commentOpen (a.gap.text ++ a.text) := by
  have hgap : '<' ∉ a.gap.text := a.gap.notMem (by decide)
  have hquote : a.quote ≠ '<' := fun heq => absurd a.isQuote_quote (heq ▸ by decide)
  have hname : '<' ∉ a.first :: (a.others ++ ['=', a.quote]) := by
    have hfirst : '<' ≠ a.first := fun heq => absurd a.isNameStart_first (heq ▸ by decide)
    have hothers : '<' ∉ a.others := fun hmem => absurd (a.isNamePart_others _ hmem) (by decide)
    simp [hfirst, hothers, hquote.symm]
  have hword : a.quote ∉ commentOpen := by
    have hnone : commentOpen.all (!isQuote ·) = true := by decide
    intro hmem
    have hquote := List.all_eq_true.1 hnone _ hmem
    simp [a.isQuote_quote] at hquote
  have htext : a.text = (a.first :: (a.others ++ ['=', a.quote])) ++ (a.value ++ [a.quote]) := by
    simp [WrittenAttribute.text]
  rw [htext]
  exact (neverStarts_of_notMem hgap).append ((neverStarts_of_notMem hname).append
    (neverStarts_append_singleton h hword (by decide)))

theorem neverStarts_head {h : TagHead} (hvalues : ∀ a ∈ h.attributes, ¬ commentOpen <:+: a.value) :
    NeverStarts commentOpen h.text := by
  obtain ⟨attributes, tail⟩ := h
  induction attributes with
  | nil => exact neverStarts_of_notMem (tail.notMem (by decide))
  | cons a attributes ih =>
    have htext : TagHead.text ⟨a :: attributes, tail⟩ =
        (a.gap.text ++ a.text) ++ TagHead.text ⟨attributes, tail⟩ := by
      simp [TagHead.text, written, WrittenAttribute.segment]
    obtain ⟨ha, hattributes⟩ := List.forall_mem_cons.1 hvalues
    rw [htext]
    exact (neverStarts_attribute a ha).append (ih hattributes)

theorem neverStarts_recordTag {t : WrittenTag}
    (hvalues : ∀ a ∈ t.head.attributes, ¬ commentOpen <:+: a.value) :
    NeverStarts commentOpen (t.text recordName) := by
  have hcloser : NeverStarts commentOpen t.closer := by
    apply neverStarts_of_notMem
    rw [WrittenTag.closer]
    cases t.kind <;> decide
  have hopener : NeverStarts commentOpen (t.opener ++ recordName.text) := by
    rw [WrittenTag.opener]
    cases t.kind with
    | closing =>
      exact neverStarts_cons ('/' :: recordName.text) (by decide) (by decide) (by decide)
    | opening | selfClosing =>
      exact neverStarts_cons recordName.text (by decide) (by decide) (by decide)
  rw [WrittenTag.text, ← List.append_assoc]
  exact hopener.append ((neverStarts_head hvalues).append hcloser)

/-- What follows the text between records does not go on with the opening of a comment. -/
theorem head?_tag_append (t : WrittenTag) (rest : List Char) :
    ∀ c ∈ (t.text recordName ++ rest).head?, c ∉ ['!', '-', '-'] := by
  obtain ⟨more, hmore⟩ := t.exists_text_eq recordName
  rw [hmore]
  simp

theorem Uncommented.not_isInfix_text {s : Sibling recordName} (h : s.Uncommented) {rest : List Char}
    (hrest : ¬ commentOpen <:+: rest) : ¬ commentOpen <:+: s.text ++ rest := by
  obtain ⟨-, hvalues, hinner⟩ := h
  have htag := neverStarts_recordTag (t := s.tag) hvalues
  rw [text]
  cases hending : s.ending with
  | selfClosing => exact htag.not_isInfix_append hrest
  | missing => exact htag.not_isInfix_append hrest
  | closed inner tail =>
    have hclose := neverStarts_recordTag (t := ⟨.closing, ⟨[], tail⟩⟩) (by simp)
    simp only [List.append_assoc]
    apply htag.not_isInfix_append
    exact not_isInfix_append (hinner _ (by simp [inner?, hending]))
      (hclose.not_isInfix_append hrest) (head?_tag_append _ _)

/-- No comment opens in a text of records, if none does in its parts. -/
theorem not_isInfix_render {last : Margin recordName} (hlast : ¬ commentOpen <:+: last.text)
    {siblings : List (Sibling recordName)} (h : ∀ s ∈ siblings, s.Uncommented) :
    ¬ commentOpen <:+: render last siblings := by
  induction siblings with
  | nil => exact hlast
  | cons s siblings ih =>
    obtain ⟨hs, hsiblings⟩ := List.forall_mem_cons.1 h
    have hhead : ∀ c ∈ (s.text ++ render last siblings).head?, c ∉ ['!', '-', '-'] := by
      rw [text]
      cases s.ending with
      | selfClosing => exact head?_tag_append _ _
      | missing => exact head?_tag_append _ _
      | closed inner tail =>
        rw [List.append_assoc]
        exact head?_tag_append _ _
    exact not_isInfix_append hs.1 (hs.not_isInfix_text (ih hsiblings)) hhead

/-! ## Records -/

/-- The records that are found are the siblings, each with its place. -/
theorem records_eq_elements {model : String} (cap : Nat) {last : Margin recordName}
    {siblings : List (Sibling recordName)} (hself : ∀ s ∈ siblings, s.isSelfClosing = false)
    (hid : ∀ s ∈ siblings, s.head.attr "id" ≠ "")
    (hmodel : ∀ s ∈ siblings, s.head.attr "model" = model)
    (hblank : ¬ commentOpen <:+: render last siblings) :
    records model cap (render last siblings) =
      elements cap (render last siblings).length last 0 siblings := by
  have hall (size offset : Nat) : ∀ e ∈ elements cap size last offset siblings,
      (e.attr "model" == model && e.attr "id" != "" && !e.selfClosing) = true := by
    clear hblank
    induction siblings generalizing offset with
    | nil => simp [elements]
    | cons s siblings ih =>
      simp only [List.forall_mem_cons] at hself hid hmodel
      rw [elements, List.forall_mem_cons, attr_element, attr_element, selfClosing_element]
      refine ⟨?_, ih hself.2 hid.2 hmodel.2 _⟩
      simp [hself.1, hid.1, hmodel.1]
  rw [records, blankComments_of_not_isInfix hblank, show "record".toList = recordName.text from rfl,
    elements_siblings]
  exact List.filter_eq_self.2 (hall _ _)

/-- Of sibling records of one model, any of which may lack their closing tags, all are found, in order.
A closed record has its own inner text as its body, and one that is not closed the text up to the next
record or the end. -/
theorem records_siblings {model : String} (cap : Nat) {last : Margin recordName}
    {siblings : List (Sibling recordName)} (hself : ∀ s ∈ siblings, s.isSelfClosing = false)
    (hid : ∀ s ∈ siblings, s.head.attr "id" ≠ "")
    (hmodel : ∀ s ∈ siblings, s.head.attr "model" = model)
    (hcomments : ∀ s ∈ siblings, s.Uncommented) (hlast : ¬ commentOpen <:+: last.text) :
    (records model cap (render last siblings)).map (fun e => (e.attributes, e.body, e.closed)) =
      told cap last siblings := by
  rw [records_eq_elements cap hself hid hmodel (not_isInfix_render hlast hcomments)]
  exact map_elements hself (Nat.zero_add _)

theorem quote_notMem_replicate (size : Nat) : '"' ∉ List.replicate size 'a' := by simp

/-- A text between tags. -/
def sampleFiller {name : TagName} : Filler name :=
  .plain "one".toList (by decide)

/-- A record of the model `m` with the end of a comment before it. -/
def sampleRecord (size : Nat) (ending : Ending recordName) : Sibling recordName :=
  ⟨(Filler.plain "-->".toList (by decide)).margin,
    ⟨[.id (List.replicate size 'a') (quote_notMem_replicate size), .model "m".toList (by decide)],
      .none⟩, ending⟩

/-- Two records without a closing tag around a closed one. -/
def sampleRecords : List (Sibling recordName) :=
  [sampleRecord 1 .missing,
    sampleRecord 2 (.closed sampleFiller.margin .space),
    sampleRecord 3 .missing]

theorem records_siblings_sample :
    ((∀ s ∈ sampleRecords, s.isSelfClosing = false) ∧ (∀ s ∈ sampleRecords, s.head.attr "id" ≠ "") ∧
      (∀ s ∈ sampleRecords, s.head.attr "model" = "m") ∧ (∀ s ∈ sampleRecords, s.Uncommented) ∧
      ¬ commentOpen <:+: (Filler.none : Filler recordName).margin.text) ∧
    (records "m" 2 ("--><record id=\"a\" model=\"m\">--><record id=\"aa\" model=\"m\">one" ++
        "</record >--><record id=\"aaa\" model=\"m\">").toList).map
          (fun e => (e.attributes, e.body, e.closed)) =
      [([("id", "a"), ("model", "m")], ['-', '-'], false),
        ([("id", "aa"), ("model", "m")], ['o', 'n'], true),
        ([("id", "aaa"), ("model", "m")], [], false)] := by
  have hself : ∀ s ∈ sampleRecords, s.isSelfClosing = false := by decide
  have hid : ∀ s ∈ sampleRecords, s.head.attr "id" ≠ "" := by decide
  have hmodel : ∀ s ∈ sampleRecords, s.head.attr "model" = "m" := by decide
  have hcomments : ∀ s ∈ sampleRecords, s.Uncommented := by decide
  have hlast : ¬ commentOpen <:+: (Filler.none : Filler recordName).margin.text := by decide
  have htext : ("--><record id=\"a\" model=\"m\">--><record id=\"aa\" model=\"m\">one" ++
      "</record >--><record id=\"aaa\" model=\"m\">").toList =
        render Filler.none.margin sampleRecords := by decide +kernel
  rw [htext]
  exact ⟨⟨hself, hid, hmodel, hcomments, hlast⟩,
    (records_siblings 2 hself hid hmodel hcomments hlast).trans (by decide +kernel)⟩

end Sibling

end AddonAtlas.Markup
