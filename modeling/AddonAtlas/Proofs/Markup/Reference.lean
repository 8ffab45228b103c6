import AddonAtlas.Proofs.Markup.DataFile

/-!
# Written references

A `CallList` is a value that lists calls `ref('target')`, with any text around them that holds no
such call.  The targets that are found in a text are those of the list that stands in it, if no call
starts in the text before and behind it (`refTargets_callList`).  In a tag no call starts, unless a
value holds one (`TagHead.Calm.neverStarts`).
-/

namespace AddonAtlas.Markup

open Text

def callWord : List Char := ['r', 'e', 'f', '(']

theorem callWord_ne_nil : callWord ≠ [] := List.cons_ne_nil _ _

theorem isQuote_notMem_callWord {quote : Char} (h : isQuote quote = true) : quote ∉ callWord := by
  have hword : ∀ c ∈ callWord, isQuote c = false := by simp [callWord, isQuote]
  exact fun hmem => absurd h (by simp [hword quote hmem])

/-! ## Calls -/

/-- A call as it is written, with the text before it. -/
structure WrittenCall where
  before : List Char
  lead : Blanks
  quote : Char
  target : List Char
  tail : Blanks
  no_call : ¬ callWord <:+: before
  isQuote_quote : isQuote quote = true
  target_ne_nil : target ≠ []
  quoteFree : ∀ c ∈ target, isQuote c = false

namespace WrittenCall

def text (c : WrittenCall) : List Char :=
  callWord ++ (c.lead.text ++ c.quote :: (c.target ++ c.quote :: (c.tail.text ++ [')'])))

def name (c : WrittenCall) : String :=
  .ofList c.target

/-- A call as a segment of a text. -/
def segment (c : WrittenCall) : Segment String :=
  ⟨c.before, c.text, c.name, []⟩

end WrittenCall

theorem betweenQuotes?_append {quote : Char} (hquote : isQuote quote = true) {inner : List Char}
    (hne : inner ≠ []) (hinner : ∀ c ∈ inner, isQuote c = false) (rest : List Char) :
    betweenQuotes? (quote :: (inner ++ quote :: rest)) = some (inner, rest) := by
  have hspan : (inner ++ quote :: rest).span (fun d => !isQuote d) = (inner, quote :: rest) :=
    span_append_run (by simpa using hinner) (by simp [hquote])
  obtain ⟨c, inner, rfl⟩ := List.exists_cons_of_ne_nil hne
  rw [betweenQuotes?, if_pos hquote, hspan]

theorem refCall?_text (c : WrittenCall) (before : Option Char) (rest : List Char) :
    refCall? before (c.text ++ rest) = some (c.name, c.text.length) := by
  have hquote : isBlank c.quote = false := (classes_of_isQuote c.isQuote_quote).1
  have hparen : isBlank ')' = false := by decide
  have hlead (more : List Char) :
      (c.lead.text ++ c.quote :: more).span isBlank = (c.lead.text, c.quote :: more) :=
    span_append_run c.lead.blank (by simpa using hquote)
  have htail : (c.tail.text ++ ')' :: rest).span isBlank = (c.tail.text, ')' :: rest) :=
    span_append_run c.tail.blank (by simpa using hparen)
  have htarget := betweenQuotes?_append c.isQuote_quote c.target_ne_nil c.quoteFree
    (c.tail.text ++ ')' :: rest)
  have hword (more : List Char) : after? "ref(".toList (callWord ++ more) = some more :=
    after?_append callWord more
  simp only [refCall?, WrittenCall.text, List.append_assoc, List.cons_append, List.nil_append,
    hword, Option.bind_eq_bind, Option.bind_some, hlead, htarget, htail]
  simp [after?, callWord, WrittenCall.name]
  omega

theorem refCall?_eq_none (before : Option Char) (text : List Char) (h : ¬ callWord <+: text) :
    refCall? before text = none := by
  have hword : after? "ref(".toList text = none := after?_eq_none_iff.2 h
  simp only [refCall?, hword, Option.bind_eq_bind, Option.bind_none]

/-! ## Lists of calls -/

/-- A value that lists calls, with any other text around them. -/
structure CallList where
  calls : List WrittenCall
  last : List Char
  no_call : ¬ callWord <:+: last

namespace CallList

def text (l : CallList) : List Char :=
  written l.last (l.calls.map WrittenCall.segment)

/-- The targets of the calls, in order. -/
def targets (l : CallList) : List String :=
  l.calls.map WrittenCall.name

theorem readable (l : CallList) {quote : Char} (hquote : isQuote quote = true) {trail : List Char}
    (htrail : Quiet refCall? [] trail) :
    Readable refCall? (l.last ++ quote :: trail) (l.calls.map WrittenCall.segment) := by
  obtain ⟨calls, last, no_call⟩ := l
  induction calls with
  | nil =>
    have hlast := neverStarts_append_singleton no_call (isQuote_notMem_callWord hquote)
      callWord_ne_nil
    rw [← List.singleton_append, ← List.append_assoc]
    exact quiet_append.2 ⟨quiet_of_neverStarts refCall?_eq_none hlast _, htrail⟩
  | cons c calls ih =>
    have hbefore : Quiet refCall? (c.text ++ written (last ++ quote :: trail)
        (calls.map WrittenCall.segment)) c.before :=
      quiet_of_not_infix refCall?_eq_none c.no_call (by simp [WrittenCall.text, callWord])
    exact ⟨hbefore, by simp [WrittenCall.segment, WrittenCall.text, callWord],
      fun before => refCall?_text c before _, trivial, ih⟩

end CallList

/-- The targets found in a text are those of the list in it, when no call starts around the list. -/
theorem refTargets_callList {lead trail : List Char} (hlead : NeverStarts callWord lead)
    (htrail : Quiet refCall? [] trail) {quote : Char} (hquote : isQuote quote = true)
    (l : CallList) : refTargets (lead ++ (l.text ++ quote :: trail)) = l.targets := by
  rw [refTargets, CallList.text, written_append_last,
    findAll_append_written (quiet_of_neverStarts refCall?_eq_none hlead _)
      (l.readable hquote htrail), located_values, List.map_map]
  rfl

theorem refTargets_quiet {text : List Char} (h : Quiet refCall? [] text) :
    refTargets text = [] := by
  have hreadable : Readable refCall? text [] := h
  have hfind := findAll_written hreadable
  rw [refTargets, show text = written text ([] : List (Segment String)) from rfl, hfind]
  rfl

/-! ## Tags without calls -/

/-- No value of the head holds a call. -/
def TagHead.Calm (h : TagHead) : Prop :=
  ∀ a ∈ h.attributes, ¬ callWord <:+: a.value

instance (h : TagHead) : Decidable h.Calm :=
  inferInstanceAs (Decidable (∀ a ∈ h.attributes, ¬ callWord <:+: a.value))

/-- No call starts in the name of an attribute, with its equals sign and its first quote. -/
theorem WrittenAttribute.neverStarts_name (a : WrittenAttribute) :
    NeverStarts callWord (a.gap.text ++ (a.first :: a.others ++ ['='] ++ [a.quote])) := by
  have hgap : 'r' ∉ a.gap.text := a.gap.notMem (by decide)
  have hname : '(' ∉ a.first :: a.others := by
    have hfirst : '(' ≠ a.first := fun heq => absurd a.isNameStart_first (heq ▸ by decide)
    have hothers : '(' ∉ a.others := fun hmem => absurd (a.isNamePart_others _ hmem) (by decide)
    simp [hfirst, hothers]
  have hcall : ¬ callWord <:+: a.first :: a.others := fun h =>
    hname (h.subset (by simp [callWord]))
  have hquote : 'r' ∉ [a.quote] := by
    rw [List.mem_singleton]
    rintro heq
    exact absurd a.isQuote_quote (heq ▸ by decide)
  exact (neverStarts_of_notMem hgap).append ((neverStarts_append_singleton hcall (by decide)
    callWord_ne_nil).append (neverStarts_of_notMem hquote))

theorem WrittenAttribute.neverStarts (a : WrittenAttribute) (h : ¬ callWord <:+: a.value) :
    NeverStarts callWord (a.gap.text ++ a.text) := by
  have htext : a.gap.text ++ a.text =
      a.gap.text ++ (a.first :: a.others ++ ['='] ++ [a.quote]) ++ (a.value ++ [a.quote]) := by
    simp [WrittenAttribute.text]
  rw [htext]
  exact a.neverStarts_name.append (neverStarts_append_singleton h
    (isQuote_notMem_callWord a.isQuote_quote) callWord_ne_nil)

theorem neverStarts_attributes {attributes : List WrittenAttribute}
    (h : ∀ a ∈ attributes, ¬ callWord <:+: a.value) {tail : List Char} (htail : 'r' ∉ tail) :
    NeverStarts callWord (written tail (attributes.map WrittenAttribute.segment)) := by
  induction attributes with
  | nil => exact neverStarts_of_notMem htail
  | cons a attributes ih =>
    have hrest := ih fun b hb => h b (by simp [hb])
    simp only [List.map_cons, written, WrittenAttribute.segment, List.nil_append]
    rw [← List.append_assoc]
    exact (a.neverStarts (h a (by simp))).append hrest

/-- No call starts in a tag of a field whose values hold none. -/
theorem TagHead.Calm.neverStarts {t : WrittenTag} (h : t.head.Calm) :
    NeverStarts callWord (t.text fieldName) := by
  have hlead : 'r' ∉ t.opener ++ fieldName.text := by
    rw [WrittenTag.opener]
    cases t.kind <;> decide
  have hcloser : 'r' ∉ t.closer := by
    rw [WrittenTag.closer]
    cases t.kind <;> decide
  have hhead : NeverStarts callWord t.head.text :=
    neverStarts_attributes h (t.head.tail.notMem (by decide))
  rw [WrittenTag.text, ← List.append_assoc]
  exact (neverStarts_of_notMem hlead).append (hhead.append (neverStarts_of_notMem hcloser))

end AddonAtlas.Markup
