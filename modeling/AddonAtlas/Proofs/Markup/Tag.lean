import AddonAtlas.Markup.Attribute
import AddonAtlas.Markup.Tag
import AddonAtlas.Proofs.Text.Blank
import AddonAtlas.Proofs.Text.Scan

/-!
# Written tags

Tags as they are written: a `TagHead` is the attributes of a tag with the blanks around them, a
`WrittenTag` is a tag of one of the three kinds, and a `Margin` is text between tags that holds no
tag; in a `Filler` not even the name of a tag starts.  The tags of a text that is made of margins
and written tags are exactly these (`readable_margins`, `tags_written`), and the attributes of a
head are the ones written in it, of which the first with a name counts (`attributes_text`).
-/

namespace AddonAtlas.Markup

open Text

/-! ## Attributes -/

/-- An attribute as it is written, with the blanks before it. The value may hold any character but
the quote around it. -/
structure WrittenAttribute where
  gap : Blanks
  first : Char
  others : List Char
  quote : Char
  value : List Char
  gap_ne_nil : gap.text ≠ []
  isNameStart_first : isNameStart first = true
  isNamePart_others : ∀ c ∈ others, isNamePart c = true
  isQuote_quote : isQuote quote = true
  quote_notMem_value : quote ∉ value

namespace WrittenAttribute

/-- The attribute without the blanks before it. -/
def text (a : WrittenAttribute) : List Char :=
  a.first :: (a.others ++ '=' :: a.quote :: (a.value ++ [a.quote]))

/-- The name and the value of the attribute. -/
def entry (a : WrittenAttribute) : String × String :=
  (.ofList (a.first :: a.others), .ofList a.value)

/-- The attribute as a segment of the text of a tag. -/
def segment (a : WrittenAttribute) : Segment (String × String) :=
  ⟨a.gap.text, a.text, a.entry, []⟩

end WrittenAttribute

/-- Of the entries with one name the first, in order. -/
def firsts : List (String × String) → List (String × String)
  | [] => []
  | entry :: rest => entry :: (firsts rest).filter (·.1 != entry.1)

/-- The attributes of a tag and the blanks behind them. -/
structure TagHead where
  attributes : List WrittenAttribute
  tail : Blanks

/-- The text between the name of a tag and its end. -/
def TagHead.text (h : TagHead) : List Char :=
  written h.tail.text (h.attributes.map WrittenAttribute.segment)

theorem quotedValue?_append {quote : Char} (hq : isQuote quote = true) {value : List Char}
    (hv : quote ∉ value) (rest : List Char) :
    quotedValue? (quote :: (value ++ quote :: rest)) = some (value, value.length + 2) := by
  have hrun : ∀ c ∈ value, (c != quote) = true := fun c hc => by
    simpa using ne_of_mem_of_not_mem hc hv
  have hend : ∀ c ∈ (quote :: rest).head?, (c != quote) = false := by simp
  simp [quotedValue?, hq, takeWhile_append_run hrun hend, dropWhile_append_run hrun hend]

theorem attributeAt?_text (a : WrittenAttribute) (before : Option Char) (rest : List Char) :
    attributeAt? before (a.text ++ rest) = some (a.entry, a.text.length) := by
  have hequals : isBlank '=' = false := by decide
  have hquote : isBlank a.quote = false := (classes_of_isQuote a.isQuote_quote).1
  have hend : ∀ c ∈ ('=' :: a.quote :: (a.value ++ a.quote :: rest)).head?,
      isNamePart c = false := by
    simp only [List.head?_cons, Option.mem_some_iff, forall_eq']
    decide
  simp [attributeAt?, WrittenAttribute.text, a.isNameStart_first,
    takeWhile_append_run a.isNamePart_others hend, dropWhile_append_run a.isNamePart_others hend,
    hequals, hquote, after?, quotedValue?_append a.isQuote_quote a.quote_notMem_value,
    WrittenAttribute.entry]
  omega

theorem attributeAt?_eq_none_of_isBlank {c : Char} (h : isBlank c = true) (before : Option Char)
    (text : List Char) : attributeAt? before (c :: text) = none := by
  have hstart : isNameStart c = false := by
    have := isAlphanum_eq_false_of_isBlank h
    simp_all [isNameStart, Char.isAlphanum]
  simp [attributeAt?, hstart]

theorem quiet_attributeAt?_blanks (b : Blanks) (rest : List Char) :
    Quiet attributeAt? rest b.text :=
  quiet_of_forall_mem fun c hc => attributeAt?_eq_none_of_isBlank (b.blank c hc)

theorem readable_attributes (attributes : List WrittenAttribute) (tail : Blanks) :
    Readable attributeAt? tail.text (attributes.map WrittenAttribute.segment) := by
  induction attributes with
  | nil => exact quiet_attributeAt?_blanks tail []
  | cons a attributes ih =>
    refine ⟨quiet_attributeAt?_blanks a.gap _, ?_, fun before => attributeAt?_text a before _,
      trivial, ih⟩
    simp [WrittenAttribute.segment, WrittenAttribute.text]

/-- Adding entries one by one keeps the first with each name, after those that are there. -/
theorem foldl_insertNew (known : Attributes) (entries : List (String × String)) :
    entries.foldl Attributes.insertNew known =
      known ++ (firsts entries).filter fun e => (known.lookup e.1).isNone := by
  induction entries generalizing known with
  | nil => simp [firsts]
  | cons e entries ih =>
    obtain ⟨name, value⟩ := e
    rw [List.foldl_cons, ih, firsts, Attributes.insertNew]
    cases hlookup : known.lookup name with
    | some known' =>
      simp only [hlookup, Option.isSome_some, if_true, List.filter_cons, Option.isNone_some,
        Bool.false_eq_true, if_false, List.filter_filter]
      congr 1
      apply List.filter_congr
      intro x _
      by_cases hx : x.1 = name
      · simp [hx, hlookup]
      · simp [hx]
    | none =>
      simp only [hlookup, Option.isSome_none, Bool.false_eq_true, if_false, List.filter_cons,
        Option.isNone_none, if_true, List.filter_filter, List.append_assoc, List.singleton_append]
      congr 2
      apply List.filter_congr
      intro x _
      by_cases hx : x.1 = name
      · simp [List.lookup_append, hx]
      · have hne : (x.1 == name) = false := beq_eq_false_iff_ne.2 hx
        simp [List.lookup_append, List.lookup_cons, hne, bne]

/-- The attributes of a head are those written in it; of several with one name the first counts. -/
theorem attributes_text (h : TagHead) :
    attributes h.text = firsts (h.attributes.map WrittenAttribute.entry) := by
  have hvalues : ∀ found : List (Found (String × String)),
      found.foldl (fun known f => Attributes.insertNew known f.value) [] =
        (found.map (·.value)).foldl Attributes.insertNew [] := fun found => by
    rw [List.foldl_map]
  rw [attributes, TagHead.text, findAll_written (readable_attributes h.attributes h.tail), hvalues,
    located_values, foldl_insertNew, List.map_map]
  simp [WrittenAttribute.segment, Function.comp_def]

/-! ## Tags -/

/-- The name of a tag. -/
structure TagName where
  text : List Char
  ne_nil : text ≠ []
  lt_notMem : '<' ∉ text
  slash_notMem : '/' ∉ text

/-- A tag as it is written. -/
structure WrittenTag where
  kind : TagKind
  head : TagHead

namespace WrittenTag

/-- What stands between the `<` of a tag and its name. -/
def opener (t : WrittenTag) : List Char :=
  match t.kind with
  | .closing => ['<', '/']
  | .opening | .selfClosing => ['<']

/-- What ends a tag. -/
def closer (t : WrittenTag) : List Char :=
  match t.kind with
  | .selfClosing => ['/', '>']
  | .opening | .closing => ['>']

/-- The text of a tag with this name. -/
def text (name : TagName) (t : WrittenTag) : List Char :=
  t.opener ++ (name.text ++ (t.head.text ++ t.closer))

/-- What a reader of the tag finds out about it. -/
def value (t : WrittenTag) : TagText :=
  ⟨t.kind, t.head.text⟩

end WrittenTag

/-- A text that does not end a tag, open a quote or close one that it did not open. -/
def Passes (text : List Char) : Prop :=
  ∀ taken rest, tagTail? none taken (text ++ rest) = tagTail? none (text.reverse ++ taken) rest

theorem passes_nil : Passes [] := fun _ _ => rfl

theorem Passes.append {a b : List Char} (ha : Passes a) (hb : Passes b) : Passes (a ++ b) := by
  intro taken rest
  rw [List.append_assoc, ha, hb, List.reverse_append, List.append_assoc]

theorem passes_singleton {c : Char} (hq : isQuote c = false) (hgt : c ≠ '>') (hslash : c ≠ '/') :
    Passes [c] := by
  intro taken rest
  rw [List.singleton_append, tagTail?, hq]
  · rfl
  · exact hgt
  · exact fun _ h => absurd h hslash

/-- A text of one class of characters passes when no sign that a tag reacts to is in the class. -/
theorem passes_of_class {p : Char → Bool} {text : List Char} (h : ∀ c ∈ text, p c = true)
    (hp : p '\'' = false ∧ p '"' = false ∧ p '>' = false ∧ p '/' = false) : Passes text := by
  obtain ⟨hsingle, hdouble, hgt, hslash⟩ := hp
  have hne {c d : Char} (hc : p c = true) (hd : p d = false) : c ≠ d := by
    rintro rfl
    exact absurd hc (by simp [hd])
  induction text with
  | nil => exact passes_nil
  | cons c text ih =>
    have hc : p c = true := h c (by simp)
    have hquote : isQuote c = false := by
      simp [isQuote, hne hc hsingle, hne hc hdouble]
    exact (passes_singleton hquote (hne hc hgt) (hne hc hslash)).append
      (ih fun d hd => h d (by simp [hd]))

theorem passes_blanks (b : Blanks) : Passes b.text :=
  passes_of_class b.blank (by decide)

theorem tagTail?_quoted {quote : Char} {value : List Char} (hv : quote ∉ value)
    (taken rest : List Char) :
    tagTail? (some quote) taken (value ++ quote :: rest) =
      tagTail? none (quote :: (value.reverse ++ taken)) rest := by
  induction value generalizing taken with
  | nil => simp [tagTail?]
  | cons c value ih =>
    have hc : c ≠ quote := fun h => hv (by simp [h])
    rw [List.cons_append, tagTail?, if_neg (by simpa using hc), ih fun h => hv (by simp [h])]
    simp

theorem passes_quoted {quote : Char} {value : List Char} (hq : isQuote quote = true)
    (hv : quote ∉ value) : Passes (quote :: (value ++ [quote])) := by
  intro taken rest
  have hgt : quote ≠ '>' := by rintro rfl; exact absurd hq (by decide)
  have hslash : quote ≠ '/' := by rintro rfl; exact absurd hq (by decide)
  rw [List.cons_append, List.append_assoc, List.singleton_append, tagTail?, hq]
  · simp [tagTail?_quoted hv]
  · exact hgt
  · exact fun _ h => absurd h hslash

theorem passes_attribute (a : WrittenAttribute) : Passes (a.gap.text ++ a.text) := by
  have hfirst : Passes [a.first] :=
    passes_of_class (p := isNameStart) (by simpa using a.isNameStart_first) (by decide)
  have hothers : Passes a.others := passes_of_class a.isNamePart_others (by decide)
  have hequals : Passes ['='] := passes_singleton (by decide) (by decide) (by decide)
  have hvalue := passes_quoted a.isQuote_quote a.quote_notMem_value
  exact (passes_blanks a.gap).append (hfirst.append (hothers.append (hequals.append hvalue)))

theorem passes_head (h : TagHead) : Passes h.text := by
  obtain ⟨attributes, tail⟩ := h
  induction attributes with
  | nil => exact passes_blanks tail
  | cons a attributes ih =>
    have htext : TagHead.text ⟨a :: attributes, tail⟩ =
        (a.gap.text ++ a.text) ++ TagHead.text ⟨attributes, tail⟩ := by
      simp [TagHead.text, written, WrittenAttribute.segment]
    rw [htext]
    exact (passes_attribute a).append ih

theorem nameEnds_blanks {b : Blanks} (h : b.text ≠ []) (rest : List Char) :
    nameEnds (b.text ++ rest) = true := by
  obtain ⟨c, cs, hb⟩ := List.exists_cons_of_ne_nil h
  have hc := b.blank c (by simp [hb])
  simp [nameEnds, hb, hc]

theorem nameEnds_head (t : WrittenTag) (rest : List Char) :
    nameEnds (t.head.text ++ (t.closer ++ rest)) = true := by
  obtain ⟨kind, ⟨attributes, tail⟩⟩ := t
  cases attributes with
  | cons a attributes =>
    simp only [TagHead.text, List.map_cons, written, WrittenAttribute.segment, List.append_assoc]
    exact nameEnds_blanks a.gap_ne_nil _
  | nil =>
    simp only [TagHead.text, List.map_nil, written]
    by_cases htail : tail.text = []
    · rw [htail, List.nil_append]
      cases kind <;> simp [WrittenTag.closer, nameEnds]
    · exact nameEnds_blanks htail _

theorem tagTail?_closer (t : WrittenTag) (taken rest : List Char) :
    tagTail? none taken (t.closer ++ rest) =
      some (taken.reverse, decide (t.kind = .selfClosing), taken.length + t.closer.length) := by
  obtain ⟨kind, head⟩ := t
  cases kind <;> simp [WrittenTag.closer, tagTail?]

theorem tagBody?_text (name : TagName) (t : WrittenTag) (rest : List Char) :
    tagBody? name.text (decide (t.kind = .closing))
        (name.text ++ (t.head.text ++ (t.closer ++ rest))) =
      some (t.value, name.text.length + (t.head.text.length + t.closer.length)) := by
  have htail := passes_head t.head [] (t.closer ++ rest)
  rw [List.append_nil, tagTail?_closer] at htail
  have hends := nameEnds_head t rest
  obtain ⟨kind, head⟩ := t
  cases kind <;> simp [tagBody?, WrittenTag.value, hends, htail]

theorem tag?_lt {c : Char} (hc : c ≠ '/') (name : List Char) (before : Option Char)
    (text : List Char) :
    tag? name before ('<' :: c :: text) =
      (tagBody? name false (c :: text)).map fun (tag, size) => (tag, size + 1) := by
  simp [tag?, hc]

theorem tag?_lt_slash {name text : List Char} {tag : TagText} {size : Nat}
    (h : tagBody? name true text = some (tag, size)) (before : Option Char) :
    tag? name before ('<' :: '/' :: text) = some (tag, size + 2) := by
  simp [tag?, h]

/-- A written tag is recognised, whatever stands around it. -/
theorem tag?_text (name : TagName) (t : WrittenTag) (before : Option Char) (rest : List Char) :
    tag? name.text before (t.text name ++ rest) = some (t.value, (t.text name).length) := by
  have hbody := tagBody?_text name t rest
  obtain ⟨c, others, hname⟩ := List.exists_cons_of_ne_nil name.ne_nil
  have hc : c ≠ '/' := by
    rintro rfl
    exact name.slash_notMem (by simp [hname])
  obtain ⟨kind, head⟩ := t
  cases kind with
  | closing =>
    have htag := tag?_lt_slash hbody before
    simp only [WrittenTag.text, WrittenTag.opener, List.cons_append, List.nil_append,
      List.append_assoc, List.length_cons, List.length_append]
    rw [htag]
  | opening | selfClosing =>
    simp only [hname, List.cons_append, reduceCtorEq, decide_false] at hbody
    simp only [WrittenTag.text, WrittenTag.opener, hname, List.cons_append, List.nil_append,
      List.append_assoc]
    rw [tag?_lt hc, hbody]
    simp only [Option.map_some, List.length_cons, List.length_append]
    congr 2
    omega

/-! ## Text between tags -/

/-- May this character follow the name of a tag? -/
def isNameEnd (c : Char) : Bool :=
  isBlank c || c == '/' || c == '>'

/-- A text without a tag of this name. The name may stand in it as the start of a longer one. -/
structure Margin (name : TagName) where
  text : List Char
  no_opening : ∀ c, isNameEnd c = true → ¬ '<' :: (name.text ++ [c]) <:+: text
  no_closing : ∀ c, isNameEnd c = true → ¬ '<' :: '/' :: (name.text ++ [c]) <:+: text

theorem tagBody?_eq_none {name text : List Char} {closing : Bool}
    (h : ∀ c, isNameEnd c = true → ¬ name ++ [c] <+: text) :
    tagBody? name closing text = none := by
  cases hname : after? name text with
  | none => simp [tagBody?, hname]
  | some rest =>
    have hends : nameEnds rest = false := by
      cases rest with
      | nil => rfl
      | cons c rest =>
        rw [Bool.eq_false_iff]
        intro hc
        refine h c (by simpa [nameEnds, isNameEnd] using hc) ⟨rest, ?_⟩
        rw [after?_eq_some_iff.1 hname, List.append_assoc, List.singleton_append]
    simp [tagBody?, hname, hends]

theorem tag?_eq_none {name text : List Char}
    (hopen : ∀ c, isNameEnd c = true → ¬ '<' :: (name ++ [c]) <+: text)
    (hclose : ∀ c, isNameEnd c = true → ¬ '<' :: '/' :: (name ++ [c]) <+: text)
    (before : Option Char) : tag? name before text = none := by
  unfold tag?
  split
  · next rest =>
    simp only [List.cons_prefix_cons, true_and] at hopen hclose
    rw [tagBody?_eq_none hclose, tagBody?_eq_none hopen]
    rfl
  · next rest _ =>
    simp only [List.cons_prefix_cons, true_and] at hopen
    rw [tagBody?_eq_none hopen]
    rfl
  · rfl

theorem quiet_margin {name : TagName} (m : Margin name) {rest : List Char}
    (hrest : ∀ c ∈ rest.head?, c = '<') : Quiet (tag? name.text) rest m.text := by
  -- the word of a tag holds one `<`, so it does not go on in the text behind the margin
  have hword {word : List Char} (hword : '<' ∉ word) {c : Char} {s : List Char}
      (hs : c :: s <:+ m.text) (h : '<' :: word <+: c :: (s ++ rest)) : '<' :: word <:+: m.text :=
    (cons_prefix_of_append (fun d hd => hrest d hd ▸ hword) h).isInfix.trans hs.isInfix
  have hend {c : Char} (hc : isNameEnd c = true) : '<' ∉ name.text ++ [c] := by
    have hne : '<' ≠ c := fun heq => absurd hc (heq ▸ by decide)
    simp [name.lt_notMem, hne]
  apply quiet_of_suffix
  intro c s hs before
  apply tag?_eq_none
  · exact fun d hd h => m.no_opening d hd (hword (hend hd) hs h)
  · refine fun d hd h => m.no_closing d hd (hword ?_ hs h)
    simpa using hend hd

/-- A text in which no tag of this name starts. -/
structure Filler (name : TagName) where
  text : List Char
  no_opening : ¬ ('<' :: name.text) <:+: text
  no_closing : ¬ ('<' :: '/' :: name.text) <:+: text

/-- A filler as a margin. -/
def Filler.margin {name : TagName} (f : Filler name) : Margin name where
  text := f.text
  no_opening c _ h := f.no_opening ((List.prefix_append ('<' :: name.text) [c]).isInfix.trans h)
  no_closing c _ h :=
    f.no_closing ((List.prefix_append ('<' :: '/' :: name.text) [c]).isInfix.trans h)

/-- A tag and the filler before it. -/
abbrev Mark (name : TagName) := Filler name × WrittenTag

/-- A mark as a segment of a text. -/
def Mark.segment {name : TagName} (mark : Mark name) : Segment TagText :=
  ⟨mark.1.text, mark.2.text name, mark.2.value, []⟩

theorem WrittenTag.exists_text_eq (name : TagName) (t : WrittenTag) :
    ∃ more, t.text name = '<' :: more := by
  obtain ⟨kind, head⟩ := t
  cases kind <;> exact ⟨_, rfl⟩

/-- A tag as a segment of a text, with the margin before it. -/
def marginSegment {name : TagName} (mark : Margin name × WrittenTag) : Segment TagText :=
  ⟨mark.1.text, mark.2.text name, mark.2.value, []⟩

theorem readable_margins {name : TagName} (marks : List (Margin name × WrittenTag))
    (last : Margin name) :
    Readable (tag? name.text) last.text (marks.map marginSegment) := by
  induction marks with
  | nil => exact quiet_margin last (by simp)
  | cons mark marks ih =>
    obtain ⟨m, t⟩ := mark
    obtain ⟨more, hmore⟩ := t.exists_text_eq name
    exact ⟨quiet_margin m (by simp [marginSegment, hmore]), by simp [marginSegment, hmore],
      fun before => tag?_text name t before _, trivial, ih⟩

theorem readable_marks {name : TagName} (marks : List (Mark name)) (last : Filler name) :
    Readable (tag? name.text) last.text (marks.map Mark.segment) := by
  have h := readable_margins (marks.map fun mark => (mark.1.margin, mark.2)) last.margin
  rwa [List.map_map] at h

/-- A text of fillers and written tags has exactly these tags. -/
theorem tags_written {name : TagName} (marks : List (Mark name)) (last : Filler name) :
    tags name.text (written last.text (marks.map Mark.segment)) =
      located last.text 0 (marks.map Mark.segment) :=
  findAll_written (readable_marks marks last)

end AddonAtlas.Markup
