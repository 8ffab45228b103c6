import AddonAtlas.Markup.Element
import AddonAtlas.Proofs.Markup.Tag
import AddonAtlas.Proofs.Text.Order

/-!
# Well-formed markup

A `Forest` is a text in which every element with one name is closed: text, then a self-closing tag
or a pair of tags with a forest between them, then more of the same.  `Forest.render` is the text
and `Forest.elements` lists what stands in it.  The elements that are found in the text are these,
in order (`elements_forest`).

The tags of the text are known (`tags_written`), and the pairing of tags is followed over the
forest with the opening tags that are still open as they are (`pairTags_tags`): a whole forest
leaves them unchanged.
-/

namespace AddonAtlas.Markup

open Text

/-- A well-formed text of elements with one name. -/
inductive Forest (name : TagName)
  /-- Text without a tag. -/
  | text (filler : Filler name)
  /-- Text, a self-closing tag, and what follows. -/
  | leaf (filler : Filler name) (head : TagHead) (rest : Forest name)
  /-- Text, an opening tag, what stands inside, the closing tag, and what follows. -/
  | branch (filler : Filler name) (head : TagHead) (inner : Forest name) (tail : Blanks)
    (rest : Forest name)

namespace Forest

variable {name : TagName}

/-- The text of a forest. -/
def render : Forest name → List Char
  | text filler => filler.text
  | leaf filler head rest =>
    filler.text ++ (WrittenTag.text name ⟨.selfClosing, head⟩ ++ rest.render)
  | branch filler head inner tail rest =>
    filler.text ++ (WrittenTag.text name ⟨.opening, head⟩ ++
      (inner.render ++ (WrittenTag.text name ⟨.closing, ⟨[], tail⟩⟩ ++ rest.render)))

/-- The elements of a forest that starts at `offset`, in order of their starts. -/
def elements (cap offset : Nat) : Forest name → List Element
  | text _ => []
  | leaf filler head rest =>
    let start := offset + filler.text.length
    let stop := start + (WrittenTag.text name ⟨.selfClosing, head⟩).length
    { start, stop
      attributes := firsts (head.attributes.map WrittenAttribute.entry)
      body := []
      selfClosing := true
      closed := true } :: rest.elements cap stop
  | branch filler head inner tail rest =>
    let start := offset + filler.text.length
    let inside := start + (WrittenTag.text name ⟨.opening, head⟩).length
    let stop := inside + inner.render.length +
      (WrittenTag.text name ⟨.closing, ⟨[], tail⟩⟩).length
    { start, stop
      attributes := firsts (head.attributes.map WrittenAttribute.entry)
      body := inner.render.take cap
      selfClosing := false
      closed := true } :: (inner.elements cap inside ++ rest.elements cap stop)

/-- The filler behind the last tag. -/
def last : Forest name → Filler name
  | text filler => filler
  | leaf _ _ rest => rest.last
  | branch _ _ _ _ rest => rest.last

/-- The tags of a forest, each with the filler before it. -/
def marks : Forest name → List (Mark name)
  | text _ => []
  | leaf filler head rest => (filler, ⟨.selfClosing, head⟩) :: rest.marks
  | branch filler head inner tail rest =>
    (filler, ⟨.opening, head⟩) ::
      (inner.marks ++ (inner.last, ⟨.closing, ⟨[], tail⟩⟩) :: rest.marks)

theorem written_marks (forest : Forest name) (after : List Char) :
    written (forest.last.text ++ after) (forest.marks.map Mark.segment) =
      forest.render ++ after := by
  induction forest generalizing after with
  | text filler => rfl
  | leaf filler head rest ih =>
    simp [marks, last, render, written, Mark.segment, ih]
  | branch filler head inner tail rest ihinner ihrest =>
    have hinner := ihinner (WrittenTag.text name ⟨.closing, ⟨[], tail⟩⟩ ++ (rest.render ++ after))
    simp only [marks, last, render, List.map_cons, List.map_append, written, written_append,
      Mark.segment, ihrest, hinner, List.append_assoc, List.nil_append]

theorem length_written_marks (forest : Forest name) :
    (written [] (forest.marks.map Mark.segment)).length + forest.last.text.length =
      forest.render.length := by
  have h := written_marks forest []
  rw [List.append_nil, List.append_nil] at h
  rw [← List.length_append, written_append_last, List.nil_append, h]

/-- The tags of a forest that starts at `offset` and has `after` behind it. -/
def tags (offset : Nat) (after : List Char) : Forest name → List Tag
  | text _ => []
  | leaf filler head rest =>
    let start := offset + filler.text.length
    let stop := start + (WrittenTag.text name ⟨.selfClosing, head⟩).length
    ⟨start, stop, ⟨.selfClosing, head.text⟩, rest.render ++ after⟩ :: rest.tags stop after
  | branch filler head inner tail rest =>
    let close := WrittenTag.text name ⟨.closing, ⟨[], tail⟩⟩
    let start := offset + filler.text.length
    let inside := start + (WrittenTag.text name ⟨.opening, head⟩).length
    let shut := inside + inner.render.length
    let stop := shut + close.length
    ⟨start, inside, ⟨.opening, head.text⟩, inner.render ++ (close ++ (rest.render ++ after))⟩ ::
      (inner.tags inside (close ++ (rest.render ++ after)) ++
        ⟨shut, stop, ⟨.closing, TagHead.text ⟨[], tail⟩⟩, rest.render ++ after⟩ ::
          rest.tags stop after)

theorem located_marks (forest : Forest name) (offset : Nat) (after : List Char) :
    located (forest.last.text ++ after) offset (forest.marks.map Mark.segment) =
      forest.tags offset after := by
  induction forest generalizing offset after with
  | text filler => rfl
  | leaf filler head rest ih =>
    simp only [marks, last, tags, List.map_cons, located, written_marks, ih]
    rfl
  | branch filler head inner tail rest ihinner ihrest =>
    simp only [marks, last, tags, List.map_cons, List.map_append, located, located_append, written,
      written_append, written_marks, ihrest, Mark.segment]
    rw [ihinner, Nat.add_assoc _ (written _ _).length, length_written_marks]
    rfl

theorem tags_render (forest : Forest name) :
    Markup.tags name.text forest.render = forest.tags 0 [] := by
  have hwritten := written_marks forest []
  have hlocated := located_marks forest 0 []
  rw [List.append_nil] at hwritten hlocated
  rw [List.append_nil] at hwritten
  rw [← hwritten, tags_written, hlocated]

/-! ## Pairing the tags -/

end Forest

section Steps

variable {cap : Nat} {pending : List (Tag × Nat)} {done : List Element} {tags : List (Tag × Nat)}
  {tag : Tag} {next : Nat}

theorem pairTags_opening (h : tag.value.kind = .opening) :
    pairTags cap pending done ((tag, next) :: tags) =
      pairTags cap ((tag, next) :: pending) done tags := by
  simp [pairTags, h]

theorem pairTags_selfClosing (h : tag.value.kind = .selfClosing) :
    pairTags cap pending done ((tag, next) :: tags) =
      pairTags cap pending (.ofSelfClosing tag :: done) tags := by
  simp [pairTags, h]

theorem pairTags_closing_nil (h : tag.value.kind = .closing) :
    pairTags cap [] done ((tag, next) :: tags) = pairTags cap [] done tags := by
  simp [pairTags, h]

theorem pairTags_closing_cons (h : tag.value.kind = .closing) (first : Tag × Nat) :
    pairTags cap (first :: pending) done ((tag, next) :: tags) =
      pairTags cap pending (.ofPair cap first.1 tag :: done) tags := by
  simp [pairTags, h]

end Steps

/-- Elements that are done stay behind the others. -/
theorem pairTags_eq_append (cap : Nat) (pending : List (Tag × Nat)) (done : List Element)
    (tags : List (Tag × Nat)) :
    pairTags cap pending done tags = pairTags cap pending [] tags ++ done := by
  induction tags generalizing pending done with
  | nil => simp [pairTags]
  | cons tag tags ih =>
    obtain ⟨tag, next⟩ := tag
    cases hkind : tag.value.kind with
    | opening => rw [pairTags_opening hkind, pairTags_opening hkind, ih]
    | selfClosing =>
      rw [pairTags_selfClosing hkind, pairTags_selfClosing hkind, ih, ih pending [_]]
      simp
    | closing =>
      cases pending with
      | nil => rw [pairTags_closing_nil hkind, pairTags_closing_nil hkind, ih]
      | cons first pending =>
        rw [pairTags_closing_cons hkind, pairTags_closing_cons hkind, ih, ih pending [_]]
        simp

theorem pairTags_cons_perm (cap : Nat) (pending : List (Tag × Nat)) (e : Element)
    (done : List Element) (tags : List (Tag × Nat)) :
    (pairTags cap pending (e :: done) tags).Perm (e :: pairTags cap pending done tags) := by
  rw [pairTags_eq_append, pairTags_eq_append cap pending done]
  exact List.perm_middle

theorem map_fst_withNextOpening (size : Nat) (tags : List Tag) :
    (withNextOpening size tags).map Prod.fst = tags := by
  unfold withNextOpening
  induction tags with
  | nil => rfl
  | cons tag tags ih => simp [ih]

theorem take_min_append (a b : List Char) (cap : Nat) :
    (a ++ b).take (min a.length cap) = a.take cap := by
  rw [List.take_append_of_le_length (Nat.min_le_left _ _)]
  rcases Nat.le_total a.length cap with h | h
  · rw [Nat.min_eq_left h, List.take_of_length_le (Nat.le_refl _), List.take_of_length_le h]
  · rw [Nat.min_eq_right h]

namespace Forest

variable {name : TagName}

/-- The tags of a forest leave the open ones as they are and add the elements of the forest. -/
theorem pairTags_tags (forest : Forest name) (cap offset : Nat) (after : List Char)
    (pending : List (Tag × Nat)) (done : List Element) (tags more : List (Tag × Nat))
    (htags : tags.map Prod.fst = forest.tags offset after) :
    (pairTags cap pending done (tags ++ more)).Perm
      (forest.elements cap offset ++ pairTags cap pending done more) := by
  induction forest generalizing offset after pending done tags more with
  | text filler =>
    have hnil : tags = [] := by simpa [Forest.tags] using htags
    rw [hnil, elements, List.nil_append, List.nil_append]
  | leaf filler head rest ih =>
    obtain ⟨⟨tag, next⟩, tags, rfl, rfl, hrest⟩ := List.map_eq_cons_iff.1 htags
    rw [List.cons_append, pairTags_selfClosing rfl]
    refine (ih _ _ _ _ _ _ hrest).trans ?_
    refine ((pairTags_cons_perm cap pending _ done more).append_left _).trans ?_
    refine List.perm_middle.trans ?_
    simp only [elements, Element.ofSelfClosing, attributes_text, List.cons_append]
    rfl
  | branch filler head inner tail rest ihinner ihrest =>
    obtain ⟨⟨tag, next⟩, tags, rfl, rfl, hbehind⟩ := List.map_eq_cons_iff.1 htags
    obtain ⟨inside, tags, rfl, hinside, hclose⟩ := List.map_eq_append_iff.1 hbehind
    obtain ⟨⟨close, next'⟩, tags, rfl, rfl, hrest⟩ := List.map_eq_cons_iff.1 hclose
    rw [List.cons_append, pairTags_opening rfl, List.append_assoc]
    refine (ihinner _ _ _ _ _ _ hinside).trans ?_
    rw [List.cons_append, pairTags_closing_cons rfl]
    refine ((ihrest _ _ _ _ _ _ hrest).append_left _).trans ?_
    refine (((pairTags_cons_perm cap pending _ done more).append_left _).append_left _).trans ?_
    rw [← List.append_assoc]
    refine List.perm_middle.trans ?_
    simp only [elements, Element.ofPair, attributes_text, List.cons_append, Nat.add_sub_cancel_left,
      take_min_append, List.append_assoc]
    rfl

theorem length_text_pos (name : TagName) (t : WrittenTag) : 0 < (t.text name).length := by
  obtain ⟨more, hmore⟩ := t.exists_text_eq name
  simp [hmore]

/-- The elements of a forest start inside it. -/
theorem start_mem_of_mem_elements {forest : Forest name} {cap offset : Nat} {e : Element}
    (he : e ∈ forest.elements cap offset) :
    offset ≤ e.start ∧ e.start < offset + forest.render.length := by
  induction forest generalizing offset with
  | text filler => simp [elements] at he
  | leaf filler head rest ih =>
    have hpos := length_text_pos name ⟨.selfClosing, head⟩
    simp only [elements, List.mem_cons] at he
    simp only [render, List.length_append]
    rcases he with rfl | he
    · constructor <;> simp only <;> omega
    · have := ih he
      omega
  | branch filler head inner tail rest ihinner ihrest =>
    have hpos := length_text_pos name ⟨.opening, head⟩
    simp only [elements, List.mem_cons, List.mem_append] at he
    simp only [render, List.length_append]
    rcases he with rfl | he | he
    · constructor <;> simp only <;> omega
    · have := ihinner he
      omega
    · have := ihrest he
      omega

theorem pairwise_elements (forest : Forest name) (cap offset : Nat) :
    (forest.elements cap offset).Pairwise fun a b => a.start < b.start := by
  induction forest generalizing offset with
  | text filler => exact List.Pairwise.nil
  | leaf filler head rest ih =>
    have hpos := length_text_pos name ⟨.selfClosing, head⟩
    refine List.pairwise_cons.2 ⟨fun e he => ?_, ih _⟩
    have := start_mem_of_mem_elements he
    simp only
    omega
  | branch filler head inner tail rest ihinner ihrest =>
    have hpos := length_text_pos name ⟨.opening, head⟩
    refine List.pairwise_cons.2 ⟨fun e he => ?_, List.pairwise_append.2
      ⟨ihinner _, ihrest _, fun a ha b hb => ?_⟩⟩
    · rcases List.mem_append.1 he with he | he
      · have := start_mem_of_mem_elements he
        simp only
        omega
      · have := start_mem_of_mem_elements he
        simp only
        omega
    · have := start_mem_of_mem_elements ha
      have := start_mem_of_mem_elements hb
      omega

end Forest

theorem elements_forest {name : TagName} (forest : Forest name) (cap : Nat) :
    elements name.text cap forest.render = forest.elements cap 0 := by
  have hpairs := forest.pairTags_tags cap 0 [] [] []
    (withNextOpening forest.render.length (forest.tags 0 [])) []
    (map_fst_withNextOpening _ _)
  simp only [List.append_nil, pairTags, List.map_nil] at hpairs
  rw [elements, forest.tags_render]
  exact mergeSort_eq_of_perm Element.start hpairs (forest.pairwise_elements cap 0)

/-- The elements found in a well-formed text are those written in it, in order of their starts. -/
theorem elements_render (name : TagName) (forest : Forest name) (cap : Nat) :
    elements name.text cap forest.render = forest.elements cap 0 ∧
      (elements name.text cap forest.render).Pairwise fun a b => a.start < b.start :=
  ⟨elements_forest forest cap, elements_forest forest cap ▸ forest.pairwise_elements cap 0⟩

/-- The name of the sample's elements. -/
def sampleName : TagName where
  text := ['a']
  ne_nil := List.cons_ne_nil _ _
  lt_notMem := by decide
  slash_notMem := by decide

/-- An attribute `x` with a space before it. -/
def sampleAttribute (quote : Char) (hquote : isQuote quote = true) (value : List Char)
    (hvalue : quote ∉ value) : WrittenAttribute where
  gap := .space
  first := 'x'
  others := []
  quote := quote
  value := value
  gap_ne_nil := Blanks.space_ne_nil
  isNameStart_first := rfl
  isNamePart_others := by simp
  isQuote_quote := hquote
  quote_notMem_value := hvalue

/-- An element that holds a self-closing one, with the end of a tag in a value and a name that comes
twice. -/
def sampleForest : Forest sampleName :=
  .branch ⟨['<', 'b', '>'], by decide, by decide⟩
    ⟨[sampleAttribute '\'' isQuote_single ['>'] (by decide),
      sampleAttribute '"' isQuote_double ['2'] (by decide)], .none⟩
    (.leaf ⟨[], by decide, by decide⟩ ⟨[], .space⟩ (.text ⟨['c'], by decide, by decide⟩))
    .none (.text ⟨[], by decide, by decide⟩)

theorem elements_render_sample :
    elements ['a'] 3 "<b><a x='>' x=\"2\"><a />c</a>".toList =
      [{ start := 3, stop := 28, attributes := [("x", ">")], body := "<a ".toList,
         selfClosing := false, closed := true },
       { start := 18, stop := 23, attributes := [], body := [],
         selfClosing := true, closed := true }] :=
  (elements_render sampleName sampleForest 3).1

end AddonAtlas.Markup
