import AddonAtlas.Proofs.Markup.Record
import AddonAtlas.Proofs.Markup.Span
import AddonAtlas.Proofs.Text.Table

/-!
# Nested elements

A `Nest` is a list of tags in which each opening tag has its closing tag behind what stands inside.
Whatever the text, if its tags are those of a nest, the elements are the pairs and the self-closing
tags of the nest (`elements_nest`), and the outermost ones, which are told by their places alone,
are those that stand in no other one (`outermost_nest`).

A `Grove` is a text whose elements with one name are nested, with any text without a tag between
them.  Its tags are a nest (`Grove.tags_render`), so that the fields of a record whose body is a
grove are told by the elements that stand directly in it (`fields_grove`): those inside of a field
never count.
-/

namespace AddonAtlas.Markup

open Text

/-! ## Nests -/

/-- Tags that close each other, as they follow each other in a text. -/
inductive Nest
  | nil
  | leaf (tag : Tag) (htag : tag.value.kind = .selfClosing) (rest : Nest)
  /-- An opening tag, what stands inside, its closing tag, and what follows. -/
  | branch (first last : Tag) (hfirst : first.value.kind = .opening)
    (hlast : last.value.kind = .closing) (inner rest : Nest)

namespace Nest

def tags : Nest → List Tag
  | nil => []
  | leaf tag _ rest => tag :: rest.tags
  | branch first last _ _ inner rest => first :: (inner.tags ++ last :: rest.tags)

/-- The elements of a nest in order of their starts. -/
def elements (cap : Nat) : Nest → List Element
  | nil => []
  | leaf tag _ rest => .ofSelfClosing tag :: rest.elements cap
  | branch first last _ _ inner rest =>
    .ofPair cap first last :: (inner.elements cap ++ rest.elements cap)

/-- The elements that stand in no other one. -/
def outer (cap : Nat) : Nest → List Element
  | nil => []
  | leaf tag _ rest => .ofSelfClosing tag :: rest.outer cap
  | branch first last _ _ _ rest => .ofPair cap first last :: rest.outer cap

/-- The tags of a nest leave the open ones as they are and add the elements of the nest. -/
theorem pairTags_tags (nest : Nest) (cap : Nat) (pending : List (Tag × Nat)) (done : List Element)
    {tags : List (Tag × Nat)} (htags : tags.map Prod.fst = nest.tags) (more : List (Tag × Nat)) :
    (pairTags cap pending done (tags ++ more)).Perm
      (nest.elements cap ++ pairTags cap pending done more) := by
  induction nest generalizing pending done tags more with
  | nil =>
    obtain rfl := List.map_eq_nil_iff.1 htags
    rfl
  | leaf tag htag rest ih =>
    obtain ⟨⟨tag, next⟩, tags, rfl, rfl, hrest⟩ := List.map_eq_cons_iff.1 htags
    rw [List.cons_append, pairTags_selfClosing htag]
    refine (ih _ _ hrest _).trans ?_
    refine ((pairTags_cons_perm cap pending _ done more).append_left _).trans ?_
    exact List.perm_middle
  | branch first last hfirst hlast inner rest ihinner ihrest =>
    obtain ⟨⟨first, next⟩, tags, rfl, rfl, hbehind⟩ := List.map_eq_cons_iff.1 htags
    obtain ⟨inside, tags, rfl, hinside, hclose⟩ := List.map_eq_append_iff.1 hbehind
    obtain ⟨⟨last, next'⟩, tags, rfl, rfl, hrest⟩ := List.map_eq_cons_iff.1 hclose
    rw [List.cons_append, pairTags_opening hfirst, List.append_assoc]
    refine (ihinner _ _ hinside _).trans ?_
    rw [List.cons_append, pairTags_closing_cons hlast]
    refine ((ihrest _ _ hrest _).append_left _).trans ?_
    refine (((pairTags_cons_perm cap pending _ done more).append_left _).append_left _).trans ?_
    rw [← List.append_assoc, elements, List.cons_append]
    exact List.perm_middle

theorem map_start_elements (nest : Nest) (cap : Nat) :
    (nest.elements cap).map (·.start) = (nest.tags.filter Tag.startsElement).map (·.start) := by
  induction nest with
  | nil => rfl
  | leaf tag htag rest ih =>
    have hstarts : tag.startsElement = true := by simp [Tag.startsElement, htag]
    simp [elements, tags, hstarts, ih, Element.ofSelfClosing]
  | branch first last hfirst hlast inner rest ihinner ihrest =>
    have hstarts : first.startsElement = true := by simp [Tag.startsElement, hfirst]
    have hends : last.startsElement = false := by simp [Tag.startsElement, hlast]
    simp [elements, tags, hstarts, hends, ihinner, ihrest, Element.ofPair]

/-- An element of a nest starts with one of its tags. -/
theorem exists_tag_of_mem_elements {nest : Nest} {cap : Nat} {e : Element}
    (he : e ∈ nest.elements cap) : ∃ tag ∈ nest.tags, tag.start = e.start := by
  have hstart : e.start ∈ (nest.elements cap).map (·.start) := List.mem_map_of_mem he
  rw [map_start_elements] at hstart
  obtain ⟨tag, htag, heq⟩ := List.mem_map.1 hstart
  exact ⟨tag, List.mem_of_mem_filter htag, heq⟩

/-- The elements that do not start before the end of one kept before them are those that stand in no
other one. -/
theorem outermostFrom_elements {nest : Nest} (cap : Nat) {taken : Nat}
    (hplaces : ∀ tag ∈ nest.tags, taken ≤ tag.start ∧ tag.start < tag.stop)
    (horder : nest.tags.Pairwise fun a b => a.stop ≤ b.start) :
    outermostFrom taken (nest.elements cap) = nest.outer cap := by
  induction nest generalizing taken with
  | nil => rfl
  | leaf tag htag rest ih =>
    obtain ⟨htaken, hplaces⟩ := List.forall_mem_cons.1 hplaces
    obtain ⟨hbehind, horder⟩ := List.pairwise_cons.1 horder
    have hrest : outermostFrom (Element.ofSelfClosing tag).stop (rest.elements cap) =
        rest.outer cap := ih (fun t ht => ⟨hbehind t ht, (hplaces t ht).2⟩) horder
    have hkept : ¬ (Element.ofSelfClosing tag).start < taken := Nat.not_lt.2 htaken.1
    rw [elements, outermostFrom, if_neg hkept, hrest, outer]
  | branch first last hfirst hlast inner rest _ ih =>
    obtain ⟨htaken, hplaces⟩ := List.forall_mem_cons.1 hplaces
    obtain ⟨-, horder⟩ := List.pairwise_cons.1 horder
    obtain ⟨-, horder, hapart⟩ := List.pairwise_append.1 horder
    obtain ⟨hbehind, horder⟩ := List.pairwise_cons.1 horder
    simp only [List.forall_mem_append, List.forall_mem_cons] at hplaces
    obtain ⟨hinner, hlast, hplaces⟩ := hplaces
    -- all that is inside starts before the closing tag ends
    have hinside : ∀ e ∈ inner.elements cap, e.start < (Element.ofPair cap first last).stop := by
      intro e he
      obtain ⟨tag, htag, hstart⟩ := exists_tag_of_mem_elements he
      have hbefore := hapart tag htag last List.mem_cons_self
      have hplace := hinner tag htag
      show e.start < last.stop
      omega
    have hrest : outermostFrom (Element.ofPair cap first last).stop (rest.elements cap) =
        rest.outer cap := ih (fun t ht => ⟨hbehind t ht, (hplaces t ht).2⟩) horder
    have hkept : ¬ (Element.ofPair cap first last).start < taken := Nat.not_lt.2 htaken.1
    rw [elements, outermostFrom, if_neg hkept, outermostFrom_append_of_lt hinside, hrest, outer]

end Nest

section Text

variable {name text : List Char} {nest : Nest} (h : tags name text = nest.tags) (cap : Nat)

include h

/-- The elements of a text with nested tags. -/
theorem elements_nest : elements name cap text = nest.elements cap := by
  have hpairs := nest.pairTags_tags cap [] [] (map_fst_withNextOpening text.length nest.tags) []
  simp only [List.append_nil, pairTags, List.map_nil] at hpairs
  have hsorted : (nest.elements cap).Pairwise fun a b => a.start < b.start := by
    have hstarts := List.pairwise_map.2 ((pairwise_start_tags name text).filter Tag.startsElement)
    rw [h, ← nest.map_start_elements cap] at hstarts
    exact List.pairwise_map.1 hstarts
  rw [elements, h]
  exact mergeSort_eq_of_perm Element.start hpairs hsorted

theorem outermost_nest : outermost (elements name cap text) = nest.outer cap := by
  obtain ⟨hplaces, horder⟩ := findAll_places (sized_tag? name) text
  rw [← tags, h] at hplaces horder
  rw [outermost, elements_nest h]
  exact nest.outermostFrom_elements cap
    (fun tag htag => ⟨Nat.zero_le _, (hplaces tag htag).1⟩) horder

end Text

/-! ## Groves -/

/-- A text whose elements with one name are nested. -/
inductive Grove (name : TagName)
  /-- Text without a tag. -/
  | text (margin : Margin name)
  /-- Text, a self-closing tag, and what follows. -/
  | leaf (margin : Margin name) (head : TagHead) (rest : Grove name)
  /-- Text, an opening tag, what stands inside, the closing tag, and what follows. -/
  | branch (margin : Margin name) (head : TagHead) (inner : Grove name) (tail : Blanks)
    (rest : Grove name)

namespace Grove

variable {name : TagName}

/-- The text of a grove. -/
def render : Grove name → List Char
  | text margin => margin.text
  | leaf margin head rest =>
    margin.text ++ (WrittenTag.text name ⟨.selfClosing, head⟩ ++ rest.render)
  | branch margin head inner tail rest =>
    margin.text ++ (WrittenTag.text name ⟨.opening, head⟩ ++
      (inner.render ++ (WrittenTag.text name ⟨.closing, ⟨[], tail⟩⟩ ++ rest.render)))

/-- The elements that stand directly in a grove that starts at `offset`. -/
def children (cap offset : Nat) : Grove name → List Element
  | text _ => []
  | leaf margin head rest =>
    let start := offset + margin.text.length
    let stop := start + (WrittenTag.text name ⟨.selfClosing, head⟩).length
    { start, stop
      attributes := firsts (head.attributes.map WrittenAttribute.entry)
      body := []
      selfClosing := true
      closed := true } :: rest.children cap stop
  | branch margin head inner tail rest =>
    let start := offset + margin.text.length
    let stop := start + (WrittenTag.text name ⟨.opening, head⟩).length + inner.render.length +
      (WrittenTag.text name ⟨.closing, ⟨[], tail⟩⟩).length
    { start, stop
      attributes := firsts (head.attributes.map WrittenAttribute.entry)
      body := inner.render.take cap
      selfClosing := false
      closed := true } :: rest.children cap stop

/-- The tags of a grove that starts at `offset` and has `after` behind it. -/
def nest (offset : Nat) (after : List Char) : Grove name → Nest
  | text _ => .nil
  | leaf margin head rest =>
    let start := offset + margin.text.length
    let stop := start + (WrittenTag.text name ⟨.selfClosing, head⟩).length
    .leaf ⟨start, stop, ⟨.selfClosing, head.text⟩, rest.render ++ after⟩ rfl (rest.nest stop after)
  | branch margin head inner tail rest =>
    let close := WrittenTag.text name ⟨.closing, ⟨[], tail⟩⟩
    let behind := close ++ (rest.render ++ after)
    let start := offset + margin.text.length
    let inside := start + (WrittenTag.text name ⟨.opening, head⟩).length
    let shut := inside + inner.render.length
    let stop := shut + close.length
    .branch ⟨start, inside, ⟨.opening, head.text⟩, inner.render ++ behind⟩
      ⟨shut, stop, ⟨.closing, TagHead.text ⟨[], tail⟩⟩, rest.render ++ after⟩ rfl rfl
      (inner.nest inside behind) (rest.nest stop after)

theorem outer_nest (grove : Grove name) (cap offset : Nat) (after : List Char) :
    (grove.nest offset after).outer cap = grove.children cap offset := by
  induction grove generalizing offset after with
  | text margin => rfl
  | leaf margin head rest ih =>
    simp only [nest, Nest.outer, children, ih, Element.ofSelfClosing, attributes_text]
  | branch margin head inner tail rest _ ih =>
    simp only [nest, Nest.outer, children, ih, Element.ofPair, attributes_text,
      Nat.add_sub_cancel_left, take_min_append]

/-- A written tag is found where it stands. -/
theorem findAllFrom_tag (t : WrittenTag) (before : Option Char) (offset : Nat) (found : List Tag)
    (rest : List Char) :
    findAllFrom (tag? name.text) before offset 0 found (t.text name ++ rest) =
      findAllFrom (tag? name.text) (lastOf before (t.text name)) (offset + (t.text name).length) 0
        (⟨offset, offset + (t.text name).length, t.value, rest⟩ :: found) rest := by
  obtain ⟨more, hmore⟩ := t.exists_text_eq name
  exact findAllFrom_match (by simp [hmore]) (tag?_text name t before rest) offset found

/-- Nothing is found in the text before a tag. -/
theorem quiet_margin_tag (margin : Margin name) (t : WrittenTag) (rest : List Char) :
    Quiet (tag? name.text) (t.text name ++ rest) margin.text := by
  obtain ⟨more, hmore⟩ := t.exists_text_eq name
  exact quiet_margin margin (by simp [hmore])

/-- The search for tags passes over a grove and finds the tags of its nest. -/
theorem findAllFrom_render (grove : Grove name) (before : Option Char) (offset : Nat)
    (found : List Tag) {after : List Char} (hafter : ∀ c ∈ after.head?, c = '<') :
    findAllFrom (tag? name.text) before offset 0 found (grove.render ++ after) =
      findAllFrom (tag? name.text) (lastOf before grove.render) (offset + grove.render.length) 0
        ((grove.nest offset after).tags.reverse ++ found) after := by
  induction grove generalizing before offset found after with
  | text margin => exact findAllFrom_quiet (quiet_margin margin hafter) before offset found
  | leaf margin head rest ih =>
    rw [render, List.append_assoc, List.append_assoc, findAllFrom_quiet (quiet_margin_tag _ _ _),
      findAllFrom_tag, ih _ _ _ hafter]
    simp [nest, Nest.tags, lastOf_append, Nat.add_assoc, WrittenTag.value]
  | branch margin head inner tail rest ihinner ihrest =>
    have hclose : ∀ c ∈ (WrittenTag.text name ⟨.closing, ⟨[], tail⟩⟩ ++
        (rest.render ++ after)).head?, c = '<' := by
      simp [WrittenTag.text, WrittenTag.opener]
    rw [render, List.append_assoc, List.append_assoc, List.append_assoc, List.append_assoc,
      findAllFrom_quiet (quiet_margin_tag _ _ _), findAllFrom_tag, ihinner _ _ _ hclose,
      findAllFrom_tag, ihrest _ _ _ hafter]
    simp [nest, Nest.tags, lastOf_append, Nat.add_assoc, WrittenTag.value]

theorem tags_render (grove : Grove name) :
    Markup.tags name.text grove.render = (grove.nest 0 []).tags := by
  have hfound : findAllFrom (tag? name.text) none 0 0 [] (grove.render ++ []) = _ :=
    grove.findAllFrom_render none 0 [] (by simp)
  rw [List.append_nil] at hfound
  rw [Markup.tags, findAll, hfound, findAllFrom]
  simp

theorem outermost_render (grove : Grove name) (cap : Nat) :
    outermost (elements name.text cap grove.render) = grove.children cap 0 := by
  rw [outermost_nest grove.tags_render, outer_nest]

end Grove

/-! ## Fields of a grove -/

/-- The names of the fields are those of the elements, empty ones apart, each where it comes
first. -/
theorem map_fst_foldl_insertNew (known : Fields) (elements : List Element) :
    (elements.foldl Fields.insertNew known).map Prod.fst =
      known.map Prod.fst ++ ((elements.map (·.attr "name")).filter fun name =>
        name != "" && (known.lookup name).isNone).eraseDups := by
  have hnames : ((elements.filter fun e => e.attr "name" != "").map
      fun e => (e.attr "name", e)).map Prod.fst = (elements.map (·.attr "name")).filter (· != "") := by
    rw [List.map_map, List.filter_map]
    rfl
  rw [foldl_insertNew_eq, map_fst_foldl_addNew, hnames, List.filter_filter]
  simp only [Bool.and_comm]

/-- The fields of a record are told by the elements that stand directly in its body: each of their
names leads to the first of them with this name, and no other name is there.  What stands inside of
an element counts for nothing. -/
theorem fields_grove (body : Grove fieldName) :
    (fields body.render).map Prod.fst =
        (((body.children bodyLimit 0).map (·.attr "name")).filter (· != "")).eraseDups ∧
      ∀ key, (fields body.render).lookup key =
        if key = "" then none
        else (body.children bodyLimit 0).find? fun e => e.attr "name" == key := by
  have hfields : fields body.render = (body.children bodyLimit 0).foldl Fields.insertNew [] := by
    rw [fields, show "field".toList = fieldName.text from rfl, body.outermost_render]
  have hnames : (fields body.render).map Prod.fst =
      (((body.children bodyLimit 0).map (·.attr "name")).filter (· != "")).eraseDups := by
    rw [hfields, map_fst_foldl_insertNew]
    simp
  refine ⟨hnames, fun key => ?_⟩
  split
  · next hkey =>
    rw [List.lookup_eq_none_iff]
    intro field hfield
    have hname : field.1 ∈ (fields body.render).map Prod.fst := List.mem_map_of_mem hfield
    rw [hnames, List.mem_eraseDups] at hname
    have hne : field.1 ≠ "" := by simpa using (List.mem_filter.1 hname).2
    simpa [hkey] using hne.symm
  · next hkey => rw [hfields, lookup_foldl_insertNew hkey, List.lookup_nil, Option.none_or]

/-- A tag whose name goes on behind `field`. -/
def sampleSet : Margin fieldName where
  text := "<fields>".toList
  no_opening c hc h := by
    have hs : c = 's' := by simpa [fieldName, List.infix_cons_iff] using h
    exact absurd (hs ▸ hc) (by decide)
  no_closing c _ h := by simp [fieldName, List.infix_cons_iff] at h

def sampleHead (size : Nat) : TagHead :=
  ⟨[.named (List.replicate size 'a') (Sibling.quote_notMem_replicate size)], .none⟩

/-- A field with one of the name `a` in it, one without a name, and two of the name `a`. -/
def sampleGrove : Grove fieldName :=
  .branch sampleSet (sampleHead 2)
    (.leaf Filler.none.margin (sampleHead 1) (.text Filler.none.margin)) .space
    (.leaf Filler.none.margin (sampleHead 0)
      (.branch Filler.none.margin (sampleHead 1)
        (.text Sibling.sampleFiller.margin) .none
        (.leaf Filler.none.margin (sampleHead 1) (.text sampleSet))))

theorem fields_grove_sample :
    sampleGrove.render =
        ("<fields><field name=\"aa\"><field name=\"a\"/></field ><field name=\"\"/>" ++
          "<field name=\"a\">one</field><field name=\"a\"/><fields>").toList ∧
      (fields sampleGrove.render).map Prod.fst = ["aa", "a"] ∧
      ((fields sampleGrove.render).lookup "a").map (fun e => (e.start, e.stop, e.body)) =
        some (67, 94, "one".toList) := by
  have hfields := fields_grove sampleGrove
  refine ⟨by decide +kernel, hfields.1.trans (by decide +kernel), ?_⟩
  rw [hfields.2 "a"]
  decide +kernel

end AddonAtlas.Markup
