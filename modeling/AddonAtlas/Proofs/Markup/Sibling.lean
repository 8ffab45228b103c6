import AddonAtlas.Proofs.Markup.DataFile

/-!
# Siblings, some of which are not closed

A `Sibling` is an element of a flat text: it is closed, self-closing, or has no closing tag.  The
elements that are found in a text of siblings are these, in order (`elements_siblings`).  One
without a closing tag ends where the next opening tag starts, but a self-closing tag does not end
it: the self-closing siblings behind it start inside of it, and are lost when only the outermost
elements are kept, as among the fields of a record (`lookup_fields_siblings`).
-/

namespace AddonAtlas.Markup

open Text

/-! ## Siblings -/

/-- How an element ends. -/
inductive Ending (name : TagName)
  /-- With a closing tag, behind some text. -/
  | closed (inner : Margin name) (tail : Blanks)
  | selfClosing
  | missing

/-- An element with the text before it. -/
structure Sibling (name : TagName) where
  gap : Margin name
  head : TagHead
  ending : Ending name

namespace Sibling

variable {name : TagName}

def isSelfClosing (s : Sibling name) : Bool :=
  match s.ending with
  | .selfClosing => true
  | _ => false

def tag (s : Sibling name) : WrittenTag :=
  ⟨if s.isSelfClosing then .selfClosing else .opening, s.head⟩

def text (s : Sibling name) : List Char :=
  match s.ending with
  | .closed inner tail =>
    s.tag.text name ++ (inner.text ++ WrittenTag.text name ⟨.closing, ⟨[], tail⟩⟩)
  | .selfClosing | .missing => s.tag.text name

/-- The text of some siblings, with `last` behind them. -/
def render (last : Margin name) : List (Sibling name) → List Char
  | [] => last.text
  | s :: rest => s.gap.text ++ (s.text ++ render last rest)

/-- Where the next opening tag starts in siblings from `offset` on, or the size of the text. -/
def nextOpening (size offset : Nat) : List (Sibling name) → Nat
  | [] => size
  | s :: rest =>
    let start := offset + s.gap.text.length
    if s.isSelfClosing then nextOpening size (start + s.text.length) rest else start

/-- The element that starts at `start`, with the text `rest` behind it, where the next opening tag
starts at `next`. -/
def element (cap start next : Nat) (rest : List Char) (s : Sibling name) : Element :=
  let stop := start + s.text.length
  let attributes := firsts (s.head.attributes.map WrittenAttribute.entry)
  match s.ending with
  | .closed inner _ =>
    { start, stop, attributes, body := inner.text.take cap, selfClosing := false, closed := true }
  | .selfClosing => { start, stop, attributes, body := [], selfClosing := true, closed := true }
  | .missing =>
    { start, stop := min next (stop + cap), attributes, body := rest.take (min (next - stop) cap)
      selfClosing := false, closed := false }

/-- The elements of some siblings from `offset` on. -/
def elements (cap size : Nat) (last : Margin name) (offset : Nat) :
    List (Sibling name) → List Element
  | [] => []
  | s :: rest =>
    let start := offset + s.gap.text.length
    let stop := start + s.text.length
    s.element cap start (nextOpening size stop rest) (render last rest) ::
      elements cap size last stop rest

/-- The tags of a sibling, each with the text before it. -/
def marks (s : Sibling name) : List (Margin name × WrittenTag) :=
  (s.gap, s.tag) ::
    match s.ending with
    | .closed inner tail => [(inner, ⟨.closing, ⟨[], tail⟩⟩)]
    | .selfClosing | .missing => []

theorem written_marks (last : Margin name) (siblings : List (Sibling name)) :
    written last.text ((siblings.flatMap marks).map marginSegment) = render last siblings := by
  induction siblings with
  | nil => rfl
  | cons s siblings ih =>
    rw [List.flatMap_cons, List.map_append, written_append, ih]
    cases hending : s.ending <;> simp [marks, hending, marginSegment, written, render, text]

def tags (last : Margin name) (offset : Nat) (siblings : List (Sibling name)) : List Tag :=
  located last.text offset ((siblings.flatMap marks).map marginSegment)

theorem tags_render (last : Margin name) (siblings : List (Sibling name)) :
    Markup.tags name.text (render last siblings) = tags last 0 siblings := by
  rw [← written_marks, Markup.tags, findAll_written (readable_margins _ last), tags]

theorem tags_cons (last : Margin name) (offset : Nat) (s : Sibling name)
    (siblings : List (Sibling name)) :
    tags last offset (s :: siblings) =
      located (render last siblings) offset (s.marks.map marginSegment) ++
        tags last (offset + s.gap.text.length + s.text.length) siblings := by
  have hlength : (written [] (s.marks.map marginSegment)).length =
      s.gap.text.length + s.text.length := by
    cases hending : s.ending <;> simp [marks, hending, marginSegment, written, text]
  rw [tags, List.flatMap_cons, List.map_append, located_append, written_marks, hlength,
    Nat.add_assoc, tags]

end Sibling

/-! ## The next opening tag -/

theorem withNextOpening_cons (size : Nat) (tag : Tag) (tags : List Tag) :
    withNextOpening size (tag :: tags) =
      (tag, ((tags.find? fun t => decide (t.value.kind = .opening)).map (·.start)).getD size) ::
        withNextOpening size tags := by
  have hnext : (tags.foldr (fun tag later =>
      (if tag.value.kind = .opening then tag.start else later.1, (tag, later.1) :: later.2))
        (size, ([] : List (Tag × Nat)))).1 =
      ((tags.find? fun t => decide (t.value.kind = .opening)).map (·.start)).getD size := by
    induction tags with
    | nil => rfl
    | cons tag tags ih =>
      by_cases h : tag.value.kind = .opening
      · simp [h]
      · simp [h, ih]
  rw [← hnext]
  rfl

namespace Sibling

variable {name : TagName}

theorem find?_tags (size : Nat) (last : Margin name) (offset : Nat)
    (siblings : List (Sibling name)) :
    (((tags last offset siblings).find? fun t => decide (t.value.kind = .opening)).map
      (·.start)).getD size = nextOpening size offset siblings := by
  induction siblings generalizing offset with
  | nil => rfl
  | cons s siblings ih =>
    rw [tags_cons, nextOpening]
    cases hending : s.ending with
    | selfClosing =>
      simp [marks, hending, located, marginSegment, tag, isSelfClosing, WrittenTag.value, ih]
    | missing =>
      simp [marks, hending, located, marginSegment, tag, isSelfClosing, WrittenTag.value]
    | closed inner tail =>
      simp [marks, hending, located, marginSegment, tag, isSelfClosing, WrittenTag.value]

section Found

variable (s : Sibling name) (cap start next : Nat) (rest : List Char)

theorem ofSelfClosing_tag (h : s.ending = .selfClosing) :
    Element.ofSelfClosing ⟨start, start + (s.tag.text name).length, s.tag.value, rest⟩ =
      s.element cap start next rest := by
  simp [Element.ofSelfClosing, element, text, h, WrittenTag.value, tag, attributes_text]

theorem ofUnclosed_tag (h : s.ending = .missing) :
    Element.ofUnclosed cap next ⟨start, start + (s.tag.text name).length, s.tag.value, rest⟩ =
      s.element cap start next rest := by
  simp [Element.ofUnclosed, element, text, h, WrittenTag.value, tag, attributes_text]

theorem ofPair_tags {inner : Margin name} {tail : Blanks} (h : s.ending = .closed inner tail)
    (close : Tag) (hstart : close.start = start + (s.tag.text name).length + inner.text.length)
    (hstop : close.stop = start + s.text.length) (behind : List Char) :
    Element.ofPair cap
        ⟨start, start + (s.tag.text name).length, s.tag.value, inner.text ++ behind⟩ close =
      s.element cap start next rest := by
  simp [Element.ofPair, element, h, hstart, hstop, WrittenTag.value, tag, attributes_text,
    take_min_append]

end Found

/-- The tags of some siblings add the elements of the siblings to those of the open tags. -/
theorem pairTags_tags (last : Margin name) (cap size offset : Nat) (pending : List (Tag × Nat))
    (done : List Element) (siblings : List (Sibling name)) :
    (pairTags cap pending done (withNextOpening size (tags last offset siblings))).Perm
      (elements cap size last offset siblings ++ pairTags cap pending done []) := by
  induction siblings generalizing offset pending done with
  | nil => rfl
  | cons s siblings ih =>
    have hopening (h : s.isSelfClosing = false) : s.tag.value.kind = .opening := by
      simp [tag, h, WrittenTag.value]
    rw [tags_cons, elements]
    cases hending : s.ending with
    | selfClosing =>
      simp only [marks, hending, List.map_cons, List.map_nil, located, List.cons_append,
        List.nil_append, withNextOpening_cons, marginSegment]
      rw [pairTags_selfClosing (by simp [tag, isSelfClosing, hending, WrittenTag.value]),
        s.ofSelfClosing_tag cap _ (nextOpening size _ siblings) _ hending]
      refine (ih _ _ _).trans ?_
      refine ((pairTags_cons_perm cap pending _ done []).append_left _).trans ?_
      exact List.perm_middle
    | missing =>
      -- the tag stays among the open ones, and its element is made when no tags are left
      simp only [marks, hending, List.map_cons, List.map_nil, located, List.cons_append,
        List.nil_append, withNextOpening_cons, find?_tags, marginSegment]
      rw [pairTags_opening (hopening (by simp [isSelfClosing, hending]))]
      refine (ih _ _ _).trans ?_
      rw [← s.ofUnclosed_tag cap _ _ _ hending]
      exact List.perm_middle
    | closed inner tail =>
      -- the closing tag meets its own opening tag, which is the last one that is open
      simp only [marks, hending, List.map_cons, List.map_nil, located, List.cons_append,
        List.nil_append, withNextOpening_cons, marginSegment]
      rw [pairTags_opening (hopening (by simp [isSelfClosing, hending])),
        pairTags_closing_cons (by simp [WrittenTag.value])]
      refine (ih _ _ _).trans ?_
      refine ((pairTags_cons_perm cap pending _ done []).append_left _).trans ?_
      refine List.perm_middle.trans (.of_eq (congrArg₂ List.cons ?_ rfl))
      exact s.ofPair_tags cap _ _ _ hending _ rfl (by simp [text, hending]; omega) _

theorem ending_of_isSelfClosing {s : Sibling name} (h : s.isSelfClosing = true) :
    s.ending = .selfClosing := by
  rw [isSelfClosing] at h
  split at h
  · assumption
  · exact absurd h Bool.false_ne_true

theorem start_element (s : Sibling name) (cap start next : Nat) (rest : List Char) :
    (s.element cap start next rest).start = start := by
  rw [element]
  cases s.ending <;> rfl

theorem length_text_pos (s : Sibling name) : 0 < s.text.length := by
  have hpos := Forest.length_text_pos name s.tag
  rw [text]
  cases s.ending <;> simp <;> omega

theorem le_start_of_mem_elements {cap size offset : Nat} {last : Margin name}
    {siblings : List (Sibling name)} {e : Element}
    (he : e ∈ elements cap size last offset siblings) : offset ≤ e.start := by
  induction siblings generalizing offset with
  | nil => simp [elements] at he
  | cons s siblings ih =>
    rcases List.mem_cons.1 he with rfl | he
    · rw [start_element]
      omega
    · have := ih he
      omega

theorem pairwise_elements (cap size : Nat) (last : Margin name) (offset : Nat)
    (siblings : List (Sibling name)) :
    (elements cap size last offset siblings).Pairwise fun a b => a.start < b.start := by
  induction siblings generalizing offset with
  | nil => exact List.Pairwise.nil
  | cons s siblings ih =>
    refine List.pairwise_cons.2 ⟨fun e he => ?_, ih _⟩
    have hpos := s.length_text_pos
    have hle := le_start_of_mem_elements he
    rw [start_element]
    omega

/-- The elements that are found in a text of siblings are the siblings, in order. -/
theorem elements_siblings (cap : Nat) (last : Margin name) (siblings : List (Sibling name)) :
    Markup.elements name.text cap (render last siblings) =
      elements cap (render last siblings).length last 0 siblings := by
  have hpairs := pairTags_tags last cap (render last siblings).length 0 [] [] siblings
  simp only [pairTags, List.map_nil, List.append_nil] at hpairs
  rw [Markup.elements, tags_render]
  exact mergeSort_eq_of_perm Element.start hpairs (pairwise_elements _ _ _ _ _)

/-! ## Outermost siblings -/

/-- The name that an element has among the fields of a record. -/
def key (s : Sibling name) : String :=
  s.head.attr "name"

/-- The text of some siblings up to the first opening tag. -/
def upToOpening (last : Margin name) : List (Sibling name) → List Char
  | [] => last.text
  | s :: rest =>
    if s.isSelfClosing then s.gap.text ++ (s.text ++ upToOpening last rest) else s.gap.text

/-- The body of an element, with the siblings `rest` behind it. -/
def body (cap : Nat) (last : Margin name) (rest : List (Sibling name)) (s : Sibling name) :
    List Char :=
  match s.ending with
  | .closed inner _ => inner.text.take cap
  | .selfClosing => []
  | .missing => (upToOpening last rest).take cap

/-- How many characters behind an element belong to one without a closing tag, if `room` characters
before it do. -/
def roomAfter (cap room : Nat) (s : Sibling name) : Nat :=
  match s.ending with
  | .closed _ _ => 0
  | .selfClosing => room - (s.gap.text.length + s.text.length)
  | .missing => cap

/-- Does an element start among the `room` characters that belong to one without a closing tag? An
opening tag never does, as it ends the element before it. -/
def isLost (room : Nat) (s : Sibling name) : Bool :=
  s.isSelfClosing && decide (s.gap.text.length < room)

/-- The names and bodies of the outermost siblings. -/
def kept (cap : Nat) (last : Margin name) (room : Nat) :
    List (Sibling name) → List (String × List Char)
  | [] => []
  | s :: rest =>
    if s.isLost room then kept cap last (s.roomAfter cap room) rest
    else (s.key, s.body cap last rest) :: kept cap last (s.roomAfter cap room) rest

theorem attributes_element (s : Sibling name) (cap start next : Nat) (rest : List Char) :
    (s.element cap start next rest).attributes =
      firsts (s.head.attributes.map WrittenAttribute.entry) := by
  rw [element]
  cases s.ending <;> rfl

theorem attr_element (s : Sibling name) (cap start next : Nat) (rest : List Char)
    (key : String) :
    (s.element cap start next rest).attr key = s.head.attr key := by
  rw [Element.attr, attributes_element, lookup_firsts, TagHead.attr]

theorem length_render_cons (last : Margin name) (offset : Nat) (s : Sibling name)
    (siblings : List (Sibling name)) :
    offset + (render last (s :: siblings)).length =
      offset + s.gap.text.length + s.text.length + (render last siblings).length := by
  rw [render, List.length_append, List.length_append]
  omega

theorem le_nextOpening {size offset : Nat} {last : Margin name} {siblings : List (Sibling name)}
    (hsize : offset + (render last siblings).length = size) :
    offset ≤ nextOpening size offset siblings := by
  induction siblings generalizing offset with
  | nil =>
    rw [nextOpening]
    omega
  | cons s siblings ih =>
    rw [length_render_cons] at hsize
    have hrest := ih hsize
    rw [nextOpening]
    split <;> omega

theorem take_render {size offset : Nat} {last : Margin name} {siblings : List (Sibling name)}
    (hsize : offset + (render last siblings).length = size) :
    (render last siblings).take (nextOpening size offset siblings - offset) =
      upToOpening last siblings := by
  induction siblings generalizing offset with
  | nil =>
    rw [render, upToOpening, nextOpening, ← hsize, Nat.add_sub_cancel_left]
    exact List.take_length
  | cons s siblings ih =>
    rw [length_render_cons] at hsize
    have hnext := le_nextOpening hsize
    rw [render, upToOpening, nextOpening]
    split
    · rw [← ih hsize, ← List.append_assoc, ← List.append_assoc, List.take_append,
        List.take_of_length_le (by rw [List.length_append]; omega), List.length_append]
      congr 2
      omega
    · rw [Nat.add_sub_cancel_left, List.take_left]

theorem body_element (s : Sibling name) (cap start : Nat) {size stop : Nat} {last : Margin name}
    {rest : List (Sibling name)} (hstop : start + s.text.length = stop)
    (hsize : stop + (render last rest).length = size) :
    (s.element cap start (nextOpening size stop rest) (render last rest)).body =
      s.body cap last rest := by
  rw [element, body]
  cases s.ending with
  | closed inner tail => rfl
  | selfClosing => rfl
  | missing =>
    change (render last rest).take (min (nextOpening size stop rest - (start + s.text.length))
      cap) = (upToOpening last rest).take cap
    rw [hstop, Nat.min_comm, ← List.take_take, take_render hsize]

/-- An element ends before the next opening tag. -/
theorem stop_element_le (s : Sibling name) (cap : Nat) {start next : Nat} (rest : List Char)
    (hnext : start + s.text.length ≤ next) : (s.element cap start next rest).stop ≤ next := by
  rw [element]
  cases s.ending with
  | closed inner tail => exact hnext
  | selfClosing => exact hnext
  | missing => exact Nat.min_le_left _ _

/-- Which places behind the tags of an element belong to it. -/
theorem lt_stop_element_iff {s : Sibling name} {cap start next room place : Nat} (rest : List Char)
    (hkept : s.isLost room = false) (hstop : start + s.text.length ≤ place) (hnext : place < next) :
    place < (s.element cap start next rest).stop ↔
      place - (start + s.text.length) < s.roomAfter cap room := by
  cases hending : s.ending with
  | closed inner tail =>
    simp only [element, roomAfter, hending]
    omega
  | selfClosing =>
    simp only [isLost, isSelfClosing, hending, Bool.true_and, decide_eq_false_iff_not] at hkept
    simp only [element, roomAfter, hending]
    omega
  | missing =>
    simp only [element, roomAfter, hending]
    omega

/-- The outermost siblings are those that do not start inside of one without a closing tag. -/
theorem map_outermostFrom (cap size : Nat) (last : Margin name) {taken room offset : Nat}
    {siblings : List (Sibling name)} (hsize : offset + (render last siblings).length = size)
    (htaken : taken ≤ nextOpening size offset siblings)
    (hroom : ∀ place, offset ≤ place → place < nextOpening size offset siblings →
      (place < taken ↔ place - offset < room)) :
    (outermostFrom taken (elements cap size last offset siblings)).map
        (fun e => (e.attr "name", e.body)) =
      kept cap last room siblings := by
  -- Up to the next opening tag, `room` tells of the text from `offset` on what `taken` tells.
  induction siblings generalizing taken room offset with
  | nil => rfl
  | cons s siblings ih =>
    rw [length_render_cons] at hsize
    have hstop := le_nextOpening hsize
    have hpos := s.length_text_pos
    have hstart := hroom (offset + s.gap.text.length)
    rw [nextOpening] at htaken hroom hstart
    rw [elements, outermostFrom, start_element, kept]
    cases hlost : s.isLost room with
    | true =>
      simp only [isLost, Bool.and_eq_true, decide_eq_true_eq] at hlost
      simp only [hlost.1, if_true] at htaken hroom hstart
      rw [if_pos ((hstart (by omega) (by omega)).2 (by omega)), if_pos rfl]
      refine ih hsize htaken fun place hplace hnext => ?_
      rw [hroom place (by omega) hnext]
      simp only [roomAfter, ending_of_isSelfClosing hlost.1]
      omega
    | false =>
      -- an opening tag bounds `taken`, and a self-closing one is not lost
      have hnot : ¬ offset + s.gap.text.length < taken := by
        cases hself : s.isSelfClosing with
        | true =>
          simp only [isLost, hself, Bool.true_and, decide_eq_false_iff_not] at hlost
          simp only [hself, if_true] at hstart
          rw [hstart (by omega) (by omega)]
          omega
        | false =>
          simp only [hself, Bool.false_eq_true, if_false] at htaken
          omega
      rw [if_neg hnot, if_neg Bool.false_ne_true, List.map_cons, attr_element, ← key,
        s.body_element cap _ rfl hsize]
      exact congrArg _ (ih hsize (s.stop_element_le cap _ hstop)
        fun _ hplace hnext => lt_stop_element_iff _ hlost hplace hnext)

theorem map_fst_kept_sublist (cap : Nat) (last : Margin name) (room : Nat)
    (siblings : List (Sibling name)) :
    ((kept cap last room siblings).map Prod.fst).Sublist (siblings.map key) := by
  induction siblings generalizing room with
  | nil => exact List.Sublist.slnil
  | cons s siblings ih =>
    rw [kept]
    split
    · exact (ih _).cons _
    · exact (ih _).cons_cons _

/-- How many characters behind some siblings belong to one without a closing tag. -/
def room (cap : Nat) (siblings : List (Sibling name)) : Nat :=
  siblings.foldl (roomAfter cap) 0

/-- A sibling is outermost unless it is lost to the siblings before it. -/
theorem lookup_kept (cap : Nat) (last : Margin name) (start : Nat)
    {before after : List (Sibling name)} {s : Sibling name}
    (hnodup : ((before ++ s :: after).map key).Nodup) :
    (kept cap last start (before ++ s :: after)).lookup s.key =
      if s.isLost (before.foldl (roomAfter cap) start) then none
      else some (s.body cap last after) := by
  induction before generalizing start with
  | nil =>
    rw [List.nil_append, List.map_cons, List.nodup_cons] at hnodup
    rw [List.nil_append, kept, List.foldl_nil]
    split
    · rw [List.lookup_eq_none_iff]
      intro entry hentry
      have hmem := (map_fst_kept_sublist cap last _ after).mem (List.mem_map_of_mem hentry)
      simpa using fun h : s.key = entry.1 => hnodup.1 (h ▸ hmem)
    · rw [List.lookup_cons_self]
  | cons t before ih =>
    rw [List.cons_append, List.map_cons, List.nodup_cons] at hnodup
    have hne : (s.key == t.key) = false := by
      have hmem : s.key ∈ (before ++ s :: after).map key := List.mem_map_of_mem (by simp)
      simpa using fun h : s.key = t.key => hnodup.1 (h ▸ hmem)
    rw [List.cons_append, kept, List.foldl_cons, ← ih _ hnodup.2]
    split
    · rfl
    · rw [List.lookup_cons, hne]

end Sibling

/-! ## Fields among siblings -/

/-- Elements with names of their own are all among the fields. -/
theorem foldl_insertNew_of_nodup {known : Fields} {elements : List Element}
    (hne : ∀ e ∈ elements, e.attr "name" ≠ "")
    (hnodup : (known.map Prod.fst ++ elements.map (·.attr "name")).Nodup) :
    elements.foldl Fields.insertNew known = known ++ elements.map fun e => (e.attr "name", e) := by
  induction elements generalizing known with
  | nil => simp
  | cons e elements ih =>
    have hfresh : known.lookup (e.attr "name") = none := by
      rw [List.lookup_eq_none_iff]
      intro entry hentry
      have hdisjoint := (List.nodup_append.1 hnodup).2.2 entry.1 (List.mem_map_of_mem hentry)
      simpa using (hdisjoint (e.attr "name") (by simp)).symm
    have hnew : Fields.insertNew known e = known ++ [(e.attr "name", e)] := by
      simp [Fields.insertNew, hfresh, hne e]
    rw [List.foldl_cons, hnew, ih (fun d hd => hne d (by simp [hd])) (by simpa using hnodup)]
    simp

namespace Sibling

/-- The fields of a text of siblings with names of their own. -/
theorem map_fields_siblings (last : Margin fieldName) {siblings : List (Sibling fieldName)}
    (hne : ∀ s ∈ siblings, s.key ≠ "") (hnodup : (siblings.map key).Nodup) :
    (fields (render last siblings)).map (fun field => (field.1, field.2.body)) =
      kept bodyLimit last 0 siblings := by
  have hkept : (outermost (Markup.elements "field".toList bodyLimit (render last siblings))).map
      (fun e => (e.attr "name", e.body)) = kept bodyLimit last 0 siblings := by
    rw [outermost, show "field".toList = fieldName.text from rfl, elements_siblings]
    exact map_outermostFrom bodyLimit _ last (Nat.zero_add _) (Nat.zero_le _) (by simp)
  have hnames : ((outermost (Markup.elements "field".toList bodyLimit (render last siblings))).map
      (·.attr "name")).Sublist (siblings.map key) := by
    rw [show (fun e : Element => e.attr "name") =
      Prod.fst ∘ fun e : Element => (e.attr "name", e.body) from rfl, ← List.map_map, hkept]
    exact map_fst_kept_sublist _ _ _ _
  rw [fields, foldl_insertNew_of_nodup (fun e he => ?_) (by simpa using hnames.nodup hnodup),
    ← hkept]
  · simp
  · obtain ⟨s, hs, heq⟩ := List.mem_map.1 (hnames.mem (List.mem_map_of_mem he))
    exact heq ▸ hne s hs

theorem map_fst_fields_siblings (last : Margin fieldName) {siblings : List (Sibling fieldName)}
    (hne : ∀ s ∈ siblings, s.key ≠ "") (hnodup : (siblings.map key).Nodup) :
    (fields (render last siblings)).map Prod.fst =
      (kept bodyLimit last 0 siblings).map Prod.fst := by
  rw [← map_fields_siblings last hne hnodup, List.map_map]
  rfl

theorem lookup_map_body (fields : Fields) (name : String) :
    (fields.map fun field => (field.1, field.2.body)).lookup name =
      (fields.lookup name).map Element.body := by
  induction fields with
  | nil => rfl
  | cons field fields ih =>
    rw [List.map_cons, List.lookup_cons, List.lookup_cons, ih]
    split <;> rfl

/-- Of fields with different names, some of which have no closing tag, all that are not self-closing
are found, in order.  One without a closing tag has a body up to the next opening tag, if this is
not too long, and the self-closing fields that start in this body are lost. -/
theorem lookup_fields_siblings (last : Margin fieldName) {siblings : List (Sibling fieldName)}
    (hne : ∀ s ∈ siblings, s.key ≠ "") (hnodup : (siblings.map key).Nodup) :
    ((fields (render last siblings)).map Prod.fst).Sublist (siblings.map key) ∧
      ∀ before s after, siblings = before ++ s :: after →
        ((fields (render last siblings)).lookup s.key).map Element.body =
          if s.isLost (room bodyLimit before) then none
          else some (s.body bodyLimit last after) := by
  constructor
  · rw [map_fst_fields_siblings last hne hnodup]
    exact map_fst_kept_sublist bodyLimit last 0 siblings
  · rintro before s after rfl
    rw [← lookup_map_body, map_fields_siblings last hne hnodup]
    exact lookup_kept bodyLimit last 0 hnodup

def sampleField (gap : Filler fieldName) (key : List Char) (ending : Ending fieldName)
    (hkey : '"' ∉ key) : Sibling fieldName :=
  ⟨gap.margin, ⟨[.named key hkey], .none⟩, ending⟩

/-- A field without a closing tag, with a self-closing one behind it. -/
def sampleLost : List (Sibling fieldName) :=
  [sampleField .none ['a'] .missing (by decide),
    sampleField (.plain ['x'] (by decide)) ['b'] .selfClosing (by decide)]

/-- The lost field of `sampleLost` between closed fields, and two self-closing ones that are not
lost. -/
def sampleSiblings : List (Sibling fieldName) :=
  [sampleField .none ['c'] (.closed (Filler.plain ['y'] (by decide)).margin .space) (by decide),
    sampleField (.plain ['z'] (by decide)) ['d'] .selfClosing (by decide)] ++ sampleLost ++
  [sampleField .none ['e'] (.closed Filler.none.margin .none) (by decide),
    sampleField .none ['f'] .selfClosing (by decide)]

theorem lookup_fields_siblings_sample :
    ((∀ s ∈ sampleSiblings, s.key ≠ "") ∧ (sampleSiblings.map key).Nodup) ∧
      ((fields (render Filler.none.margin sampleSiblings)).lookup "a").map Element.body =
          some "x<field name=\"b\"/>".toList ∧
        ((fields (render Filler.none.margin sampleSiblings)).lookup "b").map Element.body = none ∧
        ((fields (render Filler.none.margin sampleSiblings)).lookup "f").map Element.body =
          some [] := by
  have hne : ∀ s ∈ sampleSiblings, s.key ≠ "" := by decide
  have hnodup : (sampleSiblings.map key).Nodup := by decide
  have hfields := (lookup_fields_siblings Filler.none.margin hne hnodup).2
  refine ⟨⟨hne, hnodup⟩, ?_, ?_, ?_⟩
  · exact (hfields (sampleSiblings.take 2) _ _ rfl).trans (by decide)
  · exact (hfields (sampleSiblings.take 3) _ _ rfl).trans (by decide)
  · exact (hfields (sampleSiblings.take 5) _ _ rfl).trans (by decide)

/-- A self-closing field is lost behind one without a closing tag. -/
theorem fields_lost :
    (fields "<field name=\"a\">x<field name=\"b\"/>".toList).map Prod.fst = ["a"] := by
  have hne : ∀ s ∈ sampleLost, s.key ≠ "" := by decide
  have hnodup : (sampleLost.map key).Nodup := by decide
  exact (map_fst_fields_siblings Filler.none.margin hne hnodup).trans (by decide)

end Sibling

end AddonAtlas.Markup
