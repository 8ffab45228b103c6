import AddonAtlas.Markup.Record
import AddonAtlas.Proofs.Markup.Forest
import AddonAtlas.Proofs.Text.Table

/-!
# The fields of a record

The nodes that stand directly in a forest are its `children`.  Of the elements of the forest those
are outermost (`map_unplaced_outermost`), so that the fields of a record are told by the children of
its body alone, whatever stands inside of them: a name leads to the first child with that name
(`text_fields`, `ref_fields`, `eval_fields`).
-/

namespace AddonAtlas.Markup

open Text

/-! ## Attributes -/

/-- The value of the first attribute with this name, empty if there is none. -/
def TagHead.attr (h : TagHead) (name : String) : String :=
  ((h.attributes.map WrittenAttribute.entry).lookup name).getD ""

/-- An attribute with a space before it and its value between double quotes. -/
def WrittenAttribute.double (first : Char) (others value : List Char)
    (hfirst : isNameStart first = true) (hothers : others.all isNamePart = true)
    (hvalue : '"' ∉ value) : WrittenAttribute where
  gap := .space
  first
  others
  quote := '"'
  value
  gap_ne_nil := Blanks.space_ne_nil
  isNameStart_first := hfirst
  isNamePart_others := List.all_eq_true.1 hothers
  isQuote_quote := isQuote_double
  quote_notMem_value := hvalue

/-- What tells a field or a record apart: its name, its id and its model. -/
def WrittenAttribute.named (value : List Char) (h : '"' ∉ value) : WrittenAttribute :=
  .double 'n' "ame".toList value rfl rfl h

def WrittenAttribute.id (value : List Char) (h : '"' ∉ value) : WrittenAttribute :=
  .double 'i' ['d'] value rfl rfl h

def WrittenAttribute.model (value : List Char) (h : '"' ∉ value) : WrittenAttribute :=
  .double 'm' "odel".toList value rfl rfl h

theorem lookup_filter_ne {entries : List (String × String)} {a b : String} (h : a ≠ b) :
    (entries.filter (·.1 != b)).lookup a = entries.lookup a := by
  induction entries with
  | nil => rfl
  | cons e entries ih =>
    obtain ⟨name, value⟩ := e
    by_cases hname : name = b
    · have hne : (a == name) = false := beq_eq_false_iff_ne.2 (hname ▸ h)
      simp [hname, List.lookup_cons, hname ▸ hne, ih]
    · have hkeep : (name != b) = true := bne_iff_ne.2 hname
      simp [hkeep, List.lookup_cons, ih]

theorem lookup_firsts (entries : List (String × String)) (name : String) :
    (firsts entries).lookup name = entries.lookup name := by
  induction entries with
  | nil => rfl
  | cons e entries ih =>
    obtain ⟨first, value⟩ := e
    by_cases h : name = first
    · simp [firsts, h]
    · have hne : (name == first) = false := beq_eq_false_iff_ne.2 h
      rw [firsts, List.lookup_cons, List.lookup_cons, hne, lookup_filter_ne h, ih]

/-! ## Children -/

/-- An element without its place. -/
def Element.unplaced (e : Element) : Element :=
  { e with start := 0, stop := 0 }

/-- A node of a forest: its head and what stands inside, nothing for a self-closing tag. -/
structure Node (name : TagName) where
  head : TagHead
  inner : Option (Forest name)

namespace Node

variable {name : TagName}

/-- The element of a node, without a place. -/
def element (cap : Nat) (n : Node name) : Element where
  start := 0
  stop := 0
  attributes := firsts (n.head.attributes.map WrittenAttribute.entry)
  body := (n.inner.map Forest.render).getD [] |>.take cap
  selfClosing := n.inner.isNone
  closed := true

/-- What stands inside of a node, without the blanks around it. -/
def text (n : Node name) : String :=
  .ofList (strip ((n.inner.map Forest.render).getD []))

theorem attr_element (cap : Nat) (n : Node name) (key : String) :
    (n.element cap).attr key = n.head.attr key := by
  rw [Element.attr, element, lookup_firsts, TagHead.attr]

end Node

namespace Forest

variable {name : TagName}

/-- The nodes that stand directly in a forest. -/
def children : Forest name → List (Node name)
  | text _ => []
  | leaf _ head rest => ⟨head, none⟩ :: rest.children
  | branch _ head inner _ rest => ⟨head, some inner⟩ :: rest.children

/-- The first child with this value of its `name`. -/
def child? (forest : Forest name) (key : String) : Option (Node name) :=
  forest.children.find? fun n => n.head.attr "name" == key

/-- The text inside the child with this name, empty if there is none. -/
def childText (forest : Forest name) (key : String) : String :=
  ((forest.child? key).map Node.text).getD ""

/-- An attribute of the child with this name, empty if there is none. -/
def childAttr (forest : Forest name) (key attr : String) : String :=
  ((forest.child? key).map fun n => n.head.attr attr).getD ""

end Forest

/-! ## Outermost elements -/

theorem outermostFrom_append_of_lt {taken : Nat} {inner : List Element}
    (h : ∀ e ∈ inner, e.start < taken) (rest : List Element) :
    outermostFrom taken (inner ++ rest) = outermostFrom taken rest := by
  induction inner with
  | nil => rfl
  | cons e inner ih =>
    rw [List.cons_append, outermostFrom, if_pos (h e (by simp)),
      ih fun e' he' => h e' (by simp [he'])]

/-- The outermost elements of a forest are its children. -/
theorem map_unplaced_outermost {name : TagName} (forest : Forest name) (cap : Nat)
    {taken offset : Nat} (h : taken ≤ offset) :
    (outermostFrom taken (forest.elements cap offset)).map Element.unplaced =
      forest.children.map (Node.element cap) := by
  induction forest generalizing taken offset with
  | text filler => rfl
  | leaf filler head rest ih =>
    rw [Forest.elements, outermostFrom, if_neg (by simp only; omega), List.map_cons, ih le_rfl]
    simp [Forest.children, Node.element, Element.unplaced]
  | branch filler head inner tail rest _ ih =>
    -- all that is inside starts before the closing tag ends
    have hinner : ∀ e ∈ inner.elements cap
        (offset + filler.text.length + (WrittenTag.text name ⟨.opening, head⟩).length),
        e.start < offset + filler.text.length + (WrittenTag.text name ⟨.opening, head⟩).length +
          inner.render.length + (WrittenTag.text name ⟨.closing, ⟨[], tail⟩⟩).length := by
      intro e he
      have := Forest.start_mem_of_mem_elements he
      omega
    rw [Forest.elements, outermostFrom, if_neg (by simp only; omega), List.map_cons,
      outermostFrom_append_of_lt hinner, ih le_rfl]
    simp [Forest.children, Node.element, Element.unplaced]

/-! ## Fields -/

/-- Fields are added like the entries of a table, where elements without a name are left out. -/
theorem foldl_insertNew_eq (known : Fields) (elements : List Element) :
    elements.foldl Fields.insertNew known =
      ((elements.filter fun e => e.attr "name" != "").map fun e => (e.attr "name", e)).foldl addNew
        known := by
  induction elements generalizing known with
  | nil => rfl
  | cons e elements ih =>
    rw [List.foldl_cons, ih, List.filter_cons]
    by_cases hname : e.attr "name" = ""
    · simp [Fields.insertNew, hname]
    · have hstep : known.insertNew e = addNew known (e.attr "name", e) := by
        simp only [Fields.insertNew, beq_eq_false_iff_ne.2 hname, Bool.false_or]
        rfl
      rw [hstep, if_pos (by simpa using hname), List.map_cons, List.foldl_cons]

/-- A name that is looked up among the fields leads to the first of the elements with that name. -/
theorem lookup_foldl_insertNew {key : String} (hkey : key ≠ "") (known : Fields)
    (elements : List Element) :
    (elements.foldl Fields.insertNew known).lookup key =
      (known.lookup key).or (elements.find? fun e => e.attr "name" == key) := by
  rw [foldl_insertNew_eq, lookup_foldl_addNew, lookup_map_self, List.find?_filter]
  congr 2
  funext e
  -- an element with this name is not one without a name
  by_cases hname : e.attr "name" = key
  · simp [hname, hkey]
  · simp [hname]

def fieldName : TagName where
  text := "field".toList
  ne_nil := by decide
  lt_notMem := by decide
  slash_notMem := by decide

theorem map_unplaced_lookup_fields (body : Forest fieldName) {key : String} (hkey : key ≠ "") :
    ((fields body.render).lookup key).map Element.unplaced =
      (body.child? key).map (Node.element bodyLimit) := by
  have hfind : ∀ elements : List Element,
      (elements.find? fun e => e.attr "name" == key).map Element.unplaced =
        (elements.map Element.unplaced).find? fun e => e.attr "name" == key := fun elements => by
    rw [List.find?_map]
    rfl
  have houtermost : (outermost (elements "field".toList bodyLimit body.render)).map
      Element.unplaced = body.children.map (Node.element bodyLimit) := by
    rw [outermost, show "field".toList = fieldName.text from rfl, elements_forest]
    exact map_unplaced_outermost body bodyLimit le_rfl
  rw [fields, lookup_foldl_insertNew hkey, List.lookup_nil, Option.none_or, hfind, houtermost,
    List.find?_map, Forest.child?]
  simp only [Function.comp_def, Node.attr_element]

/-- What a lookup among the fields of a body tells: the child with the name, if there is one. -/
theorem lookup_fields (body : Forest fieldName) {key : String} (hkey : key ≠ "") :
    ((fields body.render).lookup key = none ∧ body.child? key = none) ∨
      ∃ e n, (fields body.render).lookup key = some e ∧ body.child? key = some n ∧
        e.unplaced = n.element bodyLimit := by
  have hlookup := map_unplaced_lookup_fields body hkey
  cases hfield : (fields body.render).lookup key with
  | none =>
    rw [hfield, Option.map_none, eq_comm, Option.map_eq_none_iff] at hlookup
    exact .inl ⟨rfl, hlookup⟩
  | some e =>
    rw [hfield, Option.map_some, eq_comm, Option.map_eq_some_iff] at hlookup
    obtain ⟨n, hn, heq⟩ := hlookup
    exact .inr ⟨e, n, rfl, hn, heq.symm⟩

theorem attr_eq_of_unplaced {name : TagName} {e : Element} {n : Node name} {cap : Nat}
    (h : e.unplaced = n.element cap) (key : String) : e.attr key = n.head.attr key := by
  have hattr : e.unplaced.attr key = n.head.attr key := by rw [h, Node.attr_element]
  exact hattr

theorem Forest.length_inner_le {name : TagName} {forest inner : Forest name} {n : Node name}
    (hn : n ∈ forest.children) (hinner : n.inner = some inner) :
    inner.render.length ≤ forest.render.length := by
  induction forest with
  | text filler => simp [children] at hn
  | leaf filler head rest ih =>
    simp only [children, List.mem_cons] at hn
    simp only [render, List.length_append]
    rcases hn with rfl | hn
    · simp at hinner
    · have := ih hn
      omega
  | branch filler head inner' tail rest _ ih =>
    simp only [children, List.mem_cons] at hn
    simp only [render, List.length_append]
    rcases hn with rfl | hn
    · obtain rfl := Option.some.inj hinner
      omega
    · have := ih hn
      omega

section Reading

variable (body : Forest fieldName) {key : String} (hkey : key ≠ "")

include hkey

theorem text_fields (hlimit : body.render.length ≤ bodyLimit) :
    (fields body.render).text key = body.childText key := by
  rcases lookup_fields body hkey with ⟨hfield, hchild⟩ | ⟨e, n, hfield, hchild, he⟩
  · rw [Fields.text, hfield, Forest.childText, hchild]
    rfl
  · rw [Fields.text, hfield, Forest.childText, hchild, Option.map_some, Option.getD_some]
    have hself : e.selfClosing = n.inner.isNone := congrArg Element.selfClosing he
    have hbody : e.body = ((n.inner.map Forest.render).getD []).take bodyLimit :=
      congrArg Element.body he
    cases hinner : n.inner with
    | none => simp [hself, hinner, Node.text, strip, trimBoth]
    | some inner =>
      have hle := Forest.length_inner_le (List.mem_of_find?_eq_some hchild) hinner
      simp only [hself, hinner, Option.isNone_some, Element.text, hbody, Node.text, Option.map_some,
        Option.getD_some, List.take_of_length_le (hle.trans hlimit)]
      rfl

theorem ref_fields : (fields body.render).ref key = body.childAttr key "ref" := by
  rcases lookup_fields body hkey with ⟨hfield, hchild⟩ | ⟨e, n, hfield, hchild, he⟩
  · rw [Fields.ref, hfield, Forest.childAttr, hchild]
    rfl
  · rw [Fields.ref, hfield, Forest.childAttr, hchild]
    exact attr_eq_of_unplaced he "ref"

theorem eval_fields :
    (fields body.render).eval key = stripString (body.childAttr key "eval") := by
  rcases lookup_fields body hkey with ⟨hfield, hchild⟩ | ⟨e, n, hfield, hchild, he⟩
  · rw [Fields.eval, hfield, Forest.childAttr, hchild]
    rfl
  · rw [Fields.eval, hfield, Forest.childAttr, hchild]
    exact congrArg stripString (attr_eq_of_unplaced he "eval")

end Reading

end AddonAtlas.Markup
