import AddonAtlas.Proofs.Model.Assignment

/-!
# Written model classes

A `ClassSource` is a model class as it is written: a header with one of the three bases, and lines.
What is read from its text is what the first assignment to each key says (`parseClass_text`).
-/

namespace AddonAtlas.Model

open Text Source

/-! ## Classes -/

/-- A model class as it is written. -/
structure ClassSource where
  wordGap : Pads
  wordGap_ne_nil : wordGap.text ≠ []
  name : List Char
  name_ne_nil : name ≠ []
  isPart_name : ∀ c ∈ name, isClassNamePart c = true
  nameGap : Pads
  kind : Kind
  baseGap : Pads
  lines : List Line

/-- The base of the models of a kind. -/
def baseText : Kind → List Char
  | .plain => "models.Model".toList
  | .transient => "models.TransientModel".toList
  | .abstracted => "models.AbstractModel".toList

/-- The word that a class header starts with. -/
def classWord : List Char := ['c', 'l', 'a', 's', 's']

theorem toList_classWord : "class".toList = classWord := rfl

namespace ClassSource

/-- The header of a class. -/
def header (c : ClassSource) : List Char :=
  classWord ++ (c.wordGap.text ++ (c.name ++ (c.nameGap.text ++
    '(' :: (baseText c.kind ++ ')' :: (c.baseGap.text ++ [':'])))))

/-- What the header tells. -/
def headerValue (c : ClassSource) : Header :=
  ⟨.ofList c.name, baseText c.kind⟩

/-- The text of a class. -/
def text (c : ClassSource) : List Char :=
  c.header ++ linesText c.lines

/-- The assignments of a class. -/
def assignments (c : ClassSource) : List Assigned :=
  c.lines.filterMap Line.assigned?

/-- The name that the class gives to its model. -/
def modelName? (c : ClassSource) : Option (List Char) :=
  (given? c.lines .name).bind (·.assignment.tokens.head?)

/-- The models that the class extends. -/
def inherits (c : ClassSource) : List (List Char) :=
  ((given? c.lines .inherit).map (·.assignment.tokens)).getD []

/-- The models that the class delegates to. -/
def delegates (c : ClassSource) (order : DelegationOrder) : List (List Char) :=
  ((given? c.lines .inherits).map (·.assignment.targets order)).getD []

/-- What there is to tell about the class. -/
def entry (c : ClassSource) (order : DelegationOrder) (module file : String) : Class where
  module := module
  file := file
  className := .ofList c.name
  model := ((c.modelName?.or c.inherits.head?).map String.ofList).getD ""
  kind := c.kind
  inherits := c.inherits.map String.ofList
  delegates := (c.delegates order).map String.ofList

end ClassSource

/-! ## Reading a class -/

section Reading

variable {key : Key}

theorem assignedOnLine?_eq (text : List Char) :
    assignedOnLine? key.text text = assigned? key.text (dropPads text) := by
  induction text with
  | nil => rfl
  | cons c text ih =>
    by_cases hc : isPad c = true
    · have hhere : assigned? key.text (c :: text) = none := by
        refine assigned?_of_head fun hkey => ?_
        rw [Option.some.inj hkey] at hc
        exact absurd hc (by decide)
      rw [assignedOnLine?, if_pos hc, ih, hhere, dropPads, dropPads, List.dropWhile_cons_of_pos hc]
      cases assigned? key.text (text.dropWhile isPad) <;> rfl
    · rw [assignedOnLine?, if_neg hc, dropPads, List.dropWhile_cons_of_neg hc]

/-- The assignments below a line are those that a search behind the line ends finds. -/
theorem assignedBelow?_eq (text : List Char) (before : Option Char) :
    assignedBelow? key.text text = findFirst (atLine key some) before text := by
  induction text generalizing before with
  | nil => rfl
  | cons c text ih =>
    by_cases hc : c = '\n'
    · subst hc
      rw [assignedBelow?, if_pos (by decide), findFirst, atLine_newline, assignedOnLine?_eq,
        Option.bind_fun_some, ih (some '\n')]
      cases assigned? key.text (dropPads text) <;> rfl
    · rw [assignedBelow?, if_neg (by simpa using hc), findFirst, atLine_of_ne hc, ih (some c)]

theorem length_value_le {lines : List Line} {a : Assigned} (h : given? lines key = some a) :
    a.assignment.value.length ≤ (linesText lines).length := by
  obtain ⟨line, hline, ha⟩ := List.mem_filterMap.1 (List.mem_of_find?_eq_some h)
  have hsub : line.text.Sublist (linesText lines) := by
    rw [linesText, List.flatMap_def]
    exact List.sublist_flatten_of_mem (List.mem_map_of_mem hline)
  refine le_trans ?_ hsub.length_le
  cases line with
  | other line => simp [Line.assigned?] at ha
  | assigned b =>
    obtain rfl := Option.some.inj ha
    simp only [Line.text, Assigned.text, List.length_cons, List.length_append]
    omega

end Reading

namespace ClassSource

theorem newline_notMem_header (c : ClassSource) : '\n' ∉ c.header := by
  have hpads (p : Pads) : '\n' ∉ p.text := p.notMem (by decide)
  have hname : '\n' ∉ c.name := fun h => absurd (c.isPart_name _ h) (by decide)
  have hbase : '\n' ∉ baseText c.kind := by cases c.kind <;> decide
  simp [header, classWord, hpads, hname, hbase]

/-- A search in a class ends at the first assignment to the key. -/
theorem findFirst_text (c : ClassSource) {β : Type} {key : Key} {g : List Char → Option β}
    (hg : ∀ a : Assignment, a.key = key → ∀ rest, (g (a.value ++ rest)).isSome) :
    ∃ rest, (∀ d ∈ rest.head?, d = '\n') ∧
      findFirst (atLine key g) none c.text =
        (given? c.lines key).bind fun a => g (a.assignment.value ++ (a.trailing.text ++ rest)) := by
  rw [text, findFirst_quiet (quiet_atLine c.newline_notMem_header)]
  exact findFirst_lines hg c.lines _

/-- The name of the model is the one that the class gives. -/
theorem modelName?_text (c : ClassSource) :
    Model.modelName? c.text = c.modelName?.map String.ofList := by
  have hvalue (a : Assignment) (ha : a.key = .name) (rest : List Char) :
      quotedValue (a.value ++ rest) = a.tokens.head?.map String.ofList ∧ a.tokens ≠ [] := by
    cases a with
    | name literal =>
      obtain ⟨hne, hclean⟩ := literal.holds
      exact ⟨Literal.quotedValue_render hne (fun d hd => (hclean d hd).2) rest,
        List.cons_ne_nil _ _⟩
    | inherit | inheritList | inherits => exact Key.noConfusion ha
  have hsome (a : Assignment) (ha : a.key = .name) (rest : List Char) :
      (quotedValue (a.value ++ rest)).isSome := by
    obtain ⟨htoken, hne⟩ := hvalue a ha rest
    simpa [htoken] using hne
  obtain ⟨rest, -, hrest⟩ := c.findFirst_text hsome
  refine Eq.trans hrest ?_
  rw [modelName?]
  cases hgiven : given? c.lines .name with
  | none => rfl
  | some a =>
    have ha : a.assignment.key = .name := by simpa using List.find?_some hgiven
    exact (hvalue a.assignment ha _).1

theorem assignment?_text (c : ClassSource) :
    assignment? Key.inherit.text c.text = findFirst (atLine .inherit some) none c.text := by
  have hfirst : assigned? Key.inherit.text (dropPads c.text) = none :=
    assigned?_of_head (by simp [text, header, classWord, dropPads, isPad])
  rw [assignment?, assignedOnLine?_eq, hfirst, assignedBelow?_eq]

/-- The names in the value of an assignment to `_inherit`, which is one literal or a list. -/
theorem literals_inherit {a : Assigned} (ha : a.assignment.key = .inherit)
    (hshort : a.assignment.Short) {rest : List Char} (hrest : ∀ d ∈ rest.head?, d = '\n') :
    literals (match block? inheritLimit (a.assignment.value ++ (a.trailing.text ++ rest)) with
      | some inner => inner
      | none => (a.assignment.value ++ (a.trailing.text ++ rest)).takeWhile (· != '\n')) =
      a.assignment.tokens := by
  cases hassignment : a.assignment with
  | name | inherits => exact Key.noConfusion (hassignment ▸ ha)
  | inheritList listing =>
    rw [hassignment, Assignment.Short] at hshort
    rw [Assignment.value, listing.block?_render hshort]
    exact listing.spells_inner.literals_eq
  | inherit literal =>
    have hblock : block? inheritLimit (literal.render ++ (a.trailing.text ++ rest)) = none := by
      simp [Literal.render, block?, closer?_of_isQuote literal.isQuote_quote]
    have hpads : '\n' ∉ a.trailing.text := a.trailing.notMem (by decide)
    have hline : ∀ d ∈ literal.render ++ a.trailing.text, (d != '\n') = true := by
      intro d hd
      rw [bne_iff_ne]
      rintro rfl
      rcases List.mem_append.1 hd with hd | hd
      · exact newline_notMem_render literal hd
      · exact hpads hd
    have hend : ∀ d ∈ rest.head?, (d != '\n') = false := fun d hd => by simp [hrest d hd]
    have htrailing : Spells a.trailing.text [] := spells_of_quoteFree fun d hd => by
      rcases isPad_eq_true_iff.1 (a.trailing.pad d hd) with rfl | rfl <;> decide
    rw [Assignment.value, hblock]
    simp only [← List.append_assoc, takeWhile_append_run hline hend]
    exact (literal.spells_render.append htrailing).literals_eq

theorem inherits_text (c : ClassSource) (hshort : ∀ a ∈ c.assignments, a.assignment.Short) :
    ((assignmentValue? inheritLimit "_inherit".toList c.text).map literals).getD [] =
      c.inherits := by
  have hsome (a : Assignment) (_ : a.key = .inherit) (rest : List Char) :
      (some (a.value ++ rest)).isSome := rfl
  obtain ⟨rest, hrest, hfound⟩ := c.findFirst_text (g := some) hsome
  have hkey : "_inherit".toList = Key.inherit.text := rfl
  rw [hkey, assignmentValue?, c.assignment?_text, hfound, inherits]
  cases hgiven : given? c.lines .inherit with
  | none => rfl
  | some a =>
    have ha : a.assignment.key = .inherit := by simpa using List.find?_some hgiven
    exact literals_inherit ha (hshort a (List.mem_of_find?_eq_some hgiven)) hrest

/-- The text, when it starts with a brace. -/
def bracedValue (text : List Char) : Option (List Char) := do
  guard (text.head? == some '{')
  return text

theorem alternate_pairs (pairs : List Pair) :
    alternate (pairs.flatMap fun pair => [pair.key.text, pair.value.text]) =
      (pairs.map (·.key.text), pairs.map (·.value.text)) := by
  induction pairs with
  | nil => rfl
  | cons pair pairs ih => simp [alternate, ih]

theorem tokens_delegation (lead : Gap) (pairs : List Pair) :
    (delegation lead pairs).tokens =
      pairs.flatMap fun pair => [pair.key.text, pair.value.text] := by
  simp [Listing.tokens, delegation, List.map_flatMap]

/-- The models and the link fields that are read from a written delegation: its keys and its values, as
the order says. -/
theorem splitDelegation_render (order : DelegationOrder) (lead : Gap) (pairs : List Pair) {cap : Nat}
    (hcap : (delegation lead pairs).inner.length ≤ cap) (rest : List Char) :
    splitDelegation order
        (literals ((block? cap ((delegation lead pairs).render ++ rest)).getD [])) =
      match order with
      | .keyFirst => (pairs.map (·.key.text), pairs.map (·.value.text))
      | .valueFirst => (pairs.map (·.value.text), pairs.map (·.key.text)) := by
  rw [(delegation lead pairs).block?_render hcap, Option.getD_some,
    (delegation lead pairs).spells_inner.literals_eq, tokens_delegation]
  cases order <;> simp only [splitDelegation, alternate_pairs]

/-- The targets of a delegation are its keys or its values, as the order says. -/
theorem delegates_text (c : ClassSource) (order : DelegationOrder) {cap : Nat}
    (hcap : c.text.length ≤ cap) :
    (match delegation? c.text with
      | some value => splitDelegation order (literals ((block? cap value).getD []))
      | none => ([], [])).1 = c.delegates order := by
  have hvalue (a : Assignment) (ha : a.key = .inherits) :
      ∃ lead pairs, a = .inherits lead pairs := by
    cases a with
    | inherits lead pairs => exact ⟨lead, pairs, rfl⟩
    | name | inherit | inheritList => exact Key.noConfusion ha
  have hsome (a : Assignment) (ha : a.key = .inherits) (rest : List Char) :
      (bracedValue (a.value ++ rest)).isSome := by
    obtain ⟨lead, pairs, rfl⟩ := hvalue a ha
    rfl
  obtain ⟨rest, -, hrest⟩ := c.findFirst_text hsome
  have hfound : delegation? c.text = _ := hrest
  rw [hfound, delegates]
  cases hgiven : given? c.lines .inherits with
  | none => rfl
  | some a =>
    have hlength := length_value_le hgiven
    obtain ⟨lead, pairs, ha⟩ := hvalue a.assignment (by simpa using List.find?_some hgiven)
    have hinner : (delegation lead pairs).inner.length ≤ cap := by
      rw [ha, Assignment.value, Listing.render, List.length_cons, List.length_append] at hlength
      rw [text, List.length_append] at hcap
      omega
    have hbrace : bracedValue (a.assignment.value ++ (a.trailing.text ++ rest)) =
        some ((delegation lead pairs).render ++ (a.trailing.text ++ rest)) := by
      rw [ha]
      rfl
    rw [Option.bind_some, hbrace]
    simp only [splitDelegation_render order lead pairs hinner, ha, Option.map_some,
      Assignment.targets]
    cases order <;> rfl

theorem fst_parseClass (order : DelegationOrder) (cap : Nat) (module file : String)
    (header : Header) (body : List Char) :
    (parseClass order cap module file header body).1 =
      let inherits := ((assignmentValue? inheritLimit "_inherit".toList body).map literals).getD []
      { module, file
        className := header.className
        model := (Model.modelName? body).getD ((inherits.head?.map String.ofList).getD "")
        kind := kindOf header.bases
        inherits := inherits.map String.ofList
        delegates := (match delegation? body with
          | some value => splitDelegation order (literals ((block? cap value).getD []))
          | none => ([], [])).1.map String.ofList } := rfl

theorem snd_parseClass (order : DelegationOrder) (cap : Nat) (module file : String)
    (header : Header) (body : List Char) :
    (parseClass order cap module file header body).2 =
      let parts := match delegation? body with
        | some value => splitDelegation order (literals ((block? cap value).getD []))
        | none => ([], [])
      if looksReversed parts.1 parts.2 then
        some (reversedWarning file header.className parts.1) else none := rfl

/-- What is read from the text of a class is what its assignments say. -/
theorem parseClass_text (c : ClassSource) (order : DelegationOrder) (module file : String)
    {cap : Nat} (hcap : c.text.length ≤ cap) (hshort : ∀ a ∈ c.assignments, a.assignment.Short) :
    (parseClass order cap module file c.headerValue c.text).1 =
      c.entry order module file := by
  have hkind : kindOf (baseText c.kind) = c.kind := by cases c.kind <;> rfl
  have hmodel :
      (c.modelName?.map String.ofList).getD ((c.inherits.head?.map String.ofList).getD "") =
        ((c.modelName?.or c.inherits.head?).map String.ofList).getD "" := by
    cases c.modelName? <;> rfl
  rw [fst_parseClass, headerValue, c.inherits_text hshort, c.modelName?_text, hkind,
    c.delegates_text order hcap, entry, ← hmodel]

end ClassSource

end AddonAtlas.Model
