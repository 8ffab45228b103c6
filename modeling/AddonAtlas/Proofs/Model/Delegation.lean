import AddonAtlas.Proofs.Model.File

/-!
# Delegations that look reversed

A `Delegating` class is a class with any text around its delegation.  Where every key of the delegation is
a model and every value a field, the keys do not look like fields; so there is no warning if keys are taken
for models, and exactly one if values are (`warnings_delegating`).  In any file there are at most as many
warnings as classes.
-/

namespace AddonAtlas.Model

open Text Source

/-! ## Fields and models -/

/-- The text of a field: small letters, digits and underscores, no digit first. -/
def IsField : List Char → Prop
  | [] => False
  | c :: rest => (c.isLower ∨ c = '_') ∧ ∀ d ∈ rest, d.isLower ∨ d.isDigit ∨ d = '_'

instance : DecidablePred IsField
  | [] => inferInstanceAs (Decidable False)
  | c :: rest => decidable_of_iff ((c.isLower || c == '_') = true ∧
      rest.all (fun d => d.isLower || d.isDigit || d == '_') = true)
    (by simp only [IsField, List.all_eq_true, Bool.or_eq_true, beq_iff_eq, or_assoc])

theorem looksLikeField_of_isField {token : List Char} (h : IsField token) :
    looksLikeField token = true := by
  cases token with
  | nil => exact h.elim
  | cons c rest =>
    obtain ⟨hc, hrest⟩ := h
    have hpart : rest.dropWhile (fun d => d.isLower || d.isDigit || d == '_') = [] :=
      List.dropWhile_eq_nil_iff.2 fun d hd => by simpa [or_assoc] using hrest d hd
    simp [looksLikeField, hpart, hc]

/-- What holds a dot does not look like a field. -/
theorem looksLikeField_of_dot {token : List Char} (h : '.' ∈ token) :
    looksLikeField token = false := by
  cases token with
  | nil => rfl
  | cons c rest =>
    rcases List.mem_cons.1 h with rfl | hrest
    · rfl
    · -- the dot stands behind the letters and is no line end
      have hdot : '.' ∈ rest.dropWhile fun d => d.isLower || d.isDigit || d == '_' := by
        rw [← rest.takeWhile_append_dropWhile
          (p := fun d => d.isLower || d.isDigit || d == '_'), List.mem_append] at hrest
        exact hrest.resolve_left fun hmem => absurd (List.mem_takeWhile_imp hmem) (by decide)
      rw [looksLikeField, Bool.and_eq_false_iff]
      right
      split
      · next hnil => rw [hnil] at hdot; cases hdot
      · next hend => rw [hend] at hdot; exact absurd hdot (by decide)
      · rfl

/-- A pair of a delegation with a model as its key and a field as its value. -/
def Pair.Directed (pair : Pair) : Prop :=
  '.' ∈ pair.key.text ∧ IsField pair.value.text

instance : DecidablePred Pair.Directed := fun pair =>
  inferInstanceAs (Decidable ('.' ∈ pair.key.text ∧ IsField pair.value.text))

section Directed

variable {pairs : List Pair} (hne : pairs ≠ []) (hpairs : ∀ pair ∈ pairs, pair.Directed)

include hne hpairs

theorem looksReversed_keys :
    looksReversed (pairs.map (·.key.text)) (pairs.map (·.value.text)) = false := by
  obtain ⟨pair, rest, rfl⟩ := List.exists_cons_of_ne_nil hne
  simp [looksReversed, looksLikeField_of_dot (hpairs pair List.mem_cons_self).1]

theorem looksReversed_values :
    looksReversed (pairs.map (·.value.text)) (pairs.map (·.key.text)) = true := by
  have hfields : ∀ pair ∈ pairs, looksLikeField pair.value.text = true :=
    fun pair hpair => looksLikeField_of_isField (hpairs pair hpair).2
  have hmodels : ∀ pair ∈ pairs, '.' ∈ pair.key.text := fun pair hpair => (hpairs pair hpair).1
  simpa [looksReversed, hne] using ⟨hfields, hmodels⟩

end Directed

/-! ## Classes with a delegation -/

/-- A class with a delegation in it.  Any text may stand before the line of the delegation and behind
its closing brace. -/
structure Delegating where
  header : HeaderText
  before : List Char
  margin : Pads
  beforeSign : Pads
  afterSign : Pads
  lead : Gap
  pairs : List Pair
  after : List Char

namespace Delegating

variable (c : Delegating)

/-- The assignment of the delegation. -/
def assigned : Assigned :=
  ⟨c.margin, c.beforeSign, c.afterSign, .inherits c.lead c.pairs, .none⟩

/-- The text from the line end before the delegation on. -/
def fromLine : List Char :=
  '\n' :: (c.assigned.text ++ c.after)

/-- The text behind the header. -/
def body : List Char :=
  c.before ++ c.fromLine

/-- The text of the class. -/
def text : List Char :=
  c.header.render c.body

/-- The recogniser of a dictionary that is assigned to `_inherits`. -/
def opens : Option Char → List Char → Option (List Char) :=
  atLine .inherits ClassSource.bracedValue

/-- The class is the only one in a file with `prelude` before it: no other header starts there or in the
class. -/
def Alone (prelude : List Char) : Prop :=
  Quiet header? c.text prelude ∧ Quiet header? [] c.body

/-- No dictionary is assigned to `_inherits` earlier in the class. -/
def First : Prop :=
  Quiet opens c.fromLine (c.header.render c.before)

theorem delegation?_text (h : c.First) :
    delegation? c.text = some ((delegation c.lead c.pairs).render ++ c.after) := by
  have htext : c.text = c.header.render c.before ++ c.fromLine := by
    rw [HeaderText.render_append, text, body]
  have hfound (before : Option Char) :
      opens before c.fromLine = some ((delegation c.lead c.pairs).render ++ c.after) := by
    have hline := assignedAtLine?_text c.assigned c.after
    rw [opens, atLine, fromLine]
    exact (congrArg (·.bind ClassSource.bracedValue) hline).trans rfl
  have hsearch : delegation? c.text = findFirst opens none c.text := rfl
  rw [hsearch, htext, findFirst_quiet h, findFirst_eq_some (hfound _)]

theorem length_inner_le : (delegation c.lead c.pairs).inner.length ≤ c.text.length := by
  rw [text, HeaderText.length_render, body, fromLine, assigned]
  simp only [Assigned.text, Assignment.value, Listing.render, List.length_append, List.length_cons]
  omega

/-- What is said of a class with a delegation of models by fields. -/
def warning (order : DelegationOrder) (file : String) : Option String :=
  match order with
  | .keyFirst => none
  | .valueFirst =>
    some (reversedWarning file (.ofList c.header.name) (c.pairs.map (·.value.text)))

theorem snd_parseClass_text (order : DelegationOrder) {cap : Nat} (module file : String)
    (hfirst : c.First) (hcap : c.text.length ≤ cap) (hne : c.pairs ≠ [])
    (hpairs : ∀ pair ∈ c.pairs, pair.Directed) :
    (parseClass order cap module file c.header.value c.text).2 = c.warning order file := by
  have hinner := c.length_inner_le.trans hcap
  rw [ClassSource.snd_parseClass, c.delegation?_text hfirst]
  simp only [ClassSource.splitDelegation_render order c.lead c.pairs hinner]
  cases order with
  | keyFirst =>
    rw [if_neg (by simp [looksReversed_keys hne hpairs])]
    rfl
  | valueFirst =>
    rw [if_pos (looksReversed_values hne hpairs)]
    rfl

/-! ## Files -/

/-- The only header of a file gets all of the text from it on. -/
theorem withBodies_text {prelude : List Char} (h : c.Alone prelude) {cap : Nat}
    (hcap : c.text.length ≤ cap) :
    withBodies cap 0 (prelude ++ c.text) (findAll header? (prelude ++ c.text)) =
      [(c.header.value, c.text)] := by
  have hrender : c.text = c.header.render [] ++ c.body := by
    rw [HeaderText.render_append, List.nil_append, text]
  have hwritten : written [] [⟨[], c.header.render [], c.header.value, c.body⟩] = c.text := by
    rw [written, written, List.nil_append, List.append_nil, hrender]
  have hreadable : Readable header? [] [⟨[], c.header.render [], c.header.value, c.body⟩] := by
    have hsize : (c.header.render []).length = c.header.size := c.header.length_render []
    refine ⟨trivial, ?_, fun before => ?_, h.2, trivial⟩
    · exact List.ne_nil_of_length_pos (by rw [hsize, HeaderText.size]; omega)
    · rw [written, List.append_nil, ← hrender, hsize]
      exact c.header.header?_render before c.body
  have hquiet := h.1
  rw [← hwritten] at hquiet
  have hfound := findAll_append_written hquiet hreadable
  rw [hwritten] at hfound
  rw [hfound, located_cons, withBodies_cons]
  simp [located, withBodies, List.take_of_length_le hcap]

end Delegating

theorem length_warnings_le (order : DelegationOrder) (cap : Nat) (module file : String)
    (content : List Char) :
    (parse order cap module file content).warnings.length ≤
      (parse order cap module file content).classes.length := by
  simp only [parse, List.length_map]
  exact (List.length_filterMap_le _ _).trans_eq (List.length_map _)

/-- A class that delegates to models by fields is read without a warning if keys are taken for models, and
with exactly one, which names it, if values are.  In no file there are more warnings than classes. -/
theorem warnings_delegating (c : Delegating) {cap : Nat} (module file : String) {prelude : List Char}
    (hmodel : hasModelBase c.header.bases = true) (halone : c.Alone prelude) (hfirst : c.First)
    (hcap : c.text.length ≤ cap) (hne : c.pairs ≠ []) (hpairs : ∀ pair ∈ c.pairs, pair.Directed) :
    (parse .keyFirst cap module file (prelude ++ c.text)).warnings = [] ∧
      (parse .valueFirst cap module file (prelude ++ c.text)).warnings =
        [reversedWarning file (.ofList c.header.name) (c.pairs.map (·.value.text))] ∧
      ∀ order cap' content, (parse order cap' module file content).warnings.length ≤
        (parse order cap' module file content).classes.length := by
  have hwarnings (order : DelegationOrder) :
      (parse order cap module file (prelude ++ c.text)).warnings =
        (c.warning order file).toList := by
    have hkept : hasModelBase c.header.value.bases = true := hmodel
    have hwarning := c.snd_parseClass_text order module file hfirst hcap hne hpairs
    rw [parse, c.withBodies_text halone hcap]
    simp only [List.filter_cons, hkept, if_true, List.filter_nil, List.map_cons, List.map_nil,
      List.filterMap_cons, List.filterMap_nil, hwarning]
    cases c.warning order file <;> rfl
  exact ⟨hwarnings .keyFirst, hwarnings .valueFirst,
    fun order cap' content => length_warnings_le order cap' module file content⟩

/-- A recogniser that does not look back finds nothing in a gap if it fails on all its tails. -/
theorem quiet_of_all {β : Type} {r : Option Char → List Char → Option β} {rest gap : List Char}
    (hr : ∀ before text, r before text = r none text)
    (h : (gap.tails.all fun tail => tail.isEmpty || (r none (tail ++ rest)).isNone) = true) :
    Quiet r rest gap := by
  refine quiet_of_suffix fun c s hs before => ?_
  have htail := List.all_eq_true.1 h (c :: s) ((List.mem_tails _ _).2 hs)
  rw [hr]
  simpa using htail

/-- A class with lines that only look like a delegation around the one that is meant. -/
def delegatingSample : Delegating where
  header :=
    { wordGap := Pads.space.blanks
      wordGap_ne_nil := Pads.space_ne_nil
      name := "Employee".toList
      name_ne_nil := List.cons_ne_nil _ _
      isPart_name := List.all_eq_true.1 rfl
      nameGap := Blanks.none
      bases := "mail.thread, models.Model".toList
      notMem_bases := by decide
      baseGap := Blanks.none }
  before := "\n  _order = 'name'\n  _inherits = dict()\n  # _inherits = \x7b".toList
  margin := .tab
  beforeSign := .space
  afterSign := .space
  lead := .none
  pairs := [
    ⟨.double "resource.resource".toList (by decide), .of [':', ' '] rfl,
      .double "resource_id".toList (by decide), .comma⟩,
    ⟨.single "hr.staff".toList (by decide), .of [':', ' '] rfl,
      .single "_staff2".toList (by decide), .none⟩]
  after := "\n  def _inherits(self): return \x7b'a': 'b'\x7d".toList

theorem warnings_delegating_sample :
    (hasModelBase delegatingSample.header.bases = true ∧
      delegatingSample.Alone "import models\n".toList ∧ delegatingSample.First ∧
      delegatingSample.text.length ≤ 300 ∧ delegatingSample.pairs ≠ [] ∧
      ∀ pair ∈ delegatingSample.pairs, pair.Directed) ∧
    (parse .keyFirst 300 "hr" "staff.py" ("import models\n".toList ++ delegatingSample.text)).warnings =
      [] ∧
    (parse .valueFirst 300 "hr" "staff.py"
        ("import models\n".toList ++ delegatingSample.text)).warnings =
      ["staff.py:Employee _inherits tokens look reversed (resource_id, _staff2); " ++
        "check orm.delegated_order"] := by
  have hmodel : hasModelBase delegatingSample.header.bases = true := by decide +kernel
  have halone : delegatingSample.Alone "import models\n".toList :=
    ⟨quiet_of_all (fun _ _ => rfl) (by decide +kernel),
      quiet_of_all (fun _ _ => rfl) (by decide +kernel)⟩
  have hfirst : delegatingSample.First := quiet_of_all (fun _ _ => rfl) (by decide +kernel)
  have hcap : delegatingSample.text.length ≤ 300 := by decide +kernel
  have hne : delegatingSample.pairs ≠ [] := List.cons_ne_nil _ _
  have hpairs : ∀ pair ∈ delegatingSample.pairs, pair.Directed := by decide +kernel
  obtain ⟨hkeys, hvalues, -⟩ :=
    warnings_delegating delegatingSample "hr" "staff.py" hmodel halone hfirst hcap hne hpairs
  refine ⟨⟨hmodel, halone, hfirst, hcap, hne, hpairs⟩, hkeys, hvalues.trans ?_⟩
  decide +kernel

end AddonAtlas.Model
