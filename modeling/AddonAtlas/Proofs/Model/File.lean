import AddonAtlas.Proofs.Model.Header

/-!
# Files of model classes

No class header starts inside of a class, since a name holds no blank (`quiet_linesText`), so a
file of classes falls into the texts of its classes (`withBodies_located`).  The classes that are
read from it are the written ones, in order, and nothing passes from one class to another
(`parse_classes`).
-/

namespace AddonAtlas.Model

open Text Source

/-! ## Headers -/

theorem header?_eq_none {before : Option Char} {text : List Char}
    (h : ∀ rest, text = classWord ++ rest → ∀ c ∈ rest.head?, isBlank c = false) :
    header? before text = none := by
  cases hword : after? classWord text with
  | none => simp [header?, toList_classWord, hword]
  | some rest =>
    cases rest with
    | nil => simp [header?, toList_classWord, hword]
    | cons c rest =>
      have hblank := h _ (after?_eq_some_iff.1 hword) c rfl
      simp [header?, toList_classWord, hword, hblank]

theorem header?_of_not_prefix (before : Option Char) (text : List Char)
    (h : ¬ classWord <+: text) : header? before text = none :=
  header?_eq_none fun rest hrest => absurd ⟨rest, hrest.symm⟩ h

theorem header?_of_ne {before : Option Char} {c : Char} (hc : c ≠ 'c') (text : List Char) :
    header? before (c :: text) = none := by
  refine header?_eq_none fun rest hrest => ?_
  rw [classWord, List.cons_append, List.cons.injEq] at hrest
  exact absurd hrest.1 hc

theorem quiet_header {rest gap : List Char} (h : 'c' ∉ gap) : Quiet header? rest gap :=
  quiet_of_forall_mem fun _ hc _ text => header?_of_ne (fun heq => h (heq ▸ hc)) text

/-- A text without blanks that ends outside of the word of a header does not start one. -/
theorem header?_of_blankFree {front : List Char} {stop : Char} (hstop : stop ∉ classWord)
    (hblank : ∀ d ∈ front ++ [stop], isBlank d = false) (before : Option Char) (rest : List Char) :
    header? before (front ++ stop :: rest) = none := by
  refine header?_eq_none fun found hfound d hd => ?_
  obtain ⟨left, rfl⟩ := prefix_of_prefix_append_cons hstop ⟨found, hfound.symm⟩
  rw [List.append_assoc, List.append_cancel_left_eq] at hfound
  apply hblank
  rw [← hfound] at hd
  cases left with
  | nil => simp [← Option.some.inj hd]
  | cons e left => simp [← Option.some.inj hd]

/-- In a literal no blank stands behind the word of a header. -/
theorem quiet_header_literal (q : Quoted IsName) (rest : List Char) :
    Quiet header? rest q.render := by
  have hblank : ∀ d ∈ q.render, isBlank d = false := by
    intro d hd
    rcases Literal.mem_render hd with rfl | rfl | hd
    · exact (classes_of_isQuote q.isQuote_quote).1
    · rfl
    · exact (q.holds.2 d hd).1
  have hquote : q.quote ∉ classWord := by
    have hword : ∀ e ∈ classWord, isQuote e = false := by simp [classWord, isQuote]
    exact fun hmem => absurd q.isQuote_quote (by simp [hword _ hmem])
  refine quiet_of_suffix fun c s hs before => ?_
  -- every suffix ends with the quote
  have hlast : (c :: s).getLast? = some q.quote := by
    obtain ⟨front, hfront⟩ := hs
    rw [← q.getLast?_render, ← hfront, List.getLast?_append_of_ne_nil _ (List.cons_ne_nil c s)]
  obtain ⟨front, hfront⟩ := List.getLast?_eq_some_iff.1 hlast
  rw [← List.cons_append, hfront, List.append_assoc]
  exact header?_of_blankFree hquote (fun d hd => hblank d (hs.subset (hfront ▸ hd))) before rest

theorem overlooks_header : Overlooks header? IsName where
  bracket hc text _ := by
    apply header?_of_ne
    rintro rfl
    exact absurd hc (by decide)
  gap separators _ _ _ := quiet_header (separators.notMem (by decide))
  literal := quiet_header_literal

/-- No header starts in a line of a class, whether another line, the next class or nothing follows
it. -/
theorem quiet_line (line : Line) {rest : List Char} (hrest : ∀ c ∈ rest.head?, c = '\n' ∨ c = 'c') :
    Quiet header? rest line.text := by
  cases line with
  | other line =>
    refine ⟨fun before => header?_of_ne (by decide) _, ?_⟩
    refine quiet_of_not_infix header?_of_not_prefix line.no_class fun c hc => ?_
    rcases hrest c hc with rfl | rfl <;> decide
  | assigned a =>
    have hpads (p : Pads) : 'c' ∉ p.text := p.notMem (by decide)
    have hkey : 'c' ∉ a.assignment.key.text := by cases a.assignment.key <;> decide
    simp only [Line.text, Assigned.text, quiet_append, Quiet]
    exact ⟨fun _ => header?_of_ne (by decide) _, quiet_header (hpads _), quiet_header hkey,
      quiet_header (hpads _), fun _ => header?_of_ne (by decide) _, quiet_header (hpads _),
      a.assignment.quiet_value overlooks_header _, quiet_header (hpads _)⟩

theorem quiet_linesText (lines : List Line) {rest : List Char} (hrest : ∀ c ∈ rest.head?, c = 'c') :
    Quiet header? rest (linesText lines) := by
  induction lines with
  | nil => trivial
  | cons line lines ih =>
    rw [linesText, List.flatMap_cons, ← linesText, quiet_append]
    refine ⟨quiet_line line fun c hc => ?_, ih⟩
    rw [List.head?_append, Option.mem_def, Option.or_eq_some_iff] at hc
    rcases hc with hc | ⟨-, hc⟩
    · exact .inl (head?_linesText lines c hc)
    · exact .inr (hrest c hc)

theorem close_notMem_baseText (kind : Kind) : ')' ∉ baseText kind := by
  cases kind <;> decide

/-- The header of a class, as it stands in a text. -/
def ClassSource.headerText (c : ClassSource) : HeaderText where
  wordGap := c.wordGap.blanks
  wordGap_ne_nil := c.wordGap_ne_nil
  name := c.name
  name_ne_nil := c.name_ne_nil
  isPart_name := c.isPart_name
  nameGap := c.nameGap.blanks
  bases := baseText c.kind
  notMem_bases := close_notMem_baseText c.kind
  baseGap := c.baseGap.blanks

theorem header?_header (c : ClassSource) (before : Option Char) (rest : List Char) :
    header? before (c.header ++ rest) = some (c.headerValue, c.header.length) := by
  have hrender (more : List Char) : c.header ++ more = c.headerText.render more := by
    simp [ClassSource.header, HeaderText.render, ClassSource.headerText, Pads.blanks]
  have hlength : c.header.length = c.headerText.size := by
    rw [← List.append_nil c.header, hrender, HeaderText.length_render]
    rfl
  rw [hrender, hlength]
  exact c.headerText.header?_render before rest

/-! ## Files -/

/-- A file of classes. -/
def render (classes : List ClassSource) : List Char :=
  classes.flatMap ClassSource.text

/-- A class as a segment of a file. -/
def ClassSource.segment (c : ClassSource) : Segment Header :=
  ⟨[], c.header, c.headerValue, linesText c.lines⟩

theorem written_segments (classes : List ClassSource) :
    written [] (classes.map ClassSource.segment) = render classes := by
  induction classes with
  | nil => rfl
  | cons c classes ih => simp [ClassSource.segment, written, render, ClassSource.text, ih]

theorem head?_render (classes : List ClassSource) : ∀ d ∈ (render classes).head?, d = 'c' := by
  cases classes with
  | nil => simp [render]
  | cons c classes => simp [render, ClassSource.text, ClassSource.header, classWord]

theorem readable_segments (classes : List ClassSource) :
    Readable header? [] (classes.map ClassSource.segment) := by
  induction classes with
  | nil => trivial
  | cons c classes ih =>
    refine ⟨trivial, ?_, fun before => header?_header c before _, ?_, ih⟩
    · simp [ClassSource.segment, ClassSource.header, classWord]
    · rw [written_segments]
      exact quiet_linesText c.lines (head?_render classes)

theorem withBodies_cons (cap offset : Nat) (text : List Char) (first : Found Header)
    (rest : List (Found Header)) :
    withBodies cap offset text (first :: rest) =
      (first.value, (text.drop (first.start - offset)).take
        (match rest with
          | [] => cap
          | next :: _ => min (next.start - first.start) cap)) ::
      withBodies cap first.start (text.drop (first.start - offset)) rest := rfl

/-- The texts of the classes of a file with `passed` before them.  The text starts at `offset`. -/
theorem withBodies_located {cap : Nat} (offset : Nat) (passed : List Char)
    (classes : List ClassSource) (hcap : ∀ c ∈ classes, c.text.length ≤ cap) :
    withBodies cap offset (passed ++ render classes)
        (located [] (offset + passed.length) (classes.map ClassSource.segment)) =
      classes.map fun c => (c.headerValue, c.text) := by
  induction classes generalizing offset passed with
  | nil => rfl
  | cons c classes ih =>
    have htext := hcap c (by simp)
    have hlength : c.text.length = c.header.length + (linesText c.lines).length :=
      List.length_append
    have hrest := ih (offset + passed.length) c.text fun d hd => hcap d (by simp [hd])
    rw [hlength, ← Nat.add_assoc] at hrest
    rw [List.map_cons, located_cons, withBodies_cons, List.map_cons]
    simp only [ClassSource.segment, List.length_nil, Nat.add_zero, Nat.add_sub_cancel_left,
      List.drop_left, render, List.flatMap_cons] at hrest ⊢
    rw [hrest, List.cons.injEq, Prod.mk.injEq]
    refine ⟨⟨rfl, ?_⟩, rfl⟩
    cases classes with
    | nil => simpa [located] using List.take_of_length_le htext
    | cons d classes =>
      -- the next header starts where this class ends
      have hsize : offset + passed.length + c.header.length + (linesText c.lines).length -
          (offset + passed.length) = c.text.length := by
        omega
      rw [List.map_cons, located_cons]
      simp only [ClassSource.segment, List.length_nil, Nat.add_zero, hsize, Nat.min_eq_left htext,
        List.take_left]

theorem quiet_prelude {prelude rest : List Char} (hprelude : ¬ classWord <:+: prelude)
    (hrest : ∀ d ∈ rest.head?, d = 'c') : Quiet header? rest prelude :=
  quiet_of_not_infix header?_of_not_prefix hprelude fun d hd => by
    rw [hrest d hd]
    decide

theorem hasModelBase_baseText (kind : Kind) : hasModelBase (baseText kind) = true := by
  cases kind <;> rfl

/-- The classes of a file are those that are written in it, in order, and each tells what its own
assignments say.  A class that names no model is known by its own name in its module. -/
theorem parse_classes (order : DelegationOrder) {cap : Nat} (module file : String)
    {prelude : List Char} (hprelude : ¬ classWord <:+: prelude) (classes : List ClassSource)
    (hcap : ∀ c ∈ classes, c.text.length ≤ cap)
    (hshort : ∀ c ∈ classes, ∀ a ∈ c.assignments, a.assignment.Short) :
    (parse order cap module file (prelude ++ render classes)).classes =
        classes.map (fun c => c.entry order module file) ∧
      ∀ c ∈ classes, c.modelName? = none → c.inherits = [] →
        (c.entry order module file).identity = module ++ "." ++ String.ofList c.name := by
  constructor
  · have hbodies := withBodies_located 0 prelude classes hcap
    have hquiet : Quiet header? (written [] (classes.map ClassSource.segment)) prelude := by
      rw [written_segments]
      exact quiet_prelude hprelude (head?_render classes)
    have hfound := findAll_append_written hquiet (readable_segments classes)
    have hmodels : ∀ pair ∈ classes.map fun c => (c.headerValue, c.text),
        hasModelBase pair.1.bases = true := by
      intro pair hpair
      obtain ⟨c, -, rfl⟩ := List.mem_map.1 hpair
      exact hasModelBase_baseText c.kind
    rw [written_segments] at hfound
    rw [Nat.zero_add] at hbodies
    rw [parse, hfound, hbodies, List.filter_eq_self.2 hmodels]
    simp only [List.map_map, Function.comp_def]
    exact List.map_congr_left fun c hc =>
      c.parseClass_text order module file (hcap c hc) (hshort c hc)
  · intro c _ hname hinherits
    simp [Class.identity, ClassSource.entry, hname, hinherits]

/-- A file with two classes.  The first one extends and delegates, over several lines and with names
that look like a header; the second one says nothing. -/
def sampleClasses : List ClassSource := [
  { wordGap := .space
    wordGap_ne_nil := Pads.space_ne_nil
    name := "Sale2".toList
    name_ne_nil := List.cons_ne_nil _ _
    isPart_name := List.all_eq_true.1 rfl
    nameGap := .space
    kind := .transient
    baseGap := .none
    lines := [
      .assigned ⟨.space, .space, .space, .inherits (.of ['\n'] rfl)
        [⟨.double "res.partner".toList (by decide), .of [':'] rfl,
          .double "partner_id".toList (by decide), .comma⟩], .none⟩,
      .other ⟨"  total = _name".toList, by decide, by decide, by decide⟩,
      .assigned ⟨.tab, .none, .none, .inheritList (.square (.of ['\n', ' '] rfl)
        [(.single "class".toList (by decide), .of [',', '\n'] rfl),
          (.double "_name=x]".toList (by decide), .of ['\n'] rfl)]), .space⟩] },
  { wordGap := .space
    wordGap_ne_nil := Pads.space_ne_nil
    name := "_name".toList
    name_ne_nil := List.cons_ne_nil _ _
    isPart_name := List.all_eq_true.1 rfl
    nameGap := .none
    kind := .plain
    baseGap := .none
    lines := [.other ⟨[], by decide, by decide, by decide⟩] }]

theorem parse_classes_sample :
    (¬ classWord <:+: "models\n".toList ∧ (∀ c ∈ sampleClasses, c.text.length ≤ 200) ∧
        ∀ c ∈ sampleClasses, ∀ a ∈ c.assignments, a.assignment.Short) ∧
      (parse .valueFirst 200 "sale" "order" ("models\n".toList ++ render sampleClasses)).classes =
          [{ module := "sale", file := "order", className := "Sale2", model := "class",
             kind := .transient, inherits := ["class", "_name=x]"], delegates := ["partner_id"] },
           { module := "sale", file := "order", className := "_name", model := "",
             kind := .plain }] ∧
        ∀ c ∈ sampleClasses, c.modelName? = none → c.inherits = [] →
          (c.entry .valueFirst "sale" "order").identity =
            "sale" ++ "." ++ String.ofList c.name := by
  have hprelude : ¬ classWord <:+: "models\n".toList := by decide
  have hcap : ∀ c ∈ sampleClasses, c.text.length ≤ 200 := by decide +kernel
  have hshort : ∀ c ∈ sampleClasses, ∀ a ∈ c.assignments, a.assignment.Short := by decide +kernel
  exact ⟨⟨hprelude, hcap, hshort⟩,
    parse_classes .valueFirst "sale" "order" hprelude sampleClasses hcap hshort⟩

end AddonAtlas.Model
