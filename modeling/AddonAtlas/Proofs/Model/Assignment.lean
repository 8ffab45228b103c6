import AddonAtlas.Model.Class
import AddonAtlas.Proofs.Source.Listing

/-!
# Assignments in a class

The lines of a class are assignments of names to its three keys, and other lines.  A search for a
key looks behind every line end.  Inside of an assignment a line goes on with a gap, a quote or a
bracket, and another line does not start with an underscore, so the search stops at an assignment
only, and at none to another key (`eq_of_assignedAtLine?`).  It finds the first assignment to its
key (`findFirst_lines`).
-/

namespace AddonAtlas.Model

open Text Source

/-! ## Keys and values -/

/-- The text of a name. -/
def IsName (text : List Char) : Prop :=
  text ≠ [] ∧ ∀ c ∈ text, isBlank c = false ∧ isQuote c = false ∧ c ≠ '\\'

instance : DecidablePred IsName := fun text =>
  decidable_of_iff (text ≠ [] ∧
    text.all (fun c => isBlank c = false ∧ isQuote c = false ∧ c ≠ '\\') = true)
    (by simp only [IsName, List.all_eq_true, decide_eq_true_eq])

theorem newline_notMem_render (q : Quoted IsName) : '\n' ∉ q.render :=
  Literal.notMem_render (by decide) (by decide) fun h => absurd (q.holds.2 _ h).1 (by decide)

/-- The keys that a class assigns to. -/
inductive Key
  | name
  | inherit
  | inherits
  deriving DecidableEq

namespace Key

/-- The key as it is written. -/
def text : Key → List Char
  | name => ['_', 'n', 'a', 'm', 'e']
  | inherit => ['_', 'i', 'n', 'h', 'e', 'r', 'i', 't']
  | inherits => ['_', 'i', 'n', 'h', 'e', 'r', 'i', 't', 's']

theorem head?_text (k : Key) : k.text.head? = some '_' := by
  cases k <;> rfl

theorem isWord_text (k : Key) : ∀ c ∈ k.text, isWord c = true := by
  have h : k.text.all isWord = true := by cases k <;> rfl
  exact List.all_eq_true.1 h

theorem notMem_text (k : Key) {c : Char} (hc : isWord c = false) : c ∉ k.text := by
  intro hmem
  rw [k.isWord_text c hmem] at hc
  exact Bool.noConfusion hc

theorem isPad_text (k : Key) : ∀ c ∈ k.text, isPad c = false := by
  have h : k.text.all (!isPad ·) = true := by cases k <;> rfl
  simpa using h

theorem text_injective {j k : Key} (h : j.text = k.text) : j = k := by
  cases j <;> cases k <;> first | rfl | exact absurd h (by decide)

end Key

/-- An entry of a delegation: a model and its link field, in the one order or the other. -/
structure Pair where
  key : Quoted IsName
  colon : Gap
  value : Quoted IsName
  comma : Gap

/-- What a class assigns to one of its keys. -/
inductive Assignment
  | name (literal : Quoted IsName)
  | inherit (literal : Quoted IsName)
  | inheritList (listing : Listing IsName)
  | inherits (lead : Gap) (pairs : List Pair)

/-- A delegation as a list of its keys and values. -/
def delegation (lead : Gap) (pairs : List Pair) : Listing IsName where
  first := '{'
  last := '}'
  lead := lead
  items := pairs.flatMap fun pair => [(pair.key, pair.colon), (pair.value, pair.comma)]
  closes := rfl

namespace Assignment

/-- The key of an assignment. -/
def key : Assignment → Key
  | name _ => .name
  | inherit _ | inheritList _ => .inherit
  | inherits _ _ => .inherits

/-- The value of an assignment as it is written. -/
def value : Assignment → List Char
  | name literal | inherit literal => literal.render
  | inheritList listing => listing.render
  | inherits lead pairs => (delegation lead pairs).render

/-- The names that an assignment gives to the model or its parents. -/
def tokens : Assignment → List (List Char)
  | name literal | inherit literal => [literal.text]
  | inheritList listing => listing.tokens
  | inherits _ _ => []

/-- A list is not longer than what is read of it. -/
def Short : Assignment → Prop
  | inheritList listing => listing.inner.length ≤ inheritLimit
  | _ => True

instance : DecidablePred Short
  | inheritList listing => inferInstanceAs (Decidable (listing.inner.length ≤ inheritLimit))
  | name _ | inherit _ | inherits _ _ => inferInstanceAs (Decidable True)

/-- The models that a delegation names: its keys or its values. -/
def targets (order : DelegationOrder) : Assignment → List (List Char)
  | inherits _ pairs => pairs.map fun pair =>
    match order with
    | .keyFirst => pair.key.text
    | .valueFirst => pair.value.text
  | _ => []

theorem quiet_value {β : Type} {r : Option Char → List Char → Option β} (h : Overlooks r IsName)
    (a : Assignment) (rest : List Char) : Quiet r rest a.value := by
  cases a with
  | name literal | inherit literal => exact h.literal literal rest
  | inheritList listing => exact listing.quiet_render h rest
  | inherits lead pairs => exact (delegation lead pairs).quiet_render h rest

/-- A value starts with a quote or a bracket. -/
theorem exists_value_eq (a : Assignment) : ∃ c rest, a.value = c :: rest ∧ isPlain c = false := by
  cases a with
  | name literal | inherit literal =>
    exact ⟨literal.quote, _, rfl, by simp [isPlain, literal.isQuote_quote]⟩
  | inheritList listing =>
    exact ⟨listing.first, _, rfl, by simp [isPlain, listing.isBracket_first]⟩
  | inherits lead pairs => exact ⟨'{', _, rfl, rfl⟩

end Assignment

/-! ## Lines -/

/-- An assignment on a line of its own. -/
structure Assigned where
  margin : Pads
  beforeSign : Pads
  afterSign : Pads
  assignment : Assignment
  trailing : Pads

/-- The text of an assignment. -/
def Assigned.text (a : Assigned) : List Char :=
  a.margin.text ++ (a.assignment.key.text ++ (a.beforeSign.text ++
    '=' :: (a.afterSign.text ++ (a.assignment.value ++ a.trailing.text))))

/-- A line that neither assigns to a key nor starts a class. -/
structure OtherLine where
  text : List Char
  onOneLine : '\n' ∉ text
  no_key : (dropPads text).head? ≠ some '_'
  no_class : ¬ ['c', 'l', 'a', 's', 's'] <:+: text

/-- A line of a class. -/
inductive Line
  | assigned (a : Assigned)
  | other (line : OtherLine)

namespace Line

/-- A line with the line end before it. -/
def text : Line → List Char
  | assigned a => '\n' :: a.text
  | other line => '\n' :: line.text

/-- The assignment on a line. -/
def assigned? : Line → Option Assigned
  | assigned a => some a
  | other _ => none

end Line

/-- Some lines. -/
def linesText (lines : List Line) : List Char :=
  lines.flatMap Line.text

/-- The first assignment to a key. -/
def given? (lines : List Line) (key : Key) : Option Assigned :=
  (lines.filterMap Line.assigned?).find? (·.assignment.key = key)

theorem head?_linesText (lines : List Line) : ∀ c ∈ (linesText lines).head?, c = '\n' := by
  cases lines with
  | nil => simp [linesText]
  | cons line lines => cases line <;> simp [linesText, Line.text]

/-! ## The search for a key -/

/-- The recogniser of an assignment to this key whose value `g` accepts. -/
def atLine {β : Type} (key : Key) (g : List Char → Option β) (_ : Option Char) (text : List Char) :
    Option β :=
  (assignedAtLine? key.text text).bind g

section Search

variable {β : Type} {key : Key} {g : List Char → Option β} {before : Option Char}

theorem atLine_of_ne {c : Char} (hc : c ≠ '\n') (text : List Char) :
    atLine key g before (c :: text) = none := by
  have hend : after? ['\n'] (c :: text) = none := by
    rw [after?_eq_none_iff, List.cons_prefix_cons]
    exact fun h => hc h.1.symm
  simp [atLine, assignedAtLine?, hend]

theorem atLine_newline (text : List Char) :
    atLine key g before ('\n' :: text) = (assigned? key.text (dropPads text)).bind g := by
  have hend : after? ['\n'] ('\n' :: text) = some text := after?_append ['\n'] text
  simp [atLine, assignedAtLine?, hend]

theorem assigned?_of_head {text : List Char} (h : text.head? ≠ some '_') :
    assigned? key.text text = none := by
  have hkey : after? key.text text = none := by
    rw [after?_eq_none_iff]
    rintro ⟨rest, rfl⟩
    rw [List.head?_append, key.head?_text] at h
    exact h rfl
  simp [assigned?, hkey]

theorem quiet_atLine {rest gap : List Char} (h : '\n' ∉ gap) : Quiet (atLine key g) rest gap :=
  quiet_of_forall_mem fun _ hc _ text => atLine_of_ne (fun heq => h (heq ▸ hc)) text

theorem head?_dropPads_append {gap rest : List Char} {d : Char} (hd : isPad d = false) :
    ∀ c ∈ (dropPads (gap ++ d :: rest)).head?, c ∈ gap ∨ c = d := by
  intro c hc
  rw [dropPads, List.dropWhile_append] at hc
  split at hc
  · rw [List.dropWhile_cons_of_neg (by simp [hd])] at hc
    exact .inr (Option.some.inj hc).symm
  · next hne =>
    rw [List.head?_append_of_ne_nil _ (by simpa using hne)] at hc
    exact .inl ((List.dropWhile_suffix _).subset (List.mem_of_mem_head? hc))

/-- A line that goes on with a gap, a quote or a bracket is no assignment. -/
theorem overlooks_atLine : Overlooks (atLine key g) IsName where
  bracket hc text _ := by
    apply atLine_of_ne
    rintro rfl
    exact absurd hc (by decide)
  gap separators d rest hd := by
    have hpad := isPad_eq_false_of_isPlain_eq_false hd
    refine quiet_of_suffix fun c s hs before => ?_
    by_cases hc : c = '\n'
    · subst hc
      rw [atLine_newline, assigned?_of_head, Option.bind_none]
      intro hkey
      rcases head?_dropPads_append hpad _ hkey with hmem | rfl
      · exact separators.notMem (c := '_') (by decide) (hs.subset (List.mem_cons_of_mem _ hmem))
      · exact absurd hd (by decide)
    · exact atLine_of_ne hc _
  literal q _ := quiet_atLine (newline_notMem_render q)

theorem assignedAtLine?_eq_some_iff {k : Key} {text v : List Char} :
    assignedAtLine? k.text ('\n' :: text) = some v ↔
      ∃ found value, after? k.text (dropPads text) = some found ∧
        after? ['='] (dropPads found) = some value ∧ dropPads value = v := by
  have hend : after? ['\n'] ('\n' :: text) = some text := after?_append ['\n'] text
  simp [assignedAtLine?, hend, assigned?, Option.bind_eq_some_iff]

/-- Behind the margin of a line stands the key. -/
theorem dropPads_margin (margin : Pads) (k : Key) (rest : List Char) :
    dropPads (margin.text ++ (k.text ++ rest)) = k.text ++ rest := by
  refine dropWhile_append_run margin.pad fun c hc => ?_
  rw [List.head?_append, k.head?_text] at hc
  rw [← Option.some.inj hc]
  rfl

/-- An assignment to one key is none to another. -/
theorem eq_of_assignedAtLine? {j k : Key} {margin gap : Pads} {rest v : List Char}
    (h : assignedAtLine? k.text
      ('\n' :: (margin.text ++ (j.text ++ (gap.text ++ '=' :: rest)))) = some v) : k = j := by
  obtain ⟨found, value, hfound, hvalue, -⟩ := assignedAtLine?_eq_some_iff.1 h
  rw [dropPads_margin, ← List.append_assoc] at hfound
  have hsign (i : Key) : '=' ∉ i.text := i.notMem_text (by decide)
  have hfree : '=' ∉ j.text ++ gap.text := by
    simp [hsign j, gap.notMem (c := '=') (by decide)]
  obtain ⟨run, hrun, hpad⟩ := exists_run_of_after? (hsign k) hfree hfound hvalue
  have hlast (i : Key) : ∀ c ∈ i.text.getLast?, isPad c = false :=
    fun c hc => i.isPad_text c (List.mem_of_getLast? hc)
  exact (Key.text_injective (append_run_inj hrun (hlast j) (hlast k) gap.pad hpad)).symm

theorem assignedAtLine?_text (a : Assigned) (rest : List Char) :
    assignedAtLine? a.assignment.key.text ('\n' :: (a.text ++ rest)) =
      some (a.assignment.value ++ (a.trailing.text ++ rest)) := by
  obtain ⟨c, value, hvalue, hc⟩ := a.assignment.exists_value_eq
  have hpad := isPad_eq_false_of_isPlain_eq_false hc
  -- what is left of the line behind the key, and behind the equals sign
  set tail := a.afterSign.text ++ (a.assignment.value ++ (a.trailing.text ++ rest)) with htail
  refine assignedAtLine?_eq_some_iff.2 ⟨a.beforeSign.text ++ '=' :: tail, tail, ?_, ?_, ?_⟩
  · simp [Assigned.text, dropPads_margin, htail]
  · have hsign : dropPads (a.beforeSign.text ++ '=' :: tail) = '=' :: tail :=
      dropWhile_append_run a.beforeSign.pad (by simp [isPad])
    rw [hsign]
    exact after?_append ['='] tail
  · exact dropWhile_append_run a.afterSign.pad (by simp [hvalue, hpad])

theorem quiet_assigned {a : Assigned} (ha : a.assignment.key ≠ key) (rest : List Char) :
    Quiet (atLine key g) rest (Line.assigned a).text := by
  have hpads (p : Pads) : '\n' ∉ p.text := p.notMem (by decide)
  have hkey : '\n' ∉ a.assignment.key.text := a.assignment.key.notMem_text (by decide)
  constructor
  · intro before
    have hnone : ∀ v, assignedAtLine? key.text ('\n' :: (a.text ++ rest)) ≠ some v := by
      intro v hv
      simp only [Assigned.text, List.append_assoc, List.cons_append] at hv
      exact ha (eq_of_assignedAtLine? hv).symm
    rw [atLine, Option.eq_none_iff_forall_ne_some.2 hnone, Option.bind_none]
  · simp only [Assigned.text, quiet_append, Quiet]
    exact ⟨quiet_atLine (hpads _), quiet_atLine hkey, quiet_atLine (hpads _),
      fun _ => atLine_of_ne (by decide) _, quiet_atLine (hpads _),
      a.assignment.quiet_value overlooks_atLine _, quiet_atLine (hpads _)⟩

theorem quiet_other {line : OtherLine} {rest : List Char} (hrest : ∀ c ∈ rest.head?, c = '\n') :
    Quiet (atLine key g) rest (Line.other line).text := by
  refine ⟨fun before => ?_, quiet_atLine line.onOneLine⟩
  rw [atLine_newline, assigned?_of_head, Option.bind_none]
  intro hc
  rw [dropPads, List.dropWhile_append] at hc
  split at hc
  · -- a blank line, after which the next line or nothing follows
    cases rest with
    | nil => simp at hc
    | cons d rest =>
      obtain rfl := hrest d rfl
      rw [List.dropWhile_cons_of_neg (by decide)] at hc
      exact absurd (Option.some.inj hc) (by decide)
  · next hne =>
    rw [List.head?_append_of_ne_nil _ (by simpa using hne)] at hc
    exact line.no_key hc

/-- The search ends at the first assignment to the key, when its value is accepted. -/
theorem findFirst_lines
    (hg : ∀ a : Assignment, a.key = key → ∀ rest, (g (a.value ++ rest)).isSome)
    (lines : List Line) (before : Option Char) :
    ∃ rest, (∀ c ∈ rest.head?, c = '\n') ∧
      findFirst (atLine key g) before (linesText lines) =
        (given? lines key).bind fun a => g (a.assignment.value ++ (a.trailing.text ++ rest)) := by
  induction lines generalizing before with
  | nil => exact ⟨[], by simp, rfl⟩
  | cons line lines ih =>
    rw [linesText, List.flatMap_cons, ← linesText]
    cases line with
    | other line =>
      rw [findFirst_quiet (quiet_other (head?_linesText lines))]
      exact ih _
    | assigned a =>
      by_cases ha : a.assignment.key = key
      · refine ⟨linesText lines, head?_linesText lines, ?_⟩
        obtain ⟨found, hfound⟩ := Option.isSome_iff_exists.1
          (hg a.assignment ha (a.trailing.text ++ linesText lines))
        have hgiven : given? (.assigned a :: lines) key = some a := by
          simp [given?, Line.assigned?, ha]
        have hhere :
            atLine key g before ((Line.assigned a).text ++ linesText lines) = some found := by
          rw [atLine, Line.text, List.cons_append, ← ha, assignedAtLine?_text]
          exact hfound
        rw [findFirst_eq_some hhere, hgiven]
        exact hfound.symm
      · obtain ⟨rest, hrest, heq⟩ := ih (lastOf before (Line.assigned a).text)
        refine ⟨rest, hrest, ?_⟩
        have hgiven : given? (.assigned a :: lines) key = given? lines key := by
          simp [given?, Line.assigned?, ha]
        rw [findFirst_quiet (quiet_assigned ha _), heq, hgiven]

end Search

end AddonAtlas.Model
