import AddonAtlas.Proofs.Route.Argument
import AddonAtlas.Proofs.Text.Order

/-!
# Written decorators

`Arguments` are the arguments of a route decorator as they are written: paths, as one literal or a
list, or an expression, or nothing, and then keywords in any order.  A file is a list of
decorators with text between them.  Its routes are those of the decorators in order
(`parse_decorators`), each with what the keywords of its own decorator say.
-/

namespace AddonAtlas.Route

open Text Source

/-! ## Heads -/

/-- What the arguments of a decorator start with. -/
inductive Head
  | nothing
  | path (literal : Quoted IsPath)
  | paths (listing : Listing IsPath)
  | expression (text : List Char) (plain : ∀ c ∈ text, isPlain c = true ∧ c ≠ '=' ∧ c ≠ '@')

namespace Head

/-- The head as it is written. -/
def text : Head → List Char
  | nothing => []
  | path literal => literal.render
  | paths listing => listing.render
  | expression text _ => text

/-- The paths of a head. -/
def tokens : Head → List (List Char)
  | path literal => [literal.text]
  | paths listing => listing.tokens
  | _ => []

theorem isPath_of_mem_tokens {head : Head} {token : List Char} (h : token ∈ head.tokens) :
    IsPath token := by
  cases head with
  | path literal =>
    rw [List.mem_singleton.1 h]
    exact literal.holds
  | paths listing =>
    obtain ⟨item, -, rfl⟩ := List.mem_map.1 h
    exact item.1.holds
  | nothing | expression => exact absurd h List.not_mem_nil

theorem notMem_text {head : Head} {c : Char} (hc : c = '=' ∨ c = '@') : c ∉ head.text := by
  have htoken : ∀ token ∈ head.tokens, c ∉ token := by
    intro token htoken
    obtain ⟨-, hequals, hat⟩ := isPath_of_mem_tokens htoken
    rcases hc with rfl | rfl
    · exact hequals
    · exact hat
  obtain ⟨hplain, hseparator, hslash⟩ := classes_of_sign hc
  cases head with
  | nothing => exact List.not_mem_nil
  | path literal =>
    exact Literal.notMem_render (isQuote_of_isPlain hplain) hslash (htoken _ (by simp [tokens]))
  | paths listing => exact Listing.notMem_render hplain hseparator hslash htoken
  | expression text plain =>
    intro hmem
    exact hc.elim (plain c hmem).2.1 (plain c hmem).2.2

theorem balanced_text (head : Head) : Balanced head.text := by
  cases head with
  | nothing => exact .nil
  | path literal => exact .of_literal literal.toLiteral
  | paths listing => exact listing.balanced_render
  | expression text plain => exact .of_plain fun c hc => (plain c hc).1

theorem spells_text (head : Head) : Spells head.text head.tokens := by
  cases head with
  | nothing => exact spells_nil
  | path literal => exact literal.spells_render
  | paths listing => exact listing.spells_render
  | expression text plain => exact spells_of_quoteFree fun c hc => isQuote_of_isPlain (plain c hc).1

end Head

/-! ## Values of keywords -/

/-- The text, when it starts with the bracket of a list or a tuple. -/
def bracketedValue (text : List Char) : Option (List Char) := do
  guard (text.head?.any fun c => c == '[' || c == '(')
  return text

theorem quotedValue_value {k : Keyword} (hk : k.name ≠ .methods) (rest : List Char) :
    quotedValue (k.value ++ rest) = k.tokens.head?.map String.ofList ∧ k.tokens ≠ [] := by
  have hliteral (value : Quoted IsValue) :
      quotedValue (value.render ++ rest) = some (.ofList value.text) := by
    obtain ⟨hne, -, hclean⟩ := value.holds
    exact Literal.quotedValue_render hne (fun c hc => ⟨(hclean c hc).1, (hclean c hc).2.1⟩) rest
  cases k with
  | type value | auth value => exact ⟨hliteral value, List.cons_ne_nil _ _⟩
  | methods values _ => exact absurd rfl hk

theorem bracketedValue_render {values : Listing IsValue} (h : values.first ≠ '{')
    (rest : List Char) : bracketedValue (values.render ++ rest) = some (values.render ++ rest) := by
  rcases closer?_eq_some_iff.1 values.closes with ⟨hfirst, -⟩ | ⟨hfirst, -⟩ | ⟨hfirst, -⟩
  · simp [bracketedValue, Listing.render, hfirst]
  · simp [bracketedValue, Listing.render, hfirst]
  · exact absurd hfirst h

/-! ## Arguments -/

/-- The arguments of a decorator.  No keyword runs into a word before it. -/
structure Arguments where
  lead : Gap
  head : Head
  keywords : List Argument
  tail : Gap
  apart : head.text.getLast?.any isWord = true → ∀ k ∈ keywords.head?, k.gap.text ≠ []

namespace Arguments

/-- The arguments as they are written. -/
def render (a : Arguments) : List Char :=
  chain (a.lead.text ++ a.head.text) a.tail.text a.keywords

/-- The values of the first keyword with this name. -/
def values (a : Arguments) (name : KeywordName) : List (List Char) :=
  ((a.keywords.find? (·.keyword.name = name)).map (·.keyword.tokens)).getD []

/-- The value of a keyword with one value, or `default`. -/
def valueD (a : Arguments) (name : KeywordName) (default : String) : String :=
  ((a.values name).head?.map String.ofList).getD default

/-- The paths, or what stands for them. -/
def routes (a : Arguments) : List String :=
  if a.head.tokens = [] then ["[dynamic]"] else a.head.tokens.map String.ofList

/-- The distinct methods in capitals, in increasing order. -/
def methods (a : Arguments) : List String :=
  ((a.values .methods).map fun m => String.ofList (upper m)).toFinset.sort (· ≤ ·)

/-- The routes that the arguments declare. -/
def entries (a : Arguments) (module file : String) : List Entry :=
  a.routes.map fun route => {
    module, file, route
    auth := a.valueD .auth "user"
    type := a.valueD .type "http"
    methods := a.methods }

theorem balanced_render (a : Arguments) : Balanced a.render :=
  balanced_chain (a.lead.balanced.append a.head.balanced_text) a.tail.balanced a.keywords

theorem spells_render (a : Arguments) :
    Spells a.render (a.head.tokens ++ a.keywords.flatMap (·.keyword.tokens)) :=
  spells_chain (a.lead.spells.append a.head.spells_text) a.tail.spells a.keywords

theorem notMem_render (a : Arguments) : '@' ∉ a.render := by
  refine notMem_chain ?_ (a.tail.notMem (by decide)) a.keywords
  simp [a.lead.notMem (c := '@') (by decide), Head.notMem_text]

/-- The literals of the head are the only ones that start with a slash. -/
theorem paths_render (a : Arguments) : Route.paths a.render = a.head.tokens.map String.ofList := by
  have hpaths : ∀ token ∈ a.head.tokens, (token.head? == some '/') = true := fun token htoken => by
    simp [(Head.isPath_of_mem_tokens htoken).1]
  have hvalues : ∀ token ∈ a.keywords.flatMap (·.keyword.tokens),
      ¬ (token.head? == some '/') = true := by
    intro token htoken
    obtain ⟨k, -, hk⟩ := List.mem_flatMap.1 htoken
    simpa using (Keyword.isValue_of_mem_tokens hk).2.1
  rw [Route.paths, a.spells_render.literals_eq, List.filter_append, List.filter_eq_self.2 hpaths,
    List.filter_eq_nil_iff.2 hvalues, List.append_nil]

/-- The search for a name in the arguments ends at the first keyword with it. -/
theorem findFirst_render (a : Arguments) {β : Type} {name : KeywordName}
    {g : List Char → Option β}
    (hg : ∀ k : Keyword, k.name = name → ∀ rest, (g (k.value ++ rest)).isSome) :
    ∃ rest, findFirst (seeks name g) none a.render =
      (a.keywords.find? (·.keyword.name = name)).bind fun k => g (k.keyword.value ++ rest) := by
  refine findFirst_chain (a.tail.notMem (by decide)) hg a.keywords ?_ ?_ rfl
  · simp [a.lead.notMem (c := '=') (by decide), Head.notMem_text]
  · intro k hk
    cases hword : a.head.text.getLast?.any isWord with
    | false =>
      exact any_getLast?_append (any_getLast?_append a.lead.any_getLast? hword) k.gap.any_getLast?
    | true =>
      rw [List.getLast?_append_of_ne_nil _ (a.apart hword k hk)]
      exact k.gap.any_getLast?

/-- The value of a keyword with one value is found. -/
theorem quotedKeyword?_render (a : Arguments) (name : KeywordName) (hname : name ≠ .methods)
    {word : String} (hword : word.toList = name.text) :
    quotedKeyword? word a.render = (a.values name).head?.map String.ofList := by
  have hg (k : Keyword) (hk : k.name = name) (rest : List Char) :
      quotedValue (k.value ++ rest) = k.tokens.head?.map String.ofList ∧ k.tokens ≠ [] :=
    quotedValue_value (by rwa [hk]) rest
  have hsome (k : Keyword) (hk : k.name = name) (rest : List Char) :
      (quotedValue (k.value ++ rest)).isSome := by
    obtain ⟨hvalue, hne⟩ := hg k hk rest
    simpa [hvalue] using hne
  obtain ⟨rest, hrest⟩ := a.findFirst_render hsome
  rw [quotedKeyword?, hword]
  refine Eq.trans hrest ?_
  cases hfind : a.keywords.find? (·.keyword.name = name) with
  | none => simp [values, hfind]
  | some k =>
    have hk : k.keyword.name = name := by simpa using List.find?_some hfind
    simp [values, hfind, (hg k.keyword hk rest).1]

/-- The methods are those of the first keyword for them. -/
theorem methods_render (a : Arguments) : Route.methods a.render = a.methods := by
  have hsome (k : Keyword) (hk : k.name = .methods) (rest : List Char) :
      (bracketedValue (k.value ++ rest)).isSome := by
    obtain ⟨values, hbrace, rfl⟩ := Keyword.exists_of_name_eq_methods hk
    rw [Keyword.value, bracketedValue_render hbrace]
    rfl
  obtain ⟨rest, hrest⟩ := a.findFirst_render hsome
  have hsearch : methodsText? a.render = _ := hrest
  rw [Route.methods, hsearch]
  cases hfind : a.keywords.find? (·.keyword.name = .methods) with
  | none => simp [methods, values, hfind]
  | some k =>
    obtain ⟨values, hbrace, hk⟩ :=
      Keyword.exists_of_name_eq_methods (k := k.keyword) (by simpa using List.find?_some hfind)
    have hlength := length_value_le (List.mem_of_find?_eq_some hfind)
      (a.lead.text ++ a.head.text) a.tail.text
    have hcap : values.inner.length ≤ a.render.length := by
      rw [hk, Keyword.value, Listing.render, List.length_cons, List.length_append] at hlength
      exact (by omega : values.inner.length ≤ _).trans hlength
    have hfull : ∀ token ∈ values.tokens, (!token.isEmpty) = true := by
      intro token htoken
      obtain ⟨item, -, rfl⟩ := List.mem_map.1 htoken
      simpa using item.1.holds.1
    rw [Option.bind_some, hk, Keyword.value, bracketedValue_render hbrace]
    simp only [values.block?_render hcap, Option.getD_some, values.spells_inner.literals_eq,
      List.filter_eq_self.2 hfull, distinctSorted_eq_sort]
    simp [methods, Arguments.values, hfind, hk, Keyword.tokens]

theorem ofBlock_render (a : Arguments) (module file : String) :
    ofBlock module file a.render = a.entries module file := by
  rw [ofBlock, a.paths_render, a.methods_render,
    a.quotedKeyword?_render .auth (by decide) rfl,
    a.quotedKeyword?_render .type (by decide) rfl, entries, routes]
  cases a.head.tokens <;> rfl

end Arguments

/-! ## Decorators -/

/-- What a route decorator starts with. -/
def marker : List Char := ['@', 'h', 't', 't', 'p', '.', 'r', 'o', 'u', 't', 'e']

theorem toList_marker : "@http.route".toList = marker := rfl

/-- A decorator and the text before it, in which no decorator starts. -/
structure Decorator where
  before : List Char
  unmarked : ¬ marker <:+: before
  gap : Blanks
  arguments : Arguments

/-- The bracket of a decorator with its arguments. -/
def Decorator.block (d : Decorator) : List Char :=
  '(' :: (d.arguments.render ++ [')'])

/-- A file of decorators with the text `last` after them. -/
def render (last : List Char) : List Decorator → List Char
  | [] => last
  | d :: decorators => d.before ++ (marker ++ (d.gap.text ++ (d.block ++ render last decorators)))

/-- A decorator as a segment of a file. -/
def Decorator.segment (d : Decorator) : Segment Unit :=
  ⟨d.before, marker ++ d.gap.text, (), d.block⟩

theorem written_segments (last : List Char) (decorators : List Decorator) :
    written last (decorators.map Decorator.segment) = render last decorators := by
  induction decorators with
  | nil => rfl
  | cons d decorators ih => simp [Decorator.segment, written, render, ih]

theorem decorator?_eq_none {before : Option Char} {text : List Char} (h : ¬ marker <+: text) :
    decorator? before text = none := by
  simp [decorator?, toList_marker, after?_eq_none_iff.2 h]

theorem decorator?_marker (before : Option Char) (gap : Blanks) (rest : List Char) :
    decorator? before (marker ++ gap.text ++ '(' :: rest) =
      some ((), (marker ++ gap.text).length) := by
  have hstop : ∀ c ∈ ('(' :: rest).head?, isBlank c = false := by
    simp only [List.head?_cons, Option.mem_some_iff, forall_eq']
    decide
  have htake := takeWhile_append_run gap.blank hstop
  have hdrop := dropWhile_append_run gap.blank hstop
  have hlength : marker.length = 11 := rfl
  simp [decorator?, toList_marker, htake, hdrop, hlength]

/-- No decorator starts in a text without the marker, whether it is the last one or the marker of
the next decorator follows. -/
theorem quiet_unmarked {before rest : List Char} (hbefore : ¬ marker <:+: before)
    (hrest : ∀ c ∈ rest.head?, c = '@') : Quiet decorator? rest before := by
  refine quiet_of_not_infix (fun _ _ => decorator?_eq_none) hbefore fun c hc => ?_
  rw [hrest c hc]
  decide

theorem Decorator.quiet_block (d : Decorator) (rest : List Char) :
    Quiet decorator? rest d.block := by
  have hat : '@' ∉ d.block := by simp [block, d.arguments.notMem_render]
  refine quiet_of_forall_mem fun c hc last text => decorator?_eq_none ?_
  rw [marker, List.cons_prefix_cons]
  rintro ⟨rfl, -⟩
  exact hat hc

theorem readable_segments {last : List Char} (hlast : ¬ marker <:+: last)
    (decorators : List Decorator) :
    Readable decorator? last (decorators.map Decorator.segment) := by
  induction decorators with
  | nil => exact quiet_unmarked hlast (by simp)
  | cons d decorators ih =>
    exact ⟨quiet_unmarked d.unmarked (by simp [Decorator.segment, marker]),
      by simp [Decorator.segment, marker], fun before => decorator?_marker before d.gap _,
      d.quiet_block _, ih⟩

/-- The decorators that are found declare the routes of the written ones. -/
theorem flatMap_located {cap : Nat} (module file : String) (last : List Char) (offset : Nat)
    (decorators : List Decorator) (hcap : ∀ d ∈ decorators, d.arguments.render.length ≤ cap) :
    ((located last offset (decorators.map Decorator.segment)).flatMap
        fun found => ofBlock module file ((block? cap found.rest).getD [])) =
      decorators.flatMap fun d => d.arguments.entries module file := by
  induction decorators generalizing offset with
  | nil => rfl
  | cons d decorators ih =>
    have hblock (rest : List Char) : block? cap (d.block ++ rest) = some d.arguments.render := by
      rw [Decorator.block, List.cons_append, List.append_assoc, List.singleton_append]
      exact block?_balanced rfl d.arguments.balanced_render (hcap d (by simp)) rest
    rw [List.map_cons, located_cons, List.flatMap_cons, List.flatMap_cons, Decorator.segment,
      hblock, ih _ fun d' hd' => hcap d' (by simp [hd']), Option.getD_some,
      Arguments.ofBlock_render]

/-- The routes of a file are those of its decorators, in order. -/
theorem parse_decorators (module file : String) {cap : Nat} {last : List Char}
    (hlast : ¬ marker <:+: last) (decorators : List Decorator)
    (hcap : ∀ d ∈ decorators, d.arguments.render.length ≤ cap) :
    parse module file cap (render last decorators) =
      decorators.flatMap fun d => d.arguments.entries module file := by
  rw [parse, ← written_segments, findAll_written (readable_segments hlast decorators),
    flatMap_located module file last 0 decorators hcap]

/-- A file with two decorators, whose texts hold the signs that are looked for. -/
def sampleDecorators : List Decorator := [
  { before := "@http ".toList
    unmarked := by decide
    gap := .space
    arguments := {
      lead := .none
      head := .paths (.square .none [(.single "/a)\"'".toList (by decide), .comma),
        (.double "/auth".toList (by decide), .none)])
      keywords := [
        ⟨.of [',', ' '] rfl, .none, .none, .methods ⟨'(', ')', .none,
          [(.single "post".toList (by decide), .comma), (.single "GET".toList (by decide), .comma),
            (.single "POST".toList (by decide), .none)], rfl⟩ (by decide)⟩,
        ⟨.comma, .space, .space, .auth (.double "public".toList (by decide))⟩]
      tail := .none
      apart := fun h => absurd h (by decide) } },
  { before := "def type(self):".toList
    unmarked := by decide
    gap := .none
    arguments := {
      lead := .none
      head := .expression "PATHS".toList (by simp [isPlain, isQuote, isBracket])
      keywords := [⟨.comma, .none, .none, .type (.single "json".toList (by decide))⟩]
      tail := .none
      apart := by simp [Gap.comma, Gap.of] } }]

theorem parse_decorators_sample :
    (¬ marker <:+: "# @http".toList ∧ ∀ d ∈ sampleDecorators, d.arguments.render.length ≤ 70) ∧
      parse "sale" "main" 70 (render "# @http".toList sampleDecorators) =
        sampleDecorators.flatMap fun d => d.arguments.entries "sale" "main" := by
  have hlast : ¬ marker <:+: "# @http".toList := by decide
  have hcap : ∀ d ∈ sampleDecorators, d.arguments.render.length ≤ 70 := by decide
  exact ⟨⟨hlast, hcap⟩, parse_decorators "sale" "main" hlast sampleDecorators hcap⟩

end AddonAtlas.Route
