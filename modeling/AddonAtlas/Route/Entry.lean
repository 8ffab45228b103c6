import AddonAtlas.Document.Value
import AddonAtlas.Source.Bracket
import AddonAtlas.Source.Literal
import AddonAtlas.Text.Case
import AddonAtlas.Text.Order

/-!
# Routes

The addresses that a module's controllers answer. A route is declared by a decorator whose
arguments hold the paths, who may call it, its type and its methods.
-/

namespace AddonAtlas.Route

open Text Document Source

/-- A route. -/
structure Entry where
  module : String
  file : String
  route : String
  auth : String := "user"
  type : String := "http"
  methods : List String := []
  deriving DecidableEq, Repr

/-- May everybody call the route? -/
def Entry.isPublic (e : Entry) : Bool :=
  e.auth == "public"

/-- The route as it is reported. -/
def Entry.value (e : Entry) : Value :=
  .object [("module", .text e.module), ("file", .text e.file), ("route", .text e.route),
    ("auth", .text e.auth), ("type", .text e.type), ("methods", .texts e.methods)]

/-- What stands for a path that is not written as a literal. -/
def dynamicRoute : String := "[dynamic]"

/-- The decorator of a route, up to its opening parenthesis, which has to follow. -/
def decorator? : Recogniser Unit := fun _ text => do
  let rest ← after? "@http.route".toList text
  let (gap, rest) := rest.span isBlank
  guard (rest.head? == some '(')
  return ((), 11 + gap.length)

/-- The text after a keyword, which starts a word, and its equals sign. -/
def keyword? (name : List Char) (before : Option Char) (text : List Char) :
    Option (List Char) := do
  guard (!before.any isWord)
  let rest ← after? name text
  let value ← after? ['='] (dropBlanks rest)
  return dropBlanks value

/-- The quoted value of the first keyword with this name that has one. -/
def quotedKeyword? (name : String) (block : List Char) : Option String :=
  findFirst (fun before text => do
    let value ← keyword? name.toList before text
    let (inner, _) ← betweenQuotes? value
    return .ofList inner) none block

/-- The text from the bracket of the first list of methods on. -/
def methodsText? (block : List Char) : Option (List Char) :=
  findFirst (fun before text => do
    let value ← keyword? "methods".toList before text
    guard (value.head?.any fun c => c == '[' || c == '(')
    return value) none block

/-- The distinct methods of a decorator in capitals, in increasing order. -/
def methods (block : List Char) : List String :=
  match methodsText? block with
  | none => []
  | some value =>
    let inner := (block? block.length value).getD []
    distinctSorted (((literals inner).filter (!·.isEmpty)).map fun m => .ofList (upper m))

/-- The paths of a decorator: its literals that start with a slash. -/
def paths (block : List Char) : List String :=
  ((literals block).filter (·.head? == some '/')).map String.ofList

/-- The routes that a decorator with these arguments declares. -/
def ofBlock (module file : String) (block : List Char) : List Entry :=
  let entry (route : String) : Entry := {
    module, file, route
    auth := (quotedKeyword? "auth" block).getD "user"
    type := (quotedKeyword? "type" block).getD "http"
    methods := methods block }
  match paths block with
  | [] => [entry dynamicRoute]
  | paths => paths.map entry

/-- The most characters of a decorator's arguments, where nothing else is asked for. -/
def blockLimit : Nat := 4000

/-- The routes of a file, decorator by decorator. -/
def parse (module file : String) (cap : Nat) (content : List Char) : List Entry :=
  (findAll decorator? content).flatMap fun found =>
    ofBlock module file ((block? cap found.rest).getD [])

end AddonAtlas.Route
