import AddonAtlas.Source.Bracket
import AddonAtlas.Source.Literal
import AddonAtlas.Text.Order

/-!
# Named fields of source text

A list field is a list that is given to a name, either as a dictionary entry (`'name': [...]`) or
as a keyword (`name=[...]`). An assignment gives a value to a name at the head of a line.
-/

namespace AddonAtlas.Source

open Text

/-! ## List fields -/

/-- The text after a quoted name and its colon. -/
def entryHead? (name : List Char) : List Char → Option (List Char)
  | [] => none
  | first :: rest => do
    guard (isQuote first)
    match ← after? name rest with
    | [] => none
    | last :: rest =>
      guard (isQuote last)
      after? [':'] (dropBlanks rest)

/-- The text after a bare name and its equals sign. The name does not follow a word character or a
dot. -/
def keywordHead? (name : List Char) (before : Option Char) (text : List Char) :
    Option (List Char) := do
  guard (!before.any fun c => isWord c || c == '.')
  let rest ← after? name text
  after? ['='] (dropBlanks rest)

/-- The text between an opening bracket at the head and the first closing one. -/
def listText? (text : List Char) : Option (List Char) := do
  let rest ← after? ['['] (dropBlanks text)
  match rest.span (· != ']') with
  | (_, []) => none
  | (inner, _ :: _) => some inner

/-- The text of a list that is given to `name` right here. -/
def listFieldHere? (name : List Char) (before : Option Char) (text : List Char) :
    Option (List Char) :=
  match (entryHead? name text).bind listText? with
  | some inner => some inner
  | none => (keywordHead? name before text).bind listText?

/-- The distinct quoted entries, in increasing order, of the first list that is given to `name`. A
list ends at its first closing bracket. -/
def listField (name text : List Char) : List String :=
  match findFirst (listFieldHere? name) none text with
  | none => []
  | some inner => distinctSorted ((literals inner).map String.ofList)

/-! ## Assignments -/

/-- The text after `name`, an equals sign and the spaces and tabs around it. -/
def assigned? (name text : List Char) : Option (List Char) := do
  let rest ← after? name text
  let value ← after? ['='] (dropPads rest)
  return dropPads value

/-- The value of an assignment on this line. The name may have spaces and tabs before it; when it
starts with some itself, the longest margin that leaves the name counts. -/
def assignedOnLine? (name : List Char) : (text : List Char) → Option (List Char)
  | [] => assigned? name []
  | c :: rest =>
    if isPad c then
      match assignedOnLine? name rest with
      | some value => some value
      | none => assigned? name (c :: rest)
    else assigned? name (c :: rest)

/-- The value of an assignment on a line after this one. -/
def assignedBelow? (name : List Char) : (text : List Char) → Option (List Char)
  | [] => none
  | c :: rest =>
    if c == '\n' then
      match assignedOnLine? name rest with
      | some value => some value
      | none => assignedBelow? name rest
    else assignedBelow? name rest

/-- The text from the value of the first assignment to `name` on. -/
def assignment? (name text : List Char) : Option (List Char) :=
  match assignedOnLine? name text with
  | some value => some value
  | none => assignedBelow? name text

/-- The value of the first assignment to `name`: the inside of a bracket, at most `cap` characters
of it, or else the rest of the line. -/
def assignmentValue? (cap : Nat) (name text : List Char) : Option (List Char) :=
  (assignment? name text).map fun value =>
    match block? cap value with
    | some inner => inner
    | none => value.takeWhile (· != '\n')

end AddonAtlas.Source
