import AddonAtlas.Text.Quoted

/-!
# Paths

A path is a list of names, relative or from a root. Empty names and single dots are left out; double
dots stay, since what they mean depends on the tree.
-/

namespace AddonAtlas.Files

/-- A path. Its root is empty, a slash, or two slashes, which stand apart. -/
structure Path where
  root : String := ""
  parts : List String := []
  deriving DecidableEq, Repr

namespace Path

/-- The names in a text that is divided by slashes. -/
def namesOf (text : String) : List String :=
  ((text.toList.splitOn '/').map String.ofList).filter fun name => name != "" && name != "."

/-- The path that a text names. -/
def ofText (text : String) : Path where
  root :=
    match (text.toList.takeWhile (· == '/')).length with
    | 0 => ""
    | 2 => "//"
    | _ => "/"
  parts := namesOf text

/-- The path as a text. -/
def text (p : Path) : String :=
  if p.root == "" && p.parts.isEmpty then "." else p.root ++ "/".intercalate p.parts

/-- Does the path start at a root? -/
def isAbsolute (p : Path) : Bool :=
  p.root != ""

/-- A path seen from another one. -/
def join (p q : Path) : Path :=
  if q.isAbsolute then q else { p with parts := p.parts ++ q.parts }

/-- A path with one more name, or several divided by slashes. -/
def child (p : Path) (name : String) : Path :=
  p.join (ofText name)

/-- A path below another one. -/
def below (p : Path) (names : List String) : Path :=
  { p with parts := p.parts ++ names }

/-- The last name, empty if there is none. -/
def name (p : Path) : String :=
  p.parts.getLast?.getD ""

/-- The path without its last name. -/
def parent (p : Path) : Path :=
  { p with parts := p.parts.dropLast }

/-- The names that lead from one path to another below it. -/
def namesFrom? (start p : Path) : Option (List String) :=
  if start.root == p.root && start.parts.isPrefixOf p.parts then
    some (p.parts.drop start.parts.length)
  else none

/-- The path seen from another one above it, or else the path itself. -/
def relativeText (start p : Path) : String :=
  match namesFrom? start p with
  | some names => ({ parts := names } : Path).text
  | none => p.text

/-- The ending of a name from its last dot on; a dot at either end does not count. -/
def suffixOf (name : String) : String :=
  let (tail, rest) := name.toList.reverse.span (· != '.')
  match rest with
  | _ :: _ :: _ => if tail.isEmpty then "" else .ofList ('.' :: tail.reverse)
  | _ => ""

end Path

end AddonAtlas.Files
