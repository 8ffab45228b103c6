import AddonAtlas.Files.Path
import AddonAtlas.Text.Utf8

/-!
# File trees

A file tree holds files, links and folders. The entries of a folder are in no particular order.
Places in it are given by the names that lead there from the top, without links on the way.
-/

namespace AddonAtlas.Files

/-- What stands at a place of a file tree. -/
inductive Entry
  | file (content : ByteArray)
  | link (target : String)
  | folder (entries : List (String × Entry))

instance : Inhabited Entry := ⟨.folder []⟩

/-- A place in a tree: the names that lead there from the top. -/
abbrev Location := List String

namespace Entry

/-- Is it a folder? -/
def isFolder : Entry → Bool
  | .folder _ => true
  | _ => false

/-- Is it a file? -/
def isFile : Entry → Bool
  | .file _ => true
  | _ => false

/-- The entry with a name. -/
def child? (name : String) : Entry → Option Entry
  | .folder entries => entries.lookup name
  | _ => none

/-- The entry at a place, where links are not followed. -/
def at? : Location → Entry → Option Entry
  | [], e => some e
  | name :: rest, e => (e.child? name).bind (at? rest)

/-- A list of named entries with one of them set. -/
def setNamed (name : String) (entry : Entry) (entries : List (String × Entry)) :
    List (String × Entry) :=
  if (entries.lookup name).isSome then
    entries.map fun (n, e) => if n == name then (n, entry) else (n, e)
  else entries ++ [(name, entry)]

/-- The tree with an entry put into the folder at a place. -/
def put (name : String) (entry : Entry) : Location → Entry → Entry
  | [], .folder entries => .folder (setNamed name entry entries)
  | next :: rest, .folder entries =>
    .folder (entries.map fun (n, e) => if n == next then (n, put name entry rest e) else (n, e))
  | _, e => e

mutual

/-- A bound on the names that the links of a tree can bring into a path. -/
def linkWeight : Entry → Nat
  | .file _ => 0
  | .link target => target.length + 3
  | .folder entries => linkWeights entries

/-- `linkWeight` of all entries. -/
def linkWeights : List (String × Entry) → Nat
  | [] => 0
  | (_, e) :: rest => linkWeight e + linkWeights rest

end

end Entry

/-- A disk: a tree, all of which the user may read, search and change, the place at which relative
paths start, and the home folder of the user. -/
structure Disk where
  top : Entry
  here : Location := []
  home : String := "/"
  /-- Is there memory to ask for so many characters of the file at a path? -/
  grants : Path → Nat → Bool := fun _ _ => true

/-- The names that a link brings into a path. A slash at the end asks for a folder. -/
def targetNames (target : String) : List String :=
  Path.namesOf target ++ (if target.endsWith "/" then ["."] else [])

end AddonAtlas.Files
