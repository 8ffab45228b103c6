import AddonAtlas.Files.Lookup

/-!
# Listing files

`Disk.listFiles` lists the files below a folder: those of a folder by name, then those of its
subfolders by name. A link to a folder is neither listed nor entered; any other link is a file.
-/

namespace AddonAtlas.Files

/-- What a walk finds under one name: a file, or a folder with the files in it. -/
structure Finding where
  name : String
  isFolder : Bool
  files : List (List String)

/-- The files of a folder from its findings: its own first, then those of its subfolders, both by
name. -/
def inOrder (findings : List Finding) : List (List String) :=
  let sorted := findings.mergeSort fun a b => decide (a.name ≤ b.name)
  (sorted.filter (!·.isFolder)).flatMap (·.files) ++ (sorted.filter (·.isFolder)).flatMap (·.files)

mutual

/-- What a walk finds at an entry with a name. `skips` tells which folders are left out, and
`leadsToFolder` whether the link at some names, from the start of the walk, leads to a folder. -/
def findingAt (skips : String → Bool) (leadsToFolder : List String → Bool) (before : List String)
    (name : String) : Entry → Finding
  | .file _ => ⟨name, false, [before ++ [name]]⟩
  | .link _ =>
    if leadsToFolder (before ++ [name]) then ⟨name, true, []⟩ else ⟨name, false, [before ++ [name]]⟩
  | .folder entries =>
    if skips name then ⟨name, true, []⟩
    else ⟨name, true, inOrder (findings skips leadsToFolder (before ++ [name]) entries)⟩

/-- What a walk finds at the entries of a folder. -/
def findings (skips : String → Bool) (leadsToFolder : List String → Bool) (before : List String) :
    List (String × Entry) → List Finding
  | [] => []
  | (name, entry) :: rest =>
    findingAt skips leadsToFolder before name entry :: findings skips leadsToFolder before rest

end

/-- The folders that are never entered. -/
def alwaysSkipped : List String := [".git", ".hg", ".svn", "node_modules"]

/-- The folders that are not entered, where nothing else is asked for. -/
def usuallySkipped : List String := [
  ".git", ".hg", ".svn", ".venv", ".tox", "node_modules", "__pycache__", ".pytest_cache",
  ".mypy_cache", ".idea"]

/-- Is a folder with this name left out? -/
def skipsFolder (names : List String) (name : String) : Bool :=
  alwaysSkipped.contains name || names.contains name

/-- Goes through paths and adds those that are wanted to the ones that were found before, until there
are as many as the limit says. Tells also whether it got there. -/
def takeWanted (wanted : Path → Bool) (limit : Int) (found : Array Path) :
    List Path → Array Path × Bool
  | [] => (found, false)
  | path :: rest =>
    if wanted path then
      let found := found.push path
      if limit ≤ found.size then (found, true) else takeWanted wanted limit found rest
    else takeWanted wanted limit found rest

namespace Disk

/-- Does the link at a place lead to a folder? -/
def leadsToFolder (disk : Disk) (location : Location) : Bool :=
  disk.hasFolder { root := "/", parts := location }

/-- The names, from a folder on, of all files below it. -/
def filesBelow (disk : Disk) (skips : String → Bool) (root : Path) : List (List String) :=
  match disk.find root with
  | .ok (location, .folder entries) =>
    inOrder (findings skips (fun names => disk.leadsToFolder (location ++ names)) [] entries)
  | _ => []

/-- The paths of the files below a folder that are wanted, at most `limit` of them, and whether the
limit is reached. -/
def takeFiles (disk : Disk) (skips : String → Bool) (wanted : Path → Bool) (limit : Int)
    (root : Path) : Array Path × Bool :=
  if limit ≤ 0 then (#[], false)
  else takeWanted wanted limit #[] ((disk.filesBelow skips root).map root.below)

/-- The paths of the files below a folder that are wanted, at most `limit` of them. -/
def listFiles (disk : Disk) (skips : String → Bool) (wanted : Path → Bool) (limit : Int)
    (root : Path) : List Path :=
  (disk.takeFiles skips wanted limit root).1.toList

end Disk

end AddonAtlas.Files
