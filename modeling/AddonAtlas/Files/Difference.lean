import AddonAtlas.Files.Tree

/-!
# Differences of file trees

What has to be written to turn one tree into another that grew out of it, and how a tree is grown
from the parts of it that are known.
-/

namespace AddonAtlas.Files.Entry

mutual

/-- The folders and files that an entry adds to what stood at its place, from the top down. -/
def additions (place : Location) (before : Option Entry) : Entry → List (Location × Entry)
  | .file content =>
    match before with
    | some (.file old) => if content == old then [] else [(place, .file content)]
    | _ => [(place, .file content)]
  | .link _ => []
  | .folder entries =>
    (if before.any (·.isFolder) then [] else [(place, .folder [])]) ++
      additionsOfAll place before entries

/-- `additions` of all entries of a folder. -/
def additionsOfAll (place : Location) (before : Option Entry) :
    List (String × Entry) → List (Location × Entry)
  | [] => []
  | (name, entry) :: rest =>
    additions (place ++ [name]) (before.bind (·.child? name)) entry ++
      additionsOfAll place before rest

end

/-- The tree with an entry at a place, and with the folders that lead there. -/
def graft (entry : Entry) : Location → Entry → Entry
  | [], _ => entry
  | name :: rest, .folder entries =>
    let below := (entries.lookup name).getD (.folder [])
    .folder (setNamed name (graft entry rest below) entries)
  | name :: rest, _ => .folder [(name, graft entry rest (.folder []))]

end AddonAtlas.Files.Entry
