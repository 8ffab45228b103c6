import AddonAtlas.Files.Lookup

/-!
# Reading and changing files

Reading gives text, with line ends unified. Changing a disk makes folders, with those above them,
and writes files, through links where they lead.
-/

namespace AddonAtlas.Files

open Text

namespace Disk

/-- The bytes of a file. -/
def readBytes (disk : Disk) (path : Path) : Except SystemFault (List UInt8) :=
  match disk.find path with
  | .ok (_, .file content) => .ok content.toList
  | .ok _ => .error ⟨.isAFolder, path.text⟩
  | .error r => .error ⟨r, path.text⟩

/-- The text of a file, with replacement characters where its bytes encode none. -/
def readLossy (disk : Disk) (path : Path) : Except SystemFault (List Char) :=
  return unifyLineEnds (decodeLossy (← disk.readBytes path))

/-- The disk with an entry put into the folder at a place. -/
def put (disk : Disk) (folder : Location) (name : String) (entry : Entry) : Disk :=
  { disk with top := Entry.put name entry folder disk.top }

/-- Makes one folder. -/
def makeFolder (disk : Disk) (path : Path) : Except Refusal Disk :=
  match disk.spot path false with
  | .error r => .error r
  | .ok (.taken _ _) => .error .alreadyThere
  | .ok (.free folder name) => .ok (disk.put folder name (.folder []))

/-- Writes a file, in place of what it held. -/
def writeFile (disk : Disk) (path : Path) (content : ByteArray) : Except SystemFault Disk :=
  match disk.spot path with
  | .error r => .error ⟨r, path.text⟩
  | .ok (.free folder name) => .ok (disk.put folder name (.file content))
  | .ok (.taken location entry) =>
    if entry.isFolder then .error ⟨.isAFolder, path.text⟩
    else .ok (disk.put location.dropLast (location.getLast?.getD "") (.file content))

end Disk

/-- A step that changes a disk; what it did before it failed stays. -/
abbrev Change := ExceptT SystemFault (StateM Disk)

namespace Change

/-- Makes one folder, which may be there already. -/
def folder (path : Path) : Change Unit := do
  match (← get).makeFolder path with
  | .ok disk => set disk
  | .error r => unless (← get).hasFolder path do throw ⟨r, path.text⟩

/-- Makes a folder with those above it, which may be there already. Of the names of the path,
`size` are still to be looked at. -/
def foldersFrom : (size : Nat) → Path → Change Unit
  | 0, path => folder path
  | size + 1, path => do
    match (← get).makeFolder path with
    | .error .notFound =>
      if path.parts.isEmpty then throw ⟨.notFound, path.text⟩
      foldersFrom size path.parent
      folder path
    | _ => folder path

/-- Makes a folder with those above it, which may be there already. -/
def folders (path : Path) : Change Unit :=
  foldersFrom path.parts.length path

/-- Writes a file. -/
def file (path : Path) (content : ByteArray) : Change Unit := do
  match (← get).writeFile path content with
  | .ok disk => set disk
  | .error fault => throw fault

end Change

end AddonAtlas.Files
