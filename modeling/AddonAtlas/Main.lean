import AddonAtlas.Command.Basic
import AddonAtlas.Files.Difference
import AddonAtlas.Report.Time
import AddonAtlas.Yaml.Data
import Std.Time.DateTime.Timestamp

/-!
# The command line

Reads the part of the file system that a call is about, runs the call on it, and writes what the
call added. The time that a single stage takes is not measured.
-/

namespace AddonAtlas.CommandLine

open Command Files

/-- The entry of a name; `links` gathers the places to which links lead. -/
partial def readEntry (links : IO.Ref (List String)) (e : IO.FS.DirEntry) :
    IO (String × Entry) := do
  match (← e.path.symlinkMetadata).type with
  | .dir => return (e.fileName, .folder (← (← e.path.readDir).toList.mapM (readEntry links)))
  | .symlink =>
    try
      let target := (← IO.FS.realPath e.path).toString
      links.modify (target :: ·)
      return (e.fileName, .link target)
    catch _ => return (e.fileName, .link ".missing/.missing")
  | _ => return (e.fileName, .file (← IO.FS.readBinFile e.path))

/-- The tree with the entries at some places, and at those to which links lead from there. -/
partial def readPlaces (top : Entry) : List String → IO Entry
  | [] => return top
  | place :: rest => do
    let location := Path.namesOf place
    if (top.at? location).isSome then readPlaces top rest
    else
      let links ← IO.mkRef []
      let (_, entry) ← readEntry links ⟨place, "."⟩
      readPlaces (Entry.graft entry location top) ((← links.get) ++ rest)

/-- The real place of a path, if there is one. -/
def realPlace (path : Path) : IO (List String) := do
  try return [(← IO.FS.realPath path.text).toString]
  catch _ => return []

/-- The disk as far as some options are about it. -/
def readDisk (options : Options) : IO Disk := do
  let here := Path.namesOf (← IO.currentDir).toString
  let disk : Disk := { top := .folder [], here, home := (← IO.getEnv "HOME").getD "/" }
  let expanded (text : String) : Path := ((disk.expand (.ofText text)).toOption).getD (.ofText text)
  let workspace := expanded options.workspace
  let paths := workspace :: options.repositoryPath.toList.map fun text =>
    workspace.join (expanded text)
  return { disk with top := ← readPlaces disk.top (← paths.mapM realPlace).flatten }

/-- Writes an entry to its place. -/
def writeEntry : Location × Entry → IO Unit
  | (location, .file content) =>
    IO.FS.writeBinFile ("/" ++ "/".intercalate location) content
  | (location, _) => IO.FS.createDirAll ("/" ++ "/".intercalate location)

/-- The time in microseconds. -/
def microseconds : IO Nat := do
  return (← Std.Time.Timestamp.now).toNanosecondsSinceUnixEpoch.val.toNat / 1000

/-- Runs a call. -/
def run (texts : List String) : IO UInt32 := do
  let disk ← match call texts with
    | .ok (.run options) => readDisk options
    | _ => pure { top := .folder [] }
  let setting : Run.Setting :=
    { time := Report.timeText (← microseconds), elapsed := "0.000", load := Yaml.load }
  let (printed, after) := (execute setting texts).run disk
  (after.top.additions [] (some disk.top)).forM writeEntry
  (← IO.getStderr).putStr printed.err
  (← IO.getStdout).putStr printed.out
  return printed.code.toUInt32

end AddonAtlas.CommandLine

/-- Runs the command. -/
def main (args : List String) : IO UInt32 :=
  AddonAtlas.CommandLine.run args
