import AddonAtlas.Files.Change
import AddonAtlas.Run.Fault

/-!
# Loading settings

The settings of a run stand in a file of a fixed name. Where there is none, all settings have their
usual values.
-/

namespace AddonAtlas.Run

open Files

/-- Settings, with the folder they are for. -/
structure Loaded where
  root : Path
  settings : Settings := {}

/-- The settings file that a path asks for: in a folder, at the path itself, or beside it. -/
def settingsFile (disk : Disk) (path : Path) : Except PathFault Path := do
  let path ← disk.expand path
  disk.resolve <|
    if disk.hasFolder path then path.child Settings.fileName
    else if path.name != Settings.fileName then path.parent.child Settings.fileName
    else path

/-- The settings that a path asks for. -/
def loadSettings (load : Yaml.Loader) (disk : Disk) (path : Path) : Except Fault Loaded := do
  let file ← (settingsFile disk path).mapError .path
  let root ← (disk.resolve file.parent).mapError .path
  if disk.has file then
    let bytes ← (disk.readBytes file).mapError .system
    let text ← (Text.decode bytes).mapError .undecodable
    let settings ← (Settings.ofText load (Text.unifyLineEnds text)).mapError .settings
    return { root, settings }
  else return { root }

end AddonAtlas.Run
