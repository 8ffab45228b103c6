import AddonAtlas.Addon.Module
import AddonAtlas.Run.Scan
import AddonAtlas.Source.Field

/-!
# Collecting modules

Finds the repository of a workspace, the manifests in it, and what the manifests say.
-/

namespace AddonAtlas.Addon

open Files Run Settings

/-- What a walk through a repository looks for, and how far it goes. -/
structure Scope where
  manifestName : String := "__manifest__.py"
  skippedFolders : List String := usuallySkipped
  /-- The most manifests. -/
  manifests : Nat := 20000
  /-- The most files of one folder of a module. -/
  files : Nat := 10000

/-- Is a folder left out? -/
def Scope.skips (scope : Scope) (name : String) : Bool :=
  skipsFolder scope.skippedFolders name

/-- The repository to scan: the one at an explicit path, or else the one with this name in the
folder `repositories`, or else the first one there. -/
def repositoryOf (workspace : Path) (name : String) (explicit : Option String) : Scan Path := do
  let disk ← read
  unless disk.has workspace do throw (.input (.workspaceMissing workspace.text))
  match explicit.filter (· != "") with
  | some text =>
    let path := workspace.join (← Scan.lift .path (disk.expand (.ofText text)))
    unless disk.has path do throw (.input (.repositoryMissing path.text))
    unless disk.hasFolder path do throw (.input (.repositoryNotAFolder path.text))
    Scan.lift .path (disk.resolve path)
  | none =>
    let repositories := workspace.child "repositories"
    match disk.find? repositories with
    | some (.folder entries) =>
      let preferred := repositories.child name
      if disk.hasFolder preferred then Scan.lift .path (disk.resolve preferred)
      else
        let names := (entries.map (·.1)).filter fun n => disk.hasFolder (repositories.below [n])
        match names.mergeSort fun a b => decide (a ≤ b) with
        | [] => throw (.input (.noRepositories repositories.text))
        | first :: _ =>
          Scan.say .info "scanner" ("Repository " ++ name ++ " not found; using " ++ first)
          Scan.lift .path (disk.resolve (repositories.below [first]))
    | _ => throw (.input (.repositoriesMissing repositories.text))

/-- The manifests of a repository. -/
def manifests (scope : Scope) (root : Path) : Scan (List Path) := do
  let disk ← read
  unless disk.has root do throw (.input (.repositoryMissing root.text))
  unless disk.hasFolder root do throw (.input (.repositoryNotAFolder root.text))
  let found ← Scan.listFiles scope.skips (·.name == scope.manifestName) scope.manifests root
  Scan.say .debug "scanner"
    ("Found " ++ toString found.length ++ " manifests under " ++ root.text)
  return found

/-- The extension of a file in small letters, or what stands for none. -/
def extensionOf (path : Path) : String :=
  match Text.lowerString (Path.suffixOf path.name) with
  | "" => "[no_ext]"
  | ext => ext

/-- The number of files of a sample, and their most frequent extensions. -/
def extensionStats (limit : Nat) (files : List Path) : Nat × List (String × Nat) :=
  (files.length, (Tally.mk (files.map extensionOf)).top limit)

/-- Samples the files of a module, and tells how many there are and which extensions they have. -/
def sampleExtensions (scope : Scope) (limits : Limits) (folder : Path) :
    Scan (Nat × List (String × Nat)) := do
  let files ← Scan.listFiles scope.skips (fun _ => true)
    (min (limits .extensionSampleFiles) scope.files) folder
  return extensionStats (limits .topExtensions) files

/-- The module with this manifest. -/
def moduleOf (scope : Scope) (limits : Limits) (repository manifest : Path) : Scan Module := do
  let folder := manifest.parent
  let content ← Scan.readText manifest (limits .manifestChars)
  let (sampledFiles, extensions) ← sampleExtensions scope limits folder
  return {
    name := folder.name, path := Path.relativeText repository folder, folder
    depends := Source.listField "depends".toList content
    dataFiles := Source.listField "data".toList content
    demoFiles := Source.listField "demo".toList content
    sampledFiles, extensions }

/-- The modules of a repository. -/
def collect (scope : Scope) (limits : Limits) (repository : Path) : Scan ModuleMap := do
  let modules ← (← manifests scope repository).mapM (moduleOf scope limits repository)
  Scan.say .info "modules" ("Collected " ++ toString modules.length ++ " modules")
  return .ofModules (limits .topDependencies) modules

end AddonAtlas.Addon
