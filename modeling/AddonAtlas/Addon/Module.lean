import AddonAtlas.Chart
import AddonAtlas.Files.Path
import AddonAtlas.Summary
import AddonAtlas.Tally

/-!
# Modules

A module is a folder with a manifest. The module map lists the modules with what they depend on, and
the modules on which most others depend.
-/

namespace AddonAtlas.Addon

open Document

/-- A module. -/
structure Module where
  name : String
  /-- Its folder as it is reported, seen from the repository. -/
  path : String
  folder : Files.Path
  depends : List String := []
  dataFiles : List String := []
  demoFiles : List String := []
  /-- How many of its files were looked at. -/
  sampledFiles : Nat := 0
  /-- The most frequent extensions of those files. -/
  extensions : List (String × Nat) := []
  deriving DecidableEq, Repr

/-- An extension with its count. -/
def extensionValue (entry : String × Nat) : Value :=
  .object [("ext", .text entry.1), ("count", .int entry.2)]

/-- The module as it is reported. -/
def Module.value (m : Module) : Value :=
  .object [("module", .text m.name), ("path", .text m.path), ("depends", .texts m.depends),
    ("data_files", .texts m.dataFiles), ("demo_files", .texts m.demoFiles),
    ("file_stats", .object [("sampled_files", .int m.sampledFiles),
      ("top_extensions", .list (m.extensions.map extensionValue))])]

/-- The modules of a repository, and the modules on which most others depend. -/
structure ModuleMap where
  modules : List Module
  dependencies : List (String × Nat)

namespace ModuleMap

/-- The modules in order, and the `limit` modules on which most of them depend. -/
def ofModules (limit : Nat) (modules : List Module) : ModuleMap where
  modules := Text.sortOn (fun m => Text.nameKey m.name ++ [m.path]) modules
  dependencies := (modules.foldl (fun t m => t.addDistinct m.depends) ({} : Tally)).top limit

/-- The dependencies with their counts. -/
def ranking (m : ModuleMap) : List (String × Int) :=
  m.dependencies.map fun (name, n) => (name, n)

/-- The module map as a chart. -/
def chart (m : ModuleMap) : Chart where
  name := "module-map"
  method := "manifest-scan"
  assumptions := [
    "A module is any directory holding a manifest file; manifests are read as text, not executed.",
    "List fields are captured up to the first closing bracket; nested lists are not supported."]
  body := [
    ("module_count", .count m.modules),
    ("top_dependencies", .list (m.ranking.map Summary.ranked)),
    ("modules", .list (m.modules.map (·.value)))]
  metrics := [("modules", m.modules.length)]

end ModuleMap

end AddonAtlas.Addon
