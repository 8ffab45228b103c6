import AddonAtlas.Chart
import AddonAtlas.Foreign
import AddonAtlas.Text.Case
import AddonAtlas.Text.Order

/-!
# Surveys and plugins

A survey mines one concern from every module. Four of them are built in, and plugins bring more.
Names do not depend on case. A plugin never replaces a survey that is there already, and surveys
run in the order in which they were found, the built-in ones first.
-/

namespace AddonAtlas

open Text

namespace Survey

/-- What a plugin turns out to be. -/
inductive Target
  /-- A survey, or what makes one when it is called. The survey yields this chart. -/
  | survey (chart : Chart)
  /-- What fails when it is called. -/
  | raises (error : Foreign)
  /-- Something else. -/
  | other

/-- A plugin. -/
structure Plugin where
  name : String
  /-- What it turns out to be when it is loaded, or why it cannot be loaded. -/
  target : Except String Target

/-- The surveys that are built in. -/
inductive BuiltIn
  | models
  | access
  | screens
  | routes
  deriving DecidableEq, Repr

/-- The built-in surveys in the order in which they run. -/
def builtIns : List BuiltIn := [.models, .access, .screens, .routes]

/-- The name by which a built-in survey is chosen. -/
def BuiltIn.name : BuiltIn → String
  | .models => "orm"
  | .access => "security"
  | .screens => "ui"
  | .routes => "routes"

end Survey

/-- A survey that can be run. -/
inductive Survey
  | builtIn (survey : Survey.BuiltIn)
  /-- A survey that a plugin with this name brings. -/
  | plugin (name : String) (chart : Chart)

namespace Survey

/-- The name of a survey. -/
def name : Survey → String
  | .builtIn survey => survey.name
  | .plugin name _ => "plugin:" ++ name

/-- Why surveys cannot be chosen. -/
inductive Fault
  | notLoaded (name reason : String)
  | unknown (names : List String)
  | notASurvey (name : String)
  /-- A plugin failed when it was called. -/
  | raised (error : Foreign)
  deriving DecidableEq, Repr

/-- The wording of a fault. -/
def Fault.message : Fault → String
  | .notLoaded name reason => "Failed to load extractor plugin '" ++ name ++ "': " ++ reason
  | .unknown names => "Unknown extractors requested: " ++ ", ".intercalate names
  | .notASurvey name =>
    "Extractor '" ++ name ++ "' must be an Extractor subclass, instance or factory"
  | .raised error => error.text

/-- Is a value wrong? -/
def Fault.isValue : Fault → Bool
  | .unknown _ => true
  | .raised error => error.kind == .value
  | _ => false

/-- What a known name stands for. -/
inductive Registered
  | builtIn (survey : BuiltIn)
  /-- The target of a plugin with this name. -/
  | plugin (name : String) (target : Target)

/-- The survey that a known name stands for. -/
def Registered.instantiate (key : String) : Registered → Except Fault Survey
  | .builtIn survey => .ok (.builtIn survey)
  | .plugin name (.survey chart) => .ok (.plugin name chart)
  | .plugin _ (.raises error) => .error (.raised error)
  | .plugin _ .other => .error (.notASurvey key)

/-- Known names and what they stand for. -/
abbrev Registry := List (String × Registered)

/-- The registry without plugins. -/
def builtInRegistry : Registry :=
  builtIns.map fun survey => (survey.name, .builtIn survey)

/-- Adds a plugin, unless its name is taken. -/
def Registry.add (registry : Registry) (plugin : Plugin) : Except Fault Registry :=
  let name := lowerString plugin.name
  if (registry.lookup name).isSome then .ok registry
  else
    match plugin.target with
    | .ok target => .ok (registry ++ [(name, .plugin plugin.name target)])
    | .error reason => .error (.notLoaded plugin.name reason)

/-- The registry of the built-in surveys and the plugins. -/
def registry (plugins : List Plugin) : Except Fault Registry :=
  plugins.foldlM Registry.add builtInRegistry

/-- The surveys of the registry that are wanted; all of them when none is named. -/
def Registry.select (registry : Registry) (enabled : List String) :
    Except Fault (List Survey) := do
  let wanted := enabled.map lowerString
  let unknown := distinctSorted (wanted.filter fun name => (registry.lookup name).isNone)
  unless unknown.isEmpty do throw (.unknown unknown)
  let chosen := if enabled.isEmpty then registry else registry.filter (wanted.contains ·.1)
  chosen.mapM fun (name, registered) => registered.instantiate name

/-- The surveys to run. -/
def discover (plugins : List Plugin) (enabled : List String) : Except Fault (List Survey) := do
  (← registry plugins).select enabled

end Survey

end AddonAtlas
