import AddonAtlas.Document.Json
import AddonAtlas.Report.Page
import AddonAtlas.Report.Stamp
import AddonAtlas.Run.Load
import AddonAtlas.Survey.BuiltIn

/-!
# Runs

A run finds the repository of a workspace, collects its modules, makes the surveys, and writes a
report of each, and of all of them, as data and as a page. Nothing is written before everything has
been scanned.
-/

namespace AddonAtlas.Run

open Addon Document Files Number Survey

/-- What a run is asked for. -/
structure Request where
  workspace : String
  repository : String := "odoo"
  /-- The path of the repository, instead of its name. -/
  repositoryPath : Option String := none
  outputFolder : Option String := none
  /-- How many files may be parsed at once. -/
  workers : Option Int := none
  deriving DecidableEq, Repr

/-- The world around a run. -/
structure Setting where
  /-- The time at which reports are made. -/
  time : String
  /-- How long a stage takes, in seconds. -/
  elapsed : String
  /-- The reader of settings files. -/
  load : Yaml.Loader
  plugins : List Plugin := []
  /-- The surveys to make, whatever the settings say. -/
  surveys : Option (List Survey) := none

/-- The files of a report. -/
structure Artifact where
  name : String
  data : Path
  page : Path
  deriving DecidableEq, Repr

/-- What a run yields. -/
structure Outcome where
  workspace : Path
  repository : Path
  outputFolder : Path
  metrics : Metrics
  confidence : Binary64
  artifacts : List Artifact
  diagnostics : Diagnostics

/-- The name of the repository in reports: its path seen from the workspace. -/
def Outcome.label (outcome : Outcome) : String :=
  Path.relativeText outcome.workspace outcome.repository

/-! ## Steps -/

/-- A disk, and what was noted about it. -/
structure Session where
  disk : Disk
  notes : Notes := {}

/-- A step of a run; what it did and noted before it failed stays. -/
abbrev Work := ExceptT Fault (StateM Session)

namespace Work

/-- Looks at the disk. -/
def look {α : Type} (scan : Scan α) : Work α := fun session =>
  let (result, notes) := (scan session.disk).run session.notes
  (result, { session with notes })

/-- Changes the disk. -/
def change {α : Type} (change : Change α) : Work α := fun session =>
  let (result, disk) := change.run session.disk
  (result.mapError .system, { session with disk })

/-- A result that may be a fault. -/
def check {ε α : Type} (fault : ε → Fault) (result : Except ε α) : Work α :=
  liftExcept (result.mapError fault)

/-- Notes a message. -/
def say (level : Log.Level) (stage text : String) : Work Unit :=
  look (Scan.say level stage text)

end Work

/-! ## Scanning -/

/-- The folder for reports, unless another one is given. -/
def usualOutputFolder : String := "context-engineering/sources/odoo-business-model"

/-- The folder for reports. -/
def outputFolder (disk : Disk) (workspace : Path) (given : Option String) :
    Except PathFault Path :=
  match given with
  | none => .ok (workspace.child usualOutputFolder)
  | some text => return workspace.join (← disk.expand (.ofText text))

/-- The surveys to make. -/
def chooseSurveys (setting : Setting) (settings : Settings) : Except Fault (List Survey) :=
  match setting.surveys with
  | some surveys => .ok surveys
  | none =>
    (discover setting.plugins settings.surveys).mapError fun fault =>
      if fault.isValue then .surveysRefused fault else .survey fault

/-- What to look for, as the settings say. -/
def scopeOf (settings : Settings) : Scope where
  manifestName := settings.manifestName
  skippedFolders := settings.skippedFolders
  manifests := settings.limits .manifestWalkMaxFiles
  files := settings.limits .walkMaxFiles

/-- A given text, unless it is empty. -/
def nonEmpty? (text : Option String) : Option String :=
  text.filter (· != "")

/-- What a run finds before it writes anything. -/
structure Inventory where
  workspace : Path
  repository : Path
  settings : Settings
  outputFolder : Path
  modules : ModuleMap
  charts : List Chart
  diagnostics : Diagnostics

/-- What the surveys of a repository are given. -/
def contextOf (request : Request) (settings : Settings) (repository : Path) (modules : ModuleMap) :
    Context where
  repository
  scope := scopeOf settings
  modules := modules.modules
  limits := settings.limits
  delegation := settings.delegation
  workers := (request.workers.map fun n => max 1 n.toNat).getD settings.workers

/-- Scans a repository: first its modules, then what the surveys look for. -/
def takeStock (setting : Setting) (request : Request) (workspace repository : Path)
    (settings : Settings) (folder : Path) : Scan Inventory := do
  Scan.say .info "orchestrator" ("Scanning " ++ repository.text ++ " into " ++ folder.text)
  let modules ← staged Scan.say setting.elapsed "modules"
    (collect (scopeOf settings) settings.limits repository)
  let surveys ← Scan.lift id (chooseSurveys setting settings)
  let charts ← surveys.mapM fun survey =>
    staged Scan.say setting.elapsed survey.name
      (survey.run (contextOf request settings repository modules))
  return {
    workspace, repository, settings, outputFolder := folder, modules, charts
    diagnostics := (← get).diagnostics }

/-- The name of the repository that a request asks for. -/
def Request.repositoryName (request : Request) : String :=
  if request.repository == "" then "odoo" else request.repository

/-- Scans what a request asks for. -/
def takeInventory (setting : Setting) (request : Request) : Scan Inventory := do
  let disk ← read
  let workspace ← Scan.lift .path (do disk.resolve (← disk.expand (.ofText request.workspace)))
  let repository ← repositoryOf workspace request.repositoryName request.repositoryPath
  let settings := (← Scan.lift id (loadSettings setting.load disk workspace)).settings
  let folder ← Scan.lift .path (outputFolder disk workspace
    (nonEmpty? request.outputFolder <|> nonEmpty? settings.outputFolder))
  takeStock setting request workspace repository settings folder

/-! ## Reports -/

/-- The summary of the charts of a run. -/
def summaryChart (limits : Settings.Limits) (modules : ModuleMap) (charts : List Chart)
    (diagnostics : Diagnostics) : Chart :=
  let all := Metrics.merge (modules.chart.metrics :: charts.map (·.metrics))
  { name := "expert-summary", method := "aggregation", metrics := all
    body := Summary.body all modules.ranking (charts.flatMap (·.risks)) diagnostics
      (limits .highImpactModules) }

/-- The places that were scanned for a chart. -/
def scanRoots (label : String) (chart : Chart) : List String :=
  if chart.folders.isEmpty then [label]
  else chart.folders.map fun folder => label ++ "/**/" ++ folder

/-- A report, with its score. -/
structure Draft where
  name : String
  confidence : Binary64
  fields : Fields

/-- The report of a chart. -/
def draft (bounds : Confidence.Bounds) (label time : String) (chart : Chart) :
    Except Confidence.Fault Draft := do
  let confidence ← Confidence.score bounds Confidence.weights chart.metrics
  return {
    name := chart.name, confidence
    fields := Report.stamped chart.body {
      artifact := chart.name, generatedAt := time, repository := label, confidence
      provenance := {
        scanRoots := scanRoots label chart, method := chart.method
        assumptions := chart.assumptions ++ [Confidence.note] } } }

/-- Writes a text into a file. -/
def writeText (path : Path) (text : String) : Work Unit :=
  Work.change (Change.file path text.toUTF8)

/-- Writes a report as data and as a page. -/
def writeDraft (folder : Path) (draft : Draft) : Work Artifact := do
  Work.change (Change.folders folder)
  let data := folder.child (draft.name ++ ".json")
  let page := folder.child (draft.name ++ ".md")
  writeText data (Value.object draft.fields).json
  writeText page ((← Work.check .page (Report.page draft.fields)) ++ "\n")
  Work.say .debug "render" ("Wrote " ++ data.text ++ " and " ++ page.text)
  return ⟨draft.name, data, page⟩

/-! ## The run -/

/-- The summary of what a run finds. -/
def Inventory.summary (inventory : Inventory) : Chart :=
  summaryChart inventory.settings.limits inventory.modules inventory.charts inventory.diagnostics

/-- The report of a chart of what a run finds. -/
def Inventory.draft (inventory : Inventory) (time : String) (chart : Chart) :
    Except Confidence.Fault Draft :=
  Run.draft inventory.settings.confidence
    (Path.relativeText inventory.workspace inventory.repository) time chart

/-- Runs a request. -/
def run (setting : Setting) (request : Request) : Work Outcome := do
  let inventory ← Work.look (takeInventory setting request)
  let folder := inventory.outputFolder
  let drafts ← Work.check .confidence <|
    (inventory.modules.chart :: inventory.charts).mapM (inventory.draft setting.time)
  let last ← Work.check .confidence (inventory.draft setting.time inventory.summary)
  let artifacts ← staged Work.say setting.elapsed "render"
    ((drafts ++ [last]).mapM (writeDraft folder))
  Work.say .info "orchestrator"
    ("Wrote " ++ toString artifacts.length ++ " artifacts to " ++ folder.text)
  return {
    workspace := inventory.workspace, repository := inventory.repository, outputFolder := folder
    artifacts, diagnostics := inventory.diagnostics
    metrics := Summary.metrics inventory.summary.metrics, confidence := last.confidence }

end AddonAtlas.Run
