import AddonAtlas.Access.Map
import AddonAtlas.Addon.Collect
import AddonAtlas.Model.Map
import AddonAtlas.Route.Map
import AddonAtlas.Screen.Map

/-!
# The built-in surveys

Each survey reads the files of one folder of every module and draws its chart from what it finds
there. All files are read before anything is said about them.
-/

namespace AddonAtlas.Survey

open Addon Files Run Settings

/-- What a survey is given. -/
structure Context where
  repository : Path
  modules : List Module
  scope : Scope := {}
  limits : Limits := Limit.usual
  delegation : Model.DelegationOrder := .keyFirst
  /-- How many files may be parsed at once. -/
  workers : Nat := 1

/-- A file to read, with its module. -/
structure Job where
  module : Module
  path : Path
  /-- The path as it is reported, seen from the repository. -/
  label : String

/-- The files of one folder of a module whose names end with `ending`, at most `limit` of them. -/
def moduleJobs (context : Context) (folder ending : String) (limit : Nat) (module : Module) :
    Scan (List Job) := do
  let root := module.folder.child folder
  if (← read).hasFolder root then
    let files ← Scan.listFiles context.scope.skips (·.name.endsWith ending)
      (min limit context.scope.files) root
    return files.map fun path => ⟨module, path, Path.relativeText context.repository path⟩
  else return []

/-- The files of one folder of every module. -/
def jobs (context : Context) (folder ending : String) (limit : Nat) : Scan (List Job) := do
  return (← context.modules.mapM (moduleJobs context folder ending limit)).flatten

/-- Reads the file of a job and parses it. -/
def parsed {α : Type} (chars : Nat) (parse : Job → List Char → α) (job : Job) : Scan α := do
  return parse job (← Scan.readText job.path chars)

/-- A way to parse the files of jobs, with the results in the order of the jobs. -/
abbrev JobReader :=
  (α : Type) → (chars : Nat) → (parse : Job → List Char → α) → List Job → Scan (List α)

/-- Parses one file after the other. -/
def oneByOne : JobReader := fun _ chars parse jobs =>
  jobs.mapM (parsed chars parse)

/-- Parses the files of jobs: by the pool of workers if there are several workers and several jobs,
and else one by one. -/
def readJobs {α : Type} (pool : JobReader) (context : Context) (chars : Nat)
    (parse : Job → List Char → α) (jobs : List Job) : Scan (List α) :=
  if context.workers ≤ 1 || jobs.length < 2 then oneByOne α chars parse jobs
  else pool α chars parse jobs

/-- Notes a warning. -/
def warn (warning : String) : Scan Unit := do
  Scan.say .warning "extractors.orm" warning
  Scan.diagnose (·.warn warning)

/-- The survey of models. -/
def surveyModels (pool : JobReader) (context : Context) : Scan Chart := do
  let limits := context.limits
  let jobs ← jobs context "models" ".py" (limits .modelFiles)
  let found ← readJobs pool context (limits .modelChars) (fun job =>
    Model.parse context.delegation (limits .classBodyChars) job.module.name job.label) jobs
  (found.flatMap (·.warnings)).forM warn
  let classes := found.flatMap (·.classes)
  let chart := Model.chart ⟨limits .modelFileSample, limits .topHotspots⟩ classes
  Scan.say .info "extractors.orm" ("Detected " ++ toString (Model.records classes).length ++
    " models from " ++ toString classes.length ++ " class entries in " ++ toString jobs.length ++
    " files")
  return chart

/-- The name of the access table of a module. -/
def accessTable : String := "ir.model.access.csv"

/-- The access entries of a module. -/
def moduleAccess (limits : Limits) (module : Module) : Scan (List Access.Entry) := do
  let path := (module.folder.child "security").child accessTable
  if (← read).hasFile path then
    let content ← Scan.readText path (limits .aclChars)
    let (entries, short) := Access.parse module.name content
    Scan.diagnose fun d => { d with shortRows := d.shortRows + short }
    return entries
  else return []

/-- The survey of access entries and record rules. -/
def surveyAccess (pool : JobReader) (context : Context) : Scan Chart := do
  let limits := context.limits
  let entries := (← context.modules.mapM (moduleAccess limits)).flatten
  let jobs ← jobs context "security" ".xml" (limits .securityXmlFiles)
  let rules := (← readJobs pool context (limits .securityXmlChars) (fun job =>
    Access.parseRules job.module.name job.label (limits .securityXmlChars)) jobs).flatten
  Scan.say .info "extractors.security" ("Parsed " ++ toString entries.length ++
    " ACL entries and " ++ toString rules.length ++ " record rules")
  return Access.chart ⟨limits .riskSample, limits .securityEntries⟩ entries rules

/-- The survey of views, actions and menus. -/
def surveyScreens (pool : JobReader) (context : Context) : Scan Chart := do
  let limits := context.limits
  let jobs ← jobs context "views" ".xml" (limits .viewFiles)
  let found ← readJobs pool context (limits .viewChars) (fun job =>
    Screen.parse job.module.name job.label (limits .viewChars)) jobs
  let all : Screen.Parsed :=
    ⟨found.flatMap (·.views), found.flatMap (·.actions), found.flatMap (·.menus)⟩
  Scan.say .info "extractors.ui" ("Parsed " ++ toString all.views.length ++ " views, " ++
    toString all.actions.length ++ " actions and " ++ toString all.menus.length ++ " menus")
  return Screen.chart ⟨limits .inheritedViews, limits .views, limits .actions, limits .menus⟩ all

/-- The survey of routes. -/
def surveyRoutes (pool : JobReader) (context : Context) : Scan Chart := do
  let limits := context.limits
  let jobs ← jobs context "controllers" ".py" (limits .controllerFiles)
  let routes := (← readJobs pool context (limits .controllerChars) (fun job =>
    Route.parse job.module.name job.label (limits .routeBlockChars)) jobs).flatten
  Scan.say .info "extractors.routes" ("Detected " ++ toString routes.length ++ " routes in " ++
    toString jobs.length ++ " controller files")
  return Route.chart ⟨limits .publicRoutes, limits .routes⟩ routes

/-- Runs a survey with a pool of workers. -/
def runWith (pool : JobReader) (context : Context) : Survey → Scan Chart
  | .builtIn .models => surveyModels pool context
  | .builtIn .access => surveyAccess pool context
  | .builtIn .screens => surveyScreens pool context
  | .builtIn .routes => surveyRoutes pool context
  | .plugin _ chart => return chart

/-- Runs a survey with a single worker. -/
def run (context : Context) (survey : Survey) : Scan Chart :=
  survey.runWith oneByOne context

end AddonAtlas.Survey
