import AddonAtlas.Command.Option

/-!
# The command

Runs a call, and prints what it found, or why it failed.
-/

namespace AddonAtlas.Command

open Files Run

/-- What a call prints, and the code with which it ends. -/
structure Printed where
  code : Nat := 0
  out : String := ""
  err : String := ""
  deriving DecidableEq, Repr

/-- How the command is called. -/
def usage : String :=
  "usage: addonmap [-h] [-v] [--workspace WORKSPACE] [--repo REPO]\n" ++
  "                [--repo-path REPO_PATH] [--output-dir OUTPUT_DIR]\n" ++
  "                [--workers WORKERS]\n"

/-- What the command does. -/
def helpText : String :=
  usage ++
  "\nMine an addon repository into module, model, security, UI and route maps.\n" ++
  "\noptions:\n" ++
  "  -h, --help            show this help message and exit\n" ++
  "  -v, --verbose         Increase log verbosity for troubleshooting.\n" ++
  "  --workspace WORKSPACE\n" ++
  "                        Workspace root holding repositories/ (defaults to\n" ++
  "                        current directory).\n" ++
  "  --repo REPO           Repository name under <workspace>/repositories\n" ++
  "                        (default: odoo).\n" ++
  "  --repo-path REPO_PATH\n" ++
  "                        Explicit repository path, absolute or relative to the\n" ++
  "                        workspace.\n" ++
  "  --output-dir OUTPUT_DIR\n" ++
  "                        Artifact directory, absolute or relative to the\n" ++
  "                        workspace.\n" ++
  "  --workers WORKERS     Parse files with this many threads (default: from\n" ++
  "                        config, else 1).\n"

/-- Lines of a text. -/
def lines (texts : List String) : String :=
  String.join (texts.map (· ++ "\n"))

/-- What is printed of an outcome; files below the current folder are shown from there. -/
def outcomeText (here : Path) (outcome : Outcome) : String :=
  let count (label name : String) : String :=
    "- " ++ label ++ ": " ++ Number.intText (outcome.metrics.get name)
  lines <| [
    "Addon business context generated",
    "- workspace: " ++ outcome.workspace.text,
    "- repository: " ++ outcome.repository.text,
    count "modules_detected" "modules",
    count "orm_models_detected" "orm_models",
    count "acl_entries" "acl_entries",
    count "inherited_views" "inherited_views",
    count "routes_detected" "routes",
    "- confidence_score: " ++ outcome.confidence.text] ++
    outcome.artifacts.flatMap fun artifact => [
      "- artifact_json: " ++ Path.relativeText here artifact.data,
      "- artifact_md: " ++ Path.relativeText here artifact.page]

/-- What is printed of a fault. -/
def faultText (fault : Run.Fault) : String :=
  if fault.isInput then fault.message ++ "\n"
  else if fault.isSettings then "Invalid configuration: " ++ fault.message ++ "\n"
  else "addonmap scan failed: " ++ fault.message ++ "\nRun with --verbose for more details.\n"

/-- Runs a call on a disk. -/
def execute (setting : Setting) (texts : List String) : StateM Disk Printed := fun disk =>
  match call texts with
  | .error fault =>
    ({ code := 2, err := usage ++ "addonmap: error: " ++ fault.message ++ "\n" }, disk)
  | .ok .help => ({ out := helpText }, disk)
  | .ok (.run options) =>
    let (result, session) := (run setting options.request).run { disk }
    let log := Log.console { verbose := options.verbose } session.notes.messages.reverse
    match result with
    | .ok outcome =>
      let here : Path := { root := "/", parts := disk.here }
      ({ out := outcomeText here outcome, err := log }, session.disk)
    | .error fault => ({ code := 1, err := log ++ faultText fault }, session.disk)

end AddonAtlas.Command
