import AddonAtlas.Document.Lookup
import AddonAtlas.Text.Case

/-!
# Report pages

A report as a page for people: a title, the headline fields, and sections with samples of its
lists. Each of the known reports has a page of its own; any other report shows its plain fields.
-/

namespace AddonAtlas.Report

open Document Text

/-- The titles of the known reports. -/
def titles : List (String × String) := [
  ("module-map", "Module Map"),
  ("orm-model-map", "ORM Model Map"),
  ("security-map", "Security Map"),
  ("ui-map", "UI Map"),
  ("route-map", "Route Map"),
  ("expert-summary", "Expert Context Summary")]

/-- The name of a report. -/
def nameOf (report : Fields) : String :=
  (report.getD "artifact" (.text "")).plain

/-- The title of a report: a known one, or its name with capitals. -/
def titleOf (name : String) : String :=
  match titles.lookup name with
  | some title => title
  | none =>
    match titleString (name.map fun c => if c == '-' then ' ' else c) with
    | "" => "Artifact"
    | title => title

/-- A field on a line of its own. -/
def fieldLine (report : Fields) (name : String) : String :=
  "- " ++ name ++ ": " ++ (report.getD name (.text "")).plain

/-- The head of a page: its title, the stamp, the given fields and some more lines. -/
def head (report : Fields) (names : List String) (more : List String := []) : List String :=
  ["# " ++ titleOf (nameOf report), "", fieldLine report "generated_at",
    fieldLine report "repository"] ++ names.map (fieldLine report) ++
    [fieldLine report "confidence_score"] ++ more ++ [""]

/-- A section of a page. -/
def part (title : String) (items : List String) : List String :=
  ["## " ++ title, ""] ++ (if items.isEmpty then ["- none"] else items) ++ [""]

/-- The lines on how a report was made. -/
def provenanceLines (provenance : Fields) : Except Fault (List String) := do
  let roots ← (provenance.getD "scan_roots" (.list [])).items
  let assumptions ← (provenance.getD "assumptions" (.list [])).items
  return ["- method: " ++ (provenance.getD "method" (.text "")).plain] ++
    roots.map (fun root => "- scan_root: " ++ root.plain) ++
    assumptions.map fun assumption => "- assumption: " ++ assumption.plain

/-- The section on how a report was made, if that is known. -/
def provenancePart (report : Fields) : Except Fault (List String) :=
  match report.get? "provenance" with
  | some (.object provenance) => return part "Provenance" (← provenanceLines provenance)
  | _ => .ok []

/-- Text for a value, or `default` if the value counts as false. -/
def plainOr (default : String) (value : Value) : String :=
  if value.isTrue then value.plain else default

/-- Text, or `default` if it is empty. -/
def textOr (default text : String) : String :=
  if text == "" then default else text

/-- A ranked name with its count. -/
def countLine (item : Value) : Except Fault String :=
  return "- " ++ (← item.need "name").plain ++ ": " ++ (← item.need "count").plain

/-- A module with its dependencies and the number of its files. -/
def moduleLines (item : Value) : Except Fault (List String) := do
  let first := "- " ++ (← item.need "module").plain ++ " (" ++ (← item.need "path").plain ++ ")"
  let depends ← (← item.fieldD "depends" (.list [])).join ", "
  let data ← (← item.fieldD "data_files" (.list [])).size
  let demo ← (← item.fieldD "demo_files" (.list [])).size
  return [first, "  - depends: " ++ textOr "none" depends, "  - data_files: " ++ toString data,
    "  - demo_files: " ++ toString demo]

/-- The page of the module map. -/
def modulePage (report : Fields) : Except Fault (List String) := do
  let dependencies ← (← (report.getD "top_dependencies" (.list [])).items).mapM countLine
  let modules ← (← (report.getD "modules" (.list [])).firstItems 120).mapM moduleLines
  let provenance ← provenancePart report
  return head report ["module_count"] ++ part "Top Dependencies" dependencies ++
    part "Module Sample" modules.flatten ++ provenance

/-- A model with the ways in which it is extended. -/
def hotspotLine (item : Value) : Except Fault String :=
  return "- " ++ (← item.need "model").plain ++ ": extension_points=" ++
    (← item.need "extension_points").plain ++ ", modules=" ++ (← item.need "modules_count").plain

/-- The page of the model map. -/
def modelPage (report : Fields) : Except Fault (List String) := do
  let hotspots ← (← (report.getD "hotspots" (.list [])).items).mapM hotspotLine
  let provenance ← provenancePart report
  return head report ["models_detected", "raw_class_entries"] ++ part "Model Hotspots" hotspots ++
    provenance

/-- A permission with its letter. -/
def permission (entry : Value) (letter name : String) : Except Fault String :=
  return letter ++ (if (← entry.fieldD name .null).isTrue then "1" else "0")

/-- An access entry. -/
def accessLine (entry : Value) : Except Fault String :=
  return "- " ++ (← entry.need "module").plain ++ ":" ++ (← entry.need "id").plain ++ " model=" ++
    (← entry.need "model_ref").plain ++ " perms=" ++ (← permission entry "R" "perm_read") ++
    (← permission entry "W" "perm_write") ++ (← permission entry "C" "perm_create") ++
    (← permission entry "D" "perm_unlink")

/-- A record rule. -/
def ruleLine (rule : Value) : Except Fault String :=
  return "- " ++ (← rule.need "module").plain ++ ":" ++ (← rule.need "id").plain ++ " model=" ++
    plainOr "n/a" (← rule.need "model_ref") ++ " domain=" ++
    (if (← rule.need "has_domain_force").isTrue then "yes" else "no")

/-- The page of the security map. -/
def securityPage (report : Fields) : Except Fault (List String) := do
  let risky := report.getD "risky_acl_entries" (.list [])
  let global := report.getD "global_record_rules" (.list [])
  let counts := [
    "- risky_acl_entries: " ++ toString (← risky.size),
    "- global_record_rules: " ++ toString (← global.size)]
  let riskyLines ← (← risky.firstItems 80).mapM accessLine
  let globalLines ← (← global.firstItems 80).mapM ruleLine
  let provenance ← provenancePart report
  return head report ["acl_count", "record_rule_count"] counts ++
    part "Risky ACL Sample" riskyLines ++ part "Global Record Rules Sample" globalLines ++
    provenance

/-- A view and the one that it changes. -/
def viewLine (view : Value) : Except Fault String :=
  return "- " ++ (← view.need "module").plain ++ ":" ++ (← view.need "id").plain ++ " model=" ++
    plainOr "n/a" (← view.need "model") ++ " inherit=" ++ (← view.need "inherit_ref").plain

/-- The page of the screen map. -/
def screenPage (report : Fields) : Except Fault (List String) := do
  let views ← (← (report.getD "inherited_views" (.list [])).firstItems 100).mapM viewLine
  let provenance ← provenancePart report
  return head report ["view_count", "inherited_view_count", "action_count", "menu_count"] ++
    part "Inherited Views Sample" views ++ provenance

/-- A route with its type and methods. -/
def routeLine (route : Value) : Except Fault String :=
  return "- " ++ (← route.need "module").plain ++ ":" ++ (← route.need "route").plain ++ " type=" ++
    (← route.need "type").plain ++ " methods=" ++
    textOr "ANY" (← (← route.fieldD "methods" (.list [])).join "|")

/-- The page of the route map. -/
def routePage (report : Fields) : Except Fault (List String) := do
  let routes ← (← (report.getD "public_routes" (.list [])).firstItems 120).mapM routeLine
  let provenance ← provenancePart report
  return head report ["route_count", "public_route_count"] ++ part "Public Route Sample" routes ++
    provenance

/-- Every item on a line of its own. -/
def itemLines (value : Value) (label : String := "") : Except Fault (List String) :=
  return (← value.items).map fun item => "- " ++ label ++ item.plain

/-- The page of the expert summary. -/
def summaryPage (report : Fields) : Except Fault (List String) := do
  let metrics ← (report.getD "metrics" (.object [])).fields
  let risks ← itemLines (report.getD "priority_risks" (.list []))
  let workflow ← itemLines (report.getD "recommended_workflow" (.list []))
  let modules ← (← (report.getD "high_impact_modules" (.list [])).items).mapM countLine
  let diagnostics :=
    if (report.getD "diagnostics" .null).isTrue then report.getD "diagnostics" .null
    else .object []
  let unreadable ← diagnostics.fieldD "unreadable_files" (.int 0)
  let short ← diagnostics.fieldD "short_rows" (.int 0)
  let warnings ← itemLines (← diagnostics.fieldD "warnings" (.list [])) "warning: "
  let provenance ← provenancePart report
  return head report [] ++
    part "Senior Signals" (metrics.map fun (name, value) => "- " ++ name ++ ": " ++ value.plain) ++
    part "Priority Risks" risks ++ part "Recommended Workflow" workflow ++
    part "High-Impact Modules" modules ++
    part "Diagnostics" (["- unreadable_files: " ++ unreadable.plain,
      "- short_rows: " ++ short.plain] ++ warnings) ++
    provenance

/-- Is the value a number or a text? -/
def isScalar : Value → Bool
  | .bool _ | .int _ | .float _ | .text _ => true
  | _ => false

/-- The fields that the head of every page shows. -/
def headNames : List String := ["artifact", "generated_at", "repository", "confidence_score"]

/-- The page of any other report: its numbers and texts by name. -/
def plainPage (report : Fields) : Except Fault (List String) := do
  let scalars := ((report.filter fun (name, value) => isScalar value &&
    !headNames.contains name).map (·.1)).mergeSort fun a b => decide (a ≤ b)
  let provenance ← provenancePart report
  return head report scalars ++ provenance

/-- The page of a report. -/
def page (report : Fields) : Except Fault String :=
  return joinWith "\n" (← match nameOf report with
    | "module-map" => modulePage report
    | "orm-model-map" => modelPage report
    | "security-map" => securityPage report
    | "ui-map" => screenPage report
    | "route-map" => routePage report
    | "expert-summary" => summaryPage report
    | _ => plainPage report)

end AddonAtlas.Report
