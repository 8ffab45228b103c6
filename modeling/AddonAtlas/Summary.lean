import AddonAtlas.Chart
import AddonAtlas.Diagnostics

/-!
# The expert summary

The summary of a run: the counts that matter most, the modules on which most others depend, the
risks, and how to go about a change.
-/

namespace AddonAtlas.Summary

open Document

/-- The counts that the summary shows. -/
def shownMetrics : List String := [
  "modules", "orm_models", "acl_entries", "record_rules", "views", "inherited_views", "routes",
  "public_routes"]

/-- The counts that the summary shows, zero where there is none. -/
def metrics (all : Metrics) : Metrics :=
  shownMetrics.map fun name => (name, all.get name)

/-- How to go about a change. -/
def workflow : List String := [
  "Start from module-map to identify impacted modules and dependencies.",
  "Inspect orm-model-map before changing models, fields, or inheritance.",
  "Validate ACL and record rules from security-map before merge.",
  "Trace inherited views/actions from ui-map before changing UI.",
  "Validate route auth/type/methods from route-map for API/controller work."]

/-- A name with its count. -/
def ranked (entry : String × Int) : Value :=
  .object [("name", .text entry.1), ("count", .int entry.2)]

/-- The body of the summary, with at most `limit` of the modules on which others depend. -/
def body (all : Metrics) (dependencies : List (String × Int)) (risks : List String)
    (diagnostics : Diagnostics) (limit : Nat) : Fields := [
  ("metrics", (metrics all).value),
  ("high_impact_modules", .list ((dependencies.take limit).map ranked)),
  ("priority_risks", .texts risks),
  ("recommended_workflow", .texts workflow),
  ("diagnostics", diagnostics.value)]

end AddonAtlas.Summary
