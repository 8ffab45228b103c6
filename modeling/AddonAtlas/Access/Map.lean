import AddonAtlas.Access.Entry
import AddonAtlas.Access.Rule
import AddonAtlas.Chart
import AddonAtlas.Text.Order

/-!
# The security map

The access entries and record rules of all modules, in order, with the risky ones among them.
-/

namespace AddonAtlas.Access

open Text Document

/-- How many entries are reported. -/
structure Limits where
  riskSample : Nat := 300
  entries : Nat := 3000

/-- Access entries by module, then id. -/
def sortEntries (entries : List Entry) : List Entry :=
  sortOn (fun e => nameKey e.module ++ [e.id]) entries

/-- Record rules by module, then file, then id. -/
def sortRules (rules : List Rule) : List Rule :=
  sortOn (fun r => nameKey r.module ++ [r.file, r.id]) rules

/-- What a reader should look at. -/
def risks (risky global : Nat) : List String :=
  (if risky = 0 then [] else
    ["Review " ++ toString risky ++
      " ACL entries that grant write/create/delete without explicit groups."]) ++
  (if global = 0 then [] else
    ["Review " ++ toString global ++ " record rules with global scope (no group restriction)."])

/-- The security map of these entries and rules. -/
def chart (limits : Limits) (entries : List Entry) (rules : List Rule) : Chart :=
  let entries := sortEntries entries
  let rules := sortRules rules
  let risky := entries.filter (·.isRisky)
  let global := rules.filter (·.isGlobal)
  { name := "security-map"
    folders := ["security"]
    assumptions := [
      "ACL columns are resolved by header name; missing or unparsable permissions read as false.",
      "An ACL row is risky when it has no group and grants write, create or unlink.",
      "A record rule is global when no ref('...') group reference appears in its record."]
    body := [
      ("acl_count", .count entries),
      ("record_rule_count", .count rules),
      ("risky_acl_entries", .list ((risky.take limits.riskSample).map (·.value))),
      ("global_record_rules", .list ((global.take limits.riskSample).map (·.value))),
      ("acl_entries", .list ((entries.take limits.entries).map (·.value))),
      ("record_rules", .list ((rules.take limits.entries).map (·.value)))]
    metrics := [("acl_entries", entries.length), ("record_rules", rules.length),
      ("risky_acl_entries", risky.length), ("global_record_rules", global.length)]
    risks := risks risky.length global.length }

end AddonAtlas.Access
