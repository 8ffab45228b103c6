import AddonAtlas.Document.Value
import AddonAtlas.Markup.Record

/-!
# Record rules

The rules of a module that restrict which records of a model can be seen. A rule that names no
group holds for everybody.
-/

namespace AddonAtlas.Access

open Text Document

/-- A record rule. -/
structure Rule where
  module : String
  file : String
  id : String
  modelRef : String
  groups : List String := []
  hasDomain : Bool := false
  deriving DecidableEq, Repr

/-- Does the rule hold for everybody? -/
def Rule.isGlobal (r : Rule) : Bool :=
  r.groups.isEmpty

/-- The rule as it is reported. -/
def Rule.value (r : Rule) : Value :=
  .object [("module", .text r.module), ("file", .text r.file), ("id", .text r.id),
    ("model_ref", .text r.modelRef), ("groups", .texts r.groups),
    ("has_domain_force", .bool r.hasDomain)]

/-- The rule of a record. -/
def Rule.ofRecord (module file : String) (record : Markup.Element) : Rule :=
  let fields := Markup.fields record.body
  { module, file
    id := record.attr "id"
    modelRef := fields.ref "model_id"
    groups := distinctSorted (Markup.refTargets record.body)
    hasDomain := fields.text "domain_force" != "" || fields.eval "domain_force" != "" }

/-- The record rules of a file. -/
def parseRules (module file : String) (cap : Nat) (content : List Char) : List Rule :=
  (Markup.records "ir.rule" cap content).map (Rule.ofRecord module file)

end AddonAtlas.Access
