import AddonAtlas.Chart
import AddonAtlas.Model.Class

/-!
# The model map

The model classes of all modules, gathered into one record per model. A model is extended through
the models it inherits from and those it delegates to; the hotspots are the most extended models.
-/

namespace AddonAtlas.Model

open Text Document

/-- What is known about one model. Every list is distinct and increasing. -/
structure Record where
  model : String
  modules : List String := []
  files : List String := []
  inheritanceLinks : List String := []
  delegatedLinks : List String := []
  kinds : List String := []
  deriving DecidableEq, Repr

namespace Record

/-- Adds what a class tells about the model. -/
def merge (r : Record) (c : Class) : Record :=
  { r with
    modules := insertText c.module r.modules
    files := insertText c.file r.files
    inheritanceLinks := insertTexts c.inherits r.inheritanceLinks
    delegatedLinks := insertTexts c.delegates r.delegatedLinks
    kinds := insertText c.kind.name r.kinds }

/-- In how many ways the model is extended. -/
def extensionPoints (r : Record) : Nat :=
  r.inheritanceLinks.length + r.delegatedLinks.length

/-- The record as it is reported, with a sample of its files. -/
def value (fileSample : Nat) (r : Record) : Value :=
  .object [("model", .text r.model), ("modules", .texts r.modules),
    ("files", .texts (r.files.take fileSample)), ("inheritance_links", .texts r.inheritanceLinks),
    ("delegated_links", .texts r.delegatedLinks), ("kinds", .texts r.kinds)]

/-- The record as a hotspot. -/
def hotspotValue (r : Record) : Value :=
  .object [("model", .text r.model), ("extension_points", .int r.extensionPoints),
    ("modules_count", .count r.modules)]

/-- Does `a` rank before `b`, or level with it: more extended, then in more modules, then by
name? -/
def ranksBefore (a b : Record) : Bool :=
  if a.extensionPoints = b.extensionPoints then
    if a.modules.length = b.modules.length then decide (a.model ≤ b.model)
    else decide (b.modules.length < a.modules.length)
  else decide (b.extensionPoints < a.extensionPoints)

end Record

/-- Adds what a class tells to the record of its model, which is made if there is none. -/
def addClass : List (String × Record) → Class → List (String × Record)
  | [], c => [(c.identity, Record.merge { model := c.identity } c)]
  | (key, r) :: rest, c =>
    if key == c.identity then (key, r.merge c) :: rest else (key, r) :: addClass rest c

/-- The records of the models that the classes describe, in the order in which these come first. -/
def gather (classes : List Class) : List (String × Record) :=
  classes.foldl addClass []

/-- One record for each model that the classes describe, by name. -/
def records (classes : List Class) : List Record :=
  sortOn (fun r => nameKey r.model) ((gather classes).map (·.2))

/-- The most extended models, at most `limit` of them. -/
def hotspots (limit : Nat) (records : List Record) : List Record :=
  (records.mergeSort Record.ranksBefore).take limit

/-- How many files and hotspots are reported. -/
structure Limits where
  fileSample : Nat := 12
  hotspots : Nat := 40

/-- The model map of a list of classes. -/
def chart (limits : Limits) (classes : List Class) : Chart :=
  let records := records classes
  { name := "orm-model-map"
    folders := ["models"]
    assumptions := [
      "Models are recognised from class headers whose bases reference models.Model, " ++
        "models.TransientModel or models.AbstractModel.",
      "A class without _name takes its identity from the first _inherit target.",
      "_inherits mappings are read as alternating model/field tokens."]
    body := [
      ("models_detected", .count records),
      ("raw_class_entries", .count classes),
      ("model_entries", .list (records.map (·.value limits.fileSample))),
      ("hotspots", .list ((hotspots limits.hotspots records).map (·.hotspotValue)))]
    metrics := [("orm_models", records.length)] }

end AddonAtlas.Model
