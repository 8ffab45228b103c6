import AddonAtlas.Confidence
import AddonAtlas.Files.Walk
import AddonAtlas.Model.Class
import AddonAtlas.Settings.Limit
import AddonAtlas.Yaml.Value

/-!
# Settings

The settings of a run, read from the value of a settings file. A setting whose value has the wrong
kind keeps its usual value; only what contradicts itself is refused.
-/

namespace AddonAtlas

open Number Yaml

/-- The settings of a run. -/
structure Settings where
  manifestName : String := "__manifest__.py"
  skippedFolders : List String := Files.usuallySkipped
  workers : Nat := 1
  outputFolder : Option String := none
  delegation : Model.DelegationOrder := .keyFirst
  /-- The names of the surveys to run; all of them when there is none. -/
  surveys : List String := []
  limits : Settings.Limits := Settings.Limit.usual
  confidence : Confidence.Bounds := {}

namespace Settings

/-- Why settings are refused. -/
inductive Fault
  /-- The text is no mapping. -/
  | notAMapping
  /-- The order of delegation is unknown. -/
  | delegationOrder
  /-- The floor of the confidence is above its ceiling. -/
  | floorAboveCeiling
  /-- The text is not well formed. -/
  | malformed (reason : String)
  /-- The text cannot be read for another reason. -/
  | foreign (error : Foreign)
  /-- A whole number is too large for a floating-point one. -/
  | numberTooLarge
  /-- A whole number is too long to be written. -/
  | numberTooLong
  deriving DecidableEq, Repr

/-- The name of a settings file. -/
def fileName : String := ".addonmap.yml"

/-- The wording of a fault. -/
def Fault.message : Fault → String
  | .notAMapping => fileName ++ " must contain a mapping at the root"
  | .delegationOrder => "orm.delegated_order must be one of: key-first, value-first"
  | .floorAboveCeiling => "confidence.floor must not exceed confidence.ceiling"
  | .malformed reason => "Failed to parse " ++ fileName ++ ": " ++ reason
  | .foreign error => error.text
  | .numberTooLarge => "int too large to convert to float"
  | .numberTooLong => digitLimitText ++ digitLimitAdvice

/-- Are the settings refused, and not merely unreadable, or a number in them? -/
def Fault.isRefusal : Fault → Bool
  | .notAMapping | .delegationOrder | .floorAboveCeiling | .malformed _ => true
  | .foreign error => error.kind == .settings
  | .numberTooLarge | .numberTooLong => false

/-- The fault of a text without a value. -/
def Fault.ofFailure : Failure → Fault
  | .malformed reason => .malformed reason
  | .foreign error => .foreign error

/-! ## Values -/

/-- The entries of a mapping. -/
abbrev Entries := List (Scalar × Tree)

/-- The value of a key; of several the last one counts. -/
def Entries.get? (entries : Entries) (name : String) : Option Tree :=
  (entries.reverse.find? fun (key, _) => key == .text name).map (·.2)

/-- The text of a whole number. -/
def wholeText (n : Int) : Except Fault String :=
  if n.natAbs < pow10 digitLimit then .ok (intText n) else .error .numberTooLong

/-- The text of a number or a text. -/
def scalarText? : Scalar → Except Fault (Option String)
  | .text s => .ok (some s)
  | .int n => return some (← wholeText n)
  | .float x => .ok (some x.text)
  | _ => .ok none

/-- A text, or a number as a text. -/
def textOf? : Option Tree → Except Fault (Option String)
  | some (.scalar s) => scalarText? s
  | _ => .ok none

/-- The text of an item of a list: a truth value counts too. -/
def itemText? : Tree → Except Fault (Option String)
  | .scalar (.bool b) => .ok (some (if b then "True" else "False"))
  | .scalar s => scalarText? s
  | _ => .ok none

/-- A list of texts: a single one, the bytes of a byte string, or the items of a list. -/
def textsOf : Option Tree → Except Fault (List String)
  | some (.scalar (.text s)) => .ok [s]
  | some (.scalar (.bytes bytes)) => .ok (bytes.map fun b => intText (b : Nat))
  | some (.sequence items) => return (← items.mapM itemText?).filterMap id
  | _ => .ok []

/-- A whole number, or a text that reads as one. -/
def wholeOf? : Option Tree → Option Int
  | some (.scalar (.int n)) => some n
  | some (.scalar (.text s)) => (readInt s).toOption
  | _ => none

/-- A floating-point number, a whole one, or a text that reads as one. -/
def floatOf? : Option Tree → Except Fault (Option Binary64)
  | some (.scalar (.float x)) => .ok (some x)
  | some (.scalar (.int n)) =>
    if (Binary64.ofInt n).isFinite then .ok (some (.ofInt n)) else .error .numberTooLarge
  | some (.scalar (.text s)) => .ok (readFloat? s)
  | _ => .ok none

/-- The entries of a mapping, none for any other value. -/
def entriesOf : Option Tree → Entries
  | some (.mapping entries) => entries
  | _ => []

/-! ## Settings -/

/-- The order of delegation, if one is given. -/
def delegationOf (entries : Entries) : Except Fault Model.DelegationOrder := do
  match ← textOf? (Entries.get? (entriesOf (Entries.get? entries "orm")) "delegated_order") with
  | none => return .keyFirst
  | some order =>
    if order == "key-first" || order == "value-first" then return .ofName order
    else throw .delegationOrder

/-- The limits: a limit is set by a whole number above zero. -/
def limitsOf (entries : Entries) : Limits := fun limit =>
  match wholeOf? (Entries.get? (entriesOf (Entries.get? entries "limits")) limit.name) with
  | some n => if 0 < n then n.toNat else limit.usual
  | none => limit.usual

/-- The bounds of the confidence. -/
def confidenceOf (entries : Entries) : Except Fault Confidence.Bounds := do
  let given := entriesOf (Entries.get? entries "confidence")
  let usual : Confidence.Bounds := {}
  let baseline ← floatOf? (Entries.get? given "baseline")
  let floor ← floatOf? (Entries.get? given "floor")
  let ceiling ← floatOf? (Entries.get? given "ceiling")
  let bounds : Confidence.Bounds :=
    ⟨baseline.getD usual.baseline, floor.getD usual.floor, ceiling.getD usual.ceiling⟩
  if bounds.ceiling.lt bounds.floor then throw .floorAboveCeiling
  return bounds

/-- The settings that the entries of a settings file give. -/
def ofEntries (entries : Entries) : Except Fault Settings := do
  let usual : Settings := {}
  let manifestName ← textOf? (Entries.get? entries "manifest_filename")
  let skippedFolders ← match Entries.get? entries "exclude_dirs" with
    | none => pure usual.skippedFolders
    | given => textsOf given
  let outputFolder ← textOf? (Entries.get? entries "output_dir")
  let surveys ← textsOf (Entries.get? (entriesOf (Entries.get? entries "extractors")) "enabled")
  let delegation ← delegationOf entries
  let confidence ← confidenceOf entries
  return {
    manifestName := match manifestName with
      | none | some "" => usual.manifestName
      | some name => name
    skippedFolders, outputFolder, surveys, delegation, confidence
    workers := max 1 ((wholeOf? (Entries.get? entries "workers")).getD 1).toNat
    limits := limitsOf entries }

/-- The settings that a text gives. A blank text and one that says nothing give the usual ones. -/
def ofText (load : Loader) (text : List Char) : Except Fault Settings := do
  if (Text.strip text).isEmpty then return {}
  match ← (load text).mapError .ofFailure with
  | .scalar .null => return {}
  | .mapping entries => ofEntries entries
  | _ => throw .notAMapping

end Settings

end AddonAtlas
