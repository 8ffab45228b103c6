import AddonAtlas.Proofs.Run.Load
import AddonAtlas.Proofs.Settings.Basic
import AddonAtlas.Yaml.Data

/-!
# Settings files that are not loaded

Whatever stands in a settings file, and whatever its reader makes of it, loading it ends with settings or
with a fault of its content (`loadSettings_of_file`): no path is missing, and nothing else on the disk
matters.  Most of these faults are refusals, which are reported as what they are.  The others are listed by
`Settings.Escapes`, and bytes that are not text are one more.
-/

namespace AddonAtlas.Run

open Files

theorem loadSettings_of_text {load : Yaml.Loader} {content : ByteArray} {text : List Char}
    (hdecode : Text.decode content.toList = .ok text) (place : Location) :
    (do
      let text ← (Text.decode content.toList).mapError Fault.undecodable
      let settings ← (Settings.ofText load (Text.unifyLineEnds text)).mapError .settings
      return ({ root := { root := "/", parts := place }, settings } : Loaded)) =
      match Settings.ofText load (Text.unifyLineEnds text) with
      | .ok settings => .ok { root := { root := "/", parts := place }, settings }
      | .error fault => .error (.settings fault) := by
  rw [hdecode]
  change ((Settings.ofText load (Text.unifyLineEnds text)).mapError Fault.settings >>= _) = _
  cases Settings.ofText load (Text.unifyLineEnds text) <;> rfl

/-- A settings file that is there is loaded or has a fault, whatever its reader does: its bytes are not
text, its settings are refused, or its fault is one of those that escape.  A text that its reader calls
malformed is refused. -/
theorem loadSettings_of_file (load : Yaml.Loader) {disk : Disk} (hsound : disk.top.isSound)
    {path folder : Path} (hasks : AsksFor disk path folder) {place : Location}
    {entries : List (String × Entry)} (hfolder : disk.find folder = .ok (place, .folder entries))
    {content : ByteArray}
    (hfile : disk.top.at? (place ++ [Settings.fileName]) = some (.file content)) :
    match Text.decode content.toList with
    | .error fault => loadSettings load disk path = .error (.undecodable fault)
    | .ok text =>
      ((∃ settings, loadSettings load disk path =
          .ok { root := { root := "/", parts := place }, settings }) ∨
        ∃ fault, loadSettings load disk path = .error (.settings fault) ∧
          (fault.isRefusal ∨ Settings.Escapes load (Text.unifyLineEnds text) fault)) ∧
      (∀ fault, Settings.Escapes load (Text.unifyLineEnds text) fault →
        loadSettings load disk path = .error (.settings fault) ∧ ¬ fault.isRefusal) ∧
      ∀ reason, Text.strip (Text.unifyLineEnds text) ≠ [] →
        load (Text.unifyLineEnds text) = .error (.malformed reason) →
        loadSettings load disk path = .error (.settings (.malformed reason)) := by
  rw [loadSettings_eq_of_file hsound hfolder load hasks hfile]
  cases hdecode : Text.decode content.toList with
  | error fault => rfl
  | ok text =>
    dsimp only
    rw [← hdecode, loadSettings_of_text hdecode]
    refine ⟨?_, fun fault hescapes => ?_, fun reason htext hload => ?_⟩
    · cases hread : Settings.ofText load (Text.unifyLineEnds text) with
      | ok settings => exact .inl ⟨settings, rfl⟩
      | error fault =>
        refine .inr ⟨fault, rfl, ?_⟩
        rw [or_iff_not_imp_left]
        exact fun hrefusal => (Settings.ofText_eq_error_iff hrefusal).1 hread
    · have hrefusal := hescapes.not_isRefusal
      rw [(Settings.ofText_eq_error_iff hrefusal).2 hescapes]
      exact ⟨rfl, hrefusal⟩
    · rw [Settings.ofText_eq load htext, hload]
      rfl

/-- The error that a reader has raised. -/
def raised? : Except Yaml.Failure Yaml.Tree → Option Foreign
  | .error (.foreign error) => some error
  | _ => none

theorem eq_foreign_of_raised? {result : Except Yaml.Failure Yaml.Tree} {error : Foreign}
    (h : raised? result = some error) : result = .error (.foreign error) := by
  rcases result with (reason | raised) | tree
  · cases h
  · rw [Option.some.inj h]
  · cases h

/-- A date that does not exist. -/
def sampleDate : String := "workers: 2024-13-45\n"

theorem loadSettings_of_file_sample :
    (settingsDisk sampleDate.toUTF8).top.isSound ∧
    AsksFor (settingsDisk sampleDate.toUTF8) settingsPath settingsPath ∧
    loadSettings Yaml.load (settingsDisk sampleDate.toUTF8) settingsPath =
      .error (.settings (.foreign ⟨.value, "month must be in 1..12"⟩)) := by
  have hsound := isSound_settingsDisk sampleDate.toUTF8
  have hasks := asksFor_settingsPath sampleDate.toUTF8
  have hdecode : Text.decode sampleDate.toUTF8.toList = .ok sampleDate.toList := by decide +kernel
  have hlines : Text.unifyLineEnds sampleDate.toList = sampleDate.toList := by decide +kernel
  have hload : Yaml.load sampleDate.toList =
      .error (.foreign ⟨.value, "month must be in 1..12"⟩) :=
    eq_foreign_of_raised? (by decide +kernel)
  have h := loadSettings_of_file Yaml.load hsound hasks (find_settingsPath _) (at?_settingsDisk _)
  rw [hdecode] at h
  dsimp only at h
  rw [hlines] at h
  refine ⟨hsound, hasks, (h.2.1 _ (.raised (by decide +kernel) hload (by decide))).1⟩

/-- Bytes that are not text are not refused. -/
theorem loadSettings_undecodable : ∃ content : ByteArray,
    (settingsDisk content).top.isSound ∧
    AsksFor (settingsDisk content) settingsPath settingsPath ∧
    (settingsDisk content).find settingsPath =
      .ok (["ws"], .folder [(Settings.fileName, .file content)]) ∧
    ∀ load : Yaml.Loader, ∃ fault,
      loadSettings load (settingsDisk content) settingsPath = .error fault ∧ ¬ fault.isSettings := by
  refine ⟨⟨#[0xff]⟩, isSound_settingsDisk _, asksFor_settingsPath _, find_settingsPath _,
    fun load => ?_⟩
  have hnone : (Text.decode (⟨#[0xff]⟩ : ByteArray).toList).toOption = none := by decide +kernel
  rw [loadSettings_settingsDisk]
  cases hdecode : Text.decode (⟨#[0xff]⟩ : ByteArray).toList with
  | error fault => exact ⟨.undecodable fault, rfl, Bool.false_ne_true⟩
  | ok text =>
    rw [hdecode] at hnone
    cases hnone

end AddonAtlas.Run
