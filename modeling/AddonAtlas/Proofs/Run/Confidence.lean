import AddonAtlas.Proofs.Confidence
import AddonAtlas.Proofs.Run.Load
import AddonAtlas.Proofs.Settings.Basic
import AddonAtlas.Yaml.Data

/-!
# Scores between their bounds

Settings are refused if the floor of the score is above its ceiling (`ordered_of_loadSettings`).  So the
score under settings that were loaded lies between the two, rounded as it is (`score_between`), if both
are numbers.  A floor or a ceiling that is not a number is above nothing, and is let through: with such a
floor there is no score that is a number, and with such a ceiling the score is the floor.
-/

namespace AddonAtlas

open Number

/-! ## Bounds that are not numbers -/

namespace Confidence

variable {bounds : Bounds}

/-- Nothing is below a ceiling that is not a number, and such a ceiling is not above the floor. -/
theorem Bounds.clamp_of_ceiling (hceiling : bounds.ceiling = .nan) (x : Binary64) :
    bounds.clamp x = bounds.floor := by
  have hlt (y : Binary64) : y.lt .nan = false := by cases y <;> rfl
  rw [clamp, hceiling, hlt]
  simp [hlt]

/-- Nothing is above a floor that is not a number. -/
theorem Bounds.clamp_of_floor (hfloor : bounds.floor = .nan) (x : Binary64) :
    bounds.clamp x = .nan := by
  simp [clamp, hfloor, Binary64.lt]

end Confidence

namespace Run

open Confidence

theorem ordered_of_loadSettings {load : Yaml.Loader} {disk : Files.Disk} {path : Files.Path}
    {loaded : Loaded} (h : loadSettings load disk path = .ok loaded) :
    loaded.settings.confidence.ceiling.lt loaded.settings.confidence.floor = false := by
  rw [loadSettings] at h
  obtain ⟨file, -, h⟩ := bind_eq_ok_iff.1 h
  obtain ⟨root, -, h⟩ := bind_eq_ok_iff.1 h
  split at h
  · obtain ⟨bytes, -, h⟩ := bind_eq_ok_iff.1 h
    obtain ⟨text, -, h⟩ := bind_eq_ok_iff.1 h
    obtain ⟨settings, hread, h⟩ := bind_eq_ok_iff.1 h
    obtain rfl := Except.ok.inj h
    exact Settings.ordered_of_ofText (mapError_eq_ok_iff.1 hread)
  · obtain rfl := Except.ok.inj h
    exact Settings.ordered_usual

/-- A score under settings that were loaded lies between their bounds, if these are numbers. -/
theorem score_between {load : Yaml.Loader} {disk : Files.Disk} {path : Files.Path} {loaded : Loaded}
    (hload : loadSettings load disk path = .ok loaded) {metrics : Metrics}
    (hmetrics : ∀ entry ∈ metrics, |entry.2| < 10 ^ 15) :
    ∃ x, score loaded.settings.confidence weights metrics = .ok x ∧
      (loaded.settings.confidence.floor ≠ .nan → loaded.settings.confidence.ceiling ≠ .nan →
        (loaded.settings.confidence.floor.roundPlaces 2).AtMost x ∧
          x.AtMost (loaded.settings.confidence.ceiling.roundPlaces 2)) ∧
      (loaded.settings.confidence.floor = .nan → x = .nan) ∧
      (loaded.settings.confidence.ceiling = .nan →
        x = loaded.settings.confidence.floor.roundPlaces 2) := by
  have horder := ordered_of_loadSettings hload
  generalize loaded.settings.confidence = bounds at horder ⊢
  obtain ⟨sum, hsum⟩ := exists_total (inRange_of_counts hmetrics) weights (fun _ => id) bounds.baseline
  refine ⟨(bounds.clamp sum).roundPlaces 2, by rw [score, hsum]; rfl, ?_, ?_, ?_⟩
  · intro hfloor hceiling
    obtain ⟨hlow, hhigh⟩ := Bounds.clamp_between hfloor hceiling horder sum
    exact ⟨hlow.roundPlaces 2, hhigh.roundPlaces 2⟩
  · intro hfloor
    rw [Bounds.clamp_of_floor hfloor]
    rfl
  · intro hceiling
    rw [Bounds.clamp_of_ceiling hceiling]

/-- The settings of a text, as they are loaded, have these bounds of the score. -/
theorem exists_loaded {text : String} {bounds : Bounds}
    (h : ((loadSettings Yaml.load (settingsDisk text.toUTF8) settingsPath).map
      (·.settings.confidence)).toOption = some bounds) :
    ∃ loaded, loadSettings Yaml.load (settingsDisk text.toUTF8) settingsPath = .ok loaded ∧
      loaded.settings.confidence = bounds := by
  cases hload : loadSettings Yaml.load (settingsDisk text.toUTF8) settingsPath with
  | error fault =>
    rw [hload] at h
    cases h
  | ok loaded =>
    rw [hload] at h
    exact ⟨loaded, rfl, Option.some.inj h⟩

theorem score_between_sample : ∃ loaded,
    loadSettings Yaml.load (settingsDisk "confidence:\n  floor: 0.7\n".toUTF8) settingsPath =
      .ok loaded ∧
    ∃ x, score loaded.settings.confidence weights [("modules", 12), ("views", -3)] = .ok x ∧
      ((Binary64.ofRatio false 7 10).roundPlaces 2).AtMost x ∧
      x.AtMost ((Binary64.ofRatio false 97 100).roundPlaces 2) := by
  obtain ⟨loaded, hload, hbounds⟩ : ∃ loaded,
      loadSettings Yaml.load (settingsDisk "confidence:\n  floor: 0.7\n".toUTF8) settingsPath =
        .ok loaded ∧
      loaded.settings.confidence = { floor := .ofRatio false 7 10 } := by
    refine exists_loaded ?_
    rw [loadSettings_settingsDisk]
    decide +kernel
  have hmetrics : ∀ entry ∈ ([("modules", 12), ("views", -3)] : Metrics), |entry.2| < 10 ^ 15 := by
    decide
  obtain ⟨x, hx, hbetween, -⟩ := score_between hload hmetrics
  rw [hbounds] at hbetween
  exact ⟨loaded, hload, x, hx, hbetween (by decide +kernel) (by decide +kernel)⟩

/-- A floor that is not a number is let through, and the score is not a number either. -/
theorem score_not_between : ∃ loaded,
    loadSettings Yaml.load (settingsDisk "confidence:\n  floor: .nan\n".toUTF8) settingsPath =
      .ok loaded ∧
    score loaded.settings.confidence weights [] = .ok .nan := by
  obtain ⟨loaded, hload, hbounds⟩ : ∃ loaded,
      loadSettings Yaml.load (settingsDisk "confidence:\n  floor: .nan\n".toUTF8) settingsPath =
        .ok loaded ∧
      loaded.settings.confidence = { floor := .nan } := by
    refine exists_loaded ?_
    rw [loadSettings_settingsDisk]
    decide +kernel
  refine ⟨loaded, hload, ?_⟩
  rw [hbounds]
  decide +kernel

end Run

end AddonAtlas
