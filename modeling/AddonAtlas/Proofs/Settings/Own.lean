import AddonAtlas.Proofs.Number.Whole
import AddonAtlas.Proofs.Settings.Basic

/-!
# What a setting depends on

A setting is read from the value of its own key (`read_given`), so that no other key makes a difference to
it, and every setting that is read can be used: there is a worker, and no limit is zero
(`ofEntries_settles`).
-/

namespace AddonAtlas.Settings

open Number Yaml

section Reading

variable {entries : Entries} {settings : Settings}

theorem read_confidenceOf {bounds : Confidence.Bounds} (h : confidenceOf entries = .ok bounds) :
    Setting.read (Setting.given entries .baseline) .baseline = .ok bounds.baseline ∧
      Setting.read (Setting.given entries .floor) .floor = .ok bounds.floor ∧
      Setting.read (Setting.given entries .ceiling) .ceiling = .ok bounds.ceiling := by
  unfold confidenceOf at h
  obtain ⟨baseline, hbaseline, h⟩ := bind_eq_ok_iff.1 h
  obtain ⟨floor, hfloor, h⟩ := bind_eq_ok_iff.1 h
  obtain ⟨ceiling, hceiling, h⟩ := bind_eq_ok_iff.1 h
  dsimp only at h
  split at h
  · cases h
  · obtain rfl := Except.ok.inj h
    exact ⟨congrArg (Functor.map _) hbaseline, congrArg (Functor.map _) hfloor,
      congrArg (Functor.map _) hceiling⟩

/-- A setting is read from the value of its own key. -/
theorem read_given (h : ofEntries entries = .ok settings) (setting : Setting) :
    Setting.read (Setting.given entries setting) setting = .ok (Setting.value settings setting) := by
  rw [ofEntries_eq] at h
  obtain ⟨name?, hname, h⟩ := bind_eq_ok_iff.1 h
  obtain ⟨folders, hfolders, h⟩ := bind_eq_ok_iff.1 h
  obtain ⟨output, houtput, h⟩ := bind_eq_ok_iff.1 h
  obtain ⟨surveys, hsurveys, h⟩ := bind_eq_ok_iff.1 h
  obtain ⟨delegation, hdelegation, h⟩ := bind_eq_ok_iff.1 h
  obtain ⟨bounds, hbounds, h⟩ := bind_eq_ok_iff.1 h
  obtain rfl := Except.ok.inj h
  obtain ⟨hbaseline, hfloor, hceiling⟩ := read_confidenceOf hbounds
  cases setting with
  | manifestName => exact congrArg (Functor.map nameOf) hname
  | skippedFolders => exact hfolders
  | workers => rfl
  | outputFolder => exact houtput
  | surveys => exact hsurveys
  | delegation => exact hdelegation
  | limit kind => rfl
  | baseline => exact hbaseline
  | floor => exact hfloor
  | ceiling => exact hceiling

/-- A key that is not the own one of a setting makes no difference to it. -/
theorem value_congr (h : ofEntries entries = .ok settings) {entries' : Entries} {settings' : Settings}
    (h' : ofEntries entries' = .ok settings') {setting : Setting}
    (hgiven : Setting.given entries' setting = Setting.given entries setting) :
    Setting.value settings' setting = Setting.value settings setting := by
  have hread := read_given h' setting
  rw [hgiven, read_given h setting] at hread
  exact (Except.ok.inj hread).symm

/-! ## Usable settings -/

theorem nameOf_ne_empty (name? : Option String) : nameOf name? ≠ "" := by
  unfold nameOf
  split
  · decide
  · decide
  · next name hname =>
    rintro rfl
    exact hname rfl

theorem manifestName_ne_empty (h : ofEntries entries = .ok settings) : settings.manifestName ≠ "" := by
  obtain ⟨name?, -, hname⟩ := map_eq_ok_iff.1 (read_given h .manifestName)
  change nameOf name? = settings.manifestName at hname
  rw [← hname]
  exact nameOf_ne_empty name?

theorem one_le_workers (h : ofEntries entries = .ok settings) : 1 ≤ settings.workers := by
  have hworkers := Except.ok.inj (read_given h .workers)
  change max 1 _ = settings.workers at hworkers
  rw [← hworkers]
  exact le_max_left 1 _

/-- The order of delegation is the one that is named, and without a name the first one. -/
theorem delegation_eq (h : ofEntries entries = .ok settings) :
    textOf? (Setting.given entries .delegation) = .ok none ∧ settings.delegation = .keyFirst ∨
      textOf? (Setting.given entries .delegation) = .ok (some settings.delegation.name) := by
  obtain ⟨order?, htext, horder⟩ := bind_eq_ok_iff.1 (read_given h .delegation)
  split at horder
  · exact .inl ⟨htext, (Except.ok.inj horder).symm⟩
  · next order =>
    split at horder
    · next hknown =>
      have hvalue : Model.DelegationOrder.ofName order = settings.delegation := Except.ok.inj horder
      rw [htext, ← hvalue]
      obtain rfl | rfl : order = "key-first" ∨ order = "value-first" := by simpa using hknown
      · exact .inr rfl
      · exact .inr rfl
    · cases horder

theorem one_le_usual (kind : Limit) : 1 ≤ kind.usual := by
  cases kind <;> decide

theorem limits_eq (h : ofEntries entries = .ok settings) (kind : Limit) :
    settings.limits kind = limitOf kind.usual (wholeOf? (Setting.given entries (.limit kind))) :=
  (Except.ok.inj (read_given h (.limit kind))).symm

theorem one_le_limits (h : ofEntries entries = .ok settings) (kind : Limit) :
    1 ≤ settings.limits kind := by
  rw [limits_eq h]
  unfold limitOf
  split
  · split
    · omega
    · exact one_le_usual kind
  · exact one_le_usual kind

/-! ## Limits -/

/-- A value counts as a whole number if it is one, or if it is the text of one and not too long. -/
inductive IsWhole : Tree → Int → Prop
  | int (n : Int) : IsWhole (.scalar (.int n)) n
  | text {text : String} {n : Int} {size : Nat} (htext : WholeText text.toList n size)
      (hsize : size ≤ digitLimit) : IsWhole (.scalar (.text text)) n

theorem wholeOf?_eq_some_iff {given : Option Tree} {n : Int} :
    wholeOf? given = some n ↔ ∃ tree ∈ given, IsWhole tree n := by
  constructor
  · intro h
    unfold wholeOf? at h
    split at h
    · obtain rfl := Option.some.inj h
      exact ⟨_, rfl, .int _⟩
    · next text =>
      cases hread : readInt text with
      | error fault => simp [hread, Except.toOption] at h
      | ok m =>
        obtain rfl : m = n := by simpa [hread, Except.toOption] using h
        obtain ⟨size, hsize, htext⟩ := readInt_eq_ok_iff.1 hread
        exact ⟨_, rfl, .text htext hsize⟩
    · cases h
  · rintro ⟨tree, rfl, htree⟩
    cases htree with
    | int n => rfl
    | text htext hsize =>
      rw [wholeOf?, readInt_eq_ok_iff.2 ⟨_, hsize, htext⟩]
      rfl

/-- A limit is the whole number above zero that its key gives. -/
theorem limits_of_isWhole (h : ofEntries entries = .ok settings) {kind : Limit} {n : Int}
    (hgiven : ∃ tree ∈ Setting.given entries (.limit kind), IsWhole tree n) (hpos : 0 < n) :
    (settings.limits kind : Int) = n := by
  rw [limits_eq h, wholeOf?_eq_some_iff.2 hgiven, limitOf, if_pos hpos]
  omega

/-- A limit whose key gives no whole number above zero is the usual one. -/
theorem limits_of_not_isWhole (h : ofEntries entries = .ok settings) {kind : Limit}
    (hgiven : ∀ tree ∈ Setting.given entries (.limit kind), ∀ n, IsWhole tree n → n ≤ 0) :
    settings.limits kind = kind.usual := by
  rw [limits_eq h]
  cases hwhole : wholeOf? (Setting.given entries (.limit kind)) with
  | none => rfl
  | some n =>
    obtain ⟨tree, htree, hn⟩ := wholeOf?_eq_some_iff.1 hwhole
    rw [limitOf, if_neg (Int.not_lt.2 (hgiven tree htree n hn))]

/-- Settings that are read can be used, and each depends on its own key alone: a limit is the whole number
above zero that its key gives and otherwise the usual one, and if a mapping gives the same for a setting
then it gives the same setting, whatever else is in it. -/
theorem ofEntries_settles (h : ofEntries entries = .ok settings) :
    1 ≤ settings.workers ∧ (∀ kind, 1 ≤ settings.limits kind) ∧ settings.manifestName ≠ "" ∧
      settings.delegation.name ∈ ["key-first", "value-first"] ∧
      (textOf? (Setting.given entries .delegation) = .ok none ∧ settings.delegation = .keyFirst ∨
        textOf? (Setting.given entries .delegation) = .ok (some settings.delegation.name)) ∧
      (∀ kind n, (∃ tree ∈ Setting.given entries (.limit kind), IsWhole tree n) → 0 < n →
        (settings.limits kind : Int) = n) ∧
      (∀ kind, (∀ tree ∈ Setting.given entries (.limit kind), ∀ n, IsWhole tree n → n ≤ 0) →
        settings.limits kind = kind.usual) ∧
      ∀ entries' settings', ofEntries entries' = .ok settings' → ∀ setting,
        Setting.given entries' setting = Setting.given entries setting →
        Setting.value settings' setting = Setting.value settings setting := by
  have horder : settings.delegation.name ∈ ["key-first", "value-first"] := by
    cases settings.delegation <;> decide
  exact ⟨one_le_workers h, one_le_limits h, manifestName_ne_empty h, horder, delegation_eq h,
    fun kind n hgiven hpos => limits_of_isWhole h hgiven hpos,
    fun kind hgiven => limits_of_not_isWhole h hgiven,
    fun entries' settings' h' setting hgiven => value_congr h h' hgiven⟩

end Reading

/-- A settings file with no worker, and limits of which one is a text and one is zero. -/
def sampleEntries : Entries := [
  (.text "workers", .scalar (.int 0)),
  (.text "limits", .mapping [
    (.text "routes", .scalar (.text " 1_2 ")), (.text "views", .scalar (.int 0))])]

/-- The text of a five behind as many zeros as a number may have digits. -/
def longFive : String := String.ofList (List.replicate digitLimit '0' ++ ['5'])

/-- A settings file that gives a limit as a text. -/
def limitEntries (text : String) : Entries := [
  (.text "limits", .mapping [(.text "routes", .scalar (.text text))])]

theorem ofEntries_settles_sample :
    ofEntries sampleEntries = .ok { limits := limitsOf sampleEntries } ∧
      limitsOf sampleEntries .routes = 12 ∧ limitsOf sampleEntries .views = Limit.usual .views ∧
      limitsOf (limitEntries " 1_2 ") .routes = limitsOf sampleEntries .routes := by
  have h : ofEntries sampleEntries = .ok { limits := limitsOf sampleEntries } := rfl
  have h' : ofEntries (limitEntries " 1_2 ") = .ok { limits := limitsOf (limitEntries " 1_2 ") } := rfl
  have hspace : ∀ c ∈ [' '], isMargin c = true := List.forall_mem_singleton.2 (by decide)
  have htext : WholeText " 1_2 ".toList 12 2 :=
    @WholeText.mk [' '] [] ['1', '_', '2'] [' '] false [1, 2] hspace hspace .none
      (.joined (by decide) (.last (by decide)))
  obtain ⟨-, -, -, -, -, hwhole, husual, hown⟩ := ofEntries_settles h
  have hgiven : Setting.given sampleEntries (.limit .routes) = some (.scalar (.text " 1_2 ")) := rfl
  have hroutes := hwhole .routes 12 ⟨_, hgiven, .text htext (by norm_num [digitLimit])⟩ (by norm_num)
  refine ⟨h, Int.ofNat.inj hroutes, husual .views ?_, hown _ _ h' (.limit .routes) rfl⟩
  intro tree htree n hn
  obtain rfl : .scalar (.int 0) = tree := Option.some.inj htree
  cases hn
  exact le_rfl

/-- A text with too many digits sets no limit, though it is the text of a whole number above zero. -/
theorem limits_of_long_text :
    WholeText longFive.toList 5 (digitLimit + 1) ∧ ∃ settings,
      ofEntries (limitEntries longFive) = .ok settings ∧
      Setting.given (limitEntries longFive) (.limit .routes) = some (.scalar (.text longFive)) ∧
      settings.limits .routes = Limit.usual .routes ∧ (settings.limits .routes : Int) ≠ 5 := by
  have htext : WholeText longFive.toList 5 (digitLimit + 1) := by
    rw [longFive, String.toList_ofList]
    exact @wholeText_zeros_append ['5'] [5] (.last (by decide)) digitLimit
  have hread : readInt longFive = .error (.tooLong (digitLimit + 1)) := by
    rw [readInt_of_wholeText htext, if_pos (Nat.lt_succ_self _)]
  obtain ⟨settings, h⟩ : ∃ settings, ofEntries (limitEntries longFive) = .ok settings := ⟨_, rfl⟩
  have hgiven : Setting.given (limitEntries longFive) (.limit .routes) =
    some (.scalar (.text longFive)) := rfl
  have hroutes : settings.limits .routes = Limit.usual .routes := by
    rw [limits_eq h, hgiven, wholeOf?, hread]
    rfl
  refine ⟨htext, settings, h, hgiven, hroutes, ?_⟩
  rw [hroutes]
  decide

end AddonAtlas.Settings
