import AddonAtlas.Proofs.Number.Sum
import AddonAtlas.Proofs.Outcome
import AddonAtlas.Settings.Basic

/-!
# Reading settings

Every setting has a key of its own, at the root of a settings file or in one of its sections, and is read
from the value of this key (`Setting.read`).  A mapping gives settings unless a whole number in it is too
long for a text, the order of delegation is unknown, a whole number is too large for a floating-point one,
or the floor of the confidence is above its ceiling; the first of these is its fault
(`ofEntries_eq_error_iff`).
-/

namespace AddonAtlas.Settings

open Number Yaml

/-- The settings that a settings file gives. -/
inductive Setting
  | manifestName
  | skippedFolders
  | workers
  | outputFolder
  | surveys
  | delegation
  | limit (kind : Limit)
  | baseline
  | floor
  | ceiling

namespace Setting

/-- The key of a setting, behind the key of the section in which it stands. -/
def keys : Setting → List String
  | manifestName => ["manifest_filename"]
  | skippedFolders => ["exclude_dirs"]
  | workers => ["workers"]
  | outputFolder => ["output_dir"]
  | surveys => ["extractors", "enabled"]
  | delegation => ["orm", "delegated_order"]
  | limit kind => ["limits", kind.name]
  | baseline => ["confidence", "baseline"]
  | floor => ["confidence", "floor"]
  | ceiling => ["confidence", "ceiling"]

/-- What the values of a setting are. -/
def Value : Setting → Type
  | manifestName => String
  | skippedFolders => List String
  | workers => Nat
  | outputFolder => Option String
  | surveys => List String
  | delegation => Model.DelegationOrder
  | limit _ => Nat
  | baseline => Binary64
  | floor => Binary64
  | ceiling => Binary64

/-- The value of a setting. -/
def value (settings : Settings) : (setting : Setting) → setting.Value
  | manifestName => settings.manifestName
  | skippedFolders => settings.skippedFolders
  | workers => settings.workers
  | outputFolder => settings.outputFolder
  | surveys => settings.surveys
  | delegation => settings.delegation
  | limit kind => settings.limits kind
  | baseline => settings.confidence.baseline
  | floor => settings.confidence.floor
  | ceiling => settings.confidence.ceiling

end Setting

/-- The value at the end of a row of keys, each in the mapping under the one before it. -/
def Entries.at? (entries : Entries) : List String → Option Tree
  | [] => none
  | [key] => Entries.get? entries key
  | key :: keys => Entries.at? (entriesOf (Entries.get? entries key)) keys

/-- What a settings file gives for a setting. -/
def Setting.given (entries : Entries) (setting : Setting) : Option Tree :=
  Entries.at? entries setting.keys

/-- The name of manifests that is given, unless it is empty. -/
def nameOf : Option String → String
  | none | some "" => ({} : Settings).manifestName
  | some name => name

/-- The folders to skip: the usual ones if nothing is given. -/
def foldersOf (given : Option Tree) : Except Fault (List String) :=
  if given.isNone then .ok ({} : Settings).skippedFolders else textsOf given

/-- The order of delegation that a value names. -/
def orderOf (given : Option Tree) : Except Fault Model.DelegationOrder := do
  match ← textOf? given with
  | none => return .keyFirst
  | some order =>
    if order == "key-first" || order == "value-first" then return .ofName order
    else throw .delegationOrder

/-- A limit is set by a whole number above zero. -/
def limitOf (usual : Nat) : Option Int → Nat
  | some n => if 0 < n then n.toNat else usual
  | none => usual

/-- How the value of a setting is read from what is given for it. -/
def Setting.read (given : Option Tree) : (setting : Setting) → Except Fault setting.Value
  | manifestName => nameOf <$> textOf? given
  | skippedFolders => foldersOf given
  | workers => Except.ok (max 1 ((wholeOf? given).getD 1).toNat : Nat)
  | outputFolder => textOf? given
  | surveys => textsOf given
  | delegation => orderOf given
  | limit kind => Except.ok (limitOf kind.usual (wholeOf? given))
  | baseline => (·.getD ({} : Confidence.Bounds).baseline) <$> floatOf? given
  | floor => (·.getD ({} : Confidence.Bounds).floor) <$> floatOf? given
  | ceiling => (·.getD ({} : Confidence.Bounds).ceiling) <$> floatOf? given

/-! ## Faults of one setting -/

/-- A whole number that is too long to be written. -/
def IsLong (n : Int) : Prop :=
  pow10 digitLimit ≤ n.natAbs

/-- A whole number that is too large for a floating-point number. -/
def IsLarge (n : Int) : Prop :=
  2 ^ 1024 - 2 ^ 970 ≤ n.natAbs

/-- A setting is read as a text or as a list of texts, and what is given is, or has in it, a whole number
that is too long. -/
def Setting.IsTooLong (given : Option Tree) : Setting → Prop
  | manifestName | outputFolder | delegation => ∃ n, given = some (.scalar (.int n)) ∧ IsLong n
  | skippedFolders | surveys =>
    ∃ items, given = some (.sequence items) ∧ ∃ n, .scalar (.int n) ∈ items ∧ IsLong n
  | _ => False

/-- A setting is read as a floating-point number, and what is given is a whole number too large for it. -/
def Setting.IsTooLarge (given : Option Tree) : Setting → Prop
  | baseline | floor | ceiling =>
    ∃ n, given = some (.scalar (.int n)) ∧ IsLarge n
  | _ => False

/-- What is given names no order of delegation. -/
def IsNoOrder (given : Option Tree) : Prop :=
  ∃ order, textOf? given = .ok (some order) ∧ order ∉ ["key-first", "value-first"]

section Faults

-- a power with thousands of digits is not to be unfolded
attribute [local irreducible] pow10

variable {given : Option Tree} {fault : Fault}

theorem wholeText_eq_error_iff {n : Int} :
    wholeText n = .error fault ↔ fault = .numberTooLong ∧ IsLong n := by
  unfold wholeText IsLong
  split
  · next hshort => simp [hshort]
  · next hlong => simp [Nat.le_of_not_lt hlong, eq_comm]

theorem scalarText?_eq_error_iff {s : Scalar} :
    scalarText? s = .error fault ↔ fault = .numberTooLong ∧ ∃ n, s = .int n ∧ IsLong n := by
  cases s with
  | int n =>
    rw [scalarText?, bind_eq_error_iff, wholeText_eq_error_iff]
    simp [pure_ne_error]
  | _ => simp [scalarText?]

theorem textOf?_eq_error_iff : textOf? given = .error fault ↔
    fault = .numberTooLong ∧ ∃ n, given = some (.scalar (.int n)) ∧ IsLong n := by
  unfold textOf?
  split
  · simp [scalarText?_eq_error_iff]
  · next hscalar => simp_all

theorem itemText?_eq_error_iff {tree : Tree} : itemText? tree = .error fault ↔
    fault = .numberTooLong ∧ ∃ n, tree = .scalar (.int n) ∧ IsLong n := by
  unfold itemText?
  split
  · simp
  · simp [scalarText?_eq_error_iff]
  · next hscalar => simp_all

theorem textsOf_eq_error_iff : textsOf given = .error fault ↔ fault = .numberTooLong ∧
    ∃ items, given = some (.sequence items) ∧ ∃ n, .scalar (.int n) ∈ items ∧ IsLong n := by
  unfold textsOf
  split
  · simp
  · simp
  · next items =>
    simp only [bind_eq_error_iff, pure_ne_error, and_false, exists_const, or_false,
      mapM_eq_error_iff_of_cause fun _ _ => itemText?_eq_error_iff]
    simp only [Option.some.injEq, Tree.sequence.injEq, exists_eq_left']
    refine and_congr_right fun _ => ⟨?_, ?_⟩
    · rintro ⟨_, hmem, n, rfl, hlong⟩
      exact ⟨n, hmem, hlong⟩
    · rintro ⟨n, hmem, hlong⟩
      exact ⟨_, hmem, n, rfl, hlong⟩
  · next hsequence => simp_all

theorem foldersOf_eq_error_iff : foldersOf given = .error fault ↔ fault = .numberTooLong ∧
    ∃ items, given = some (.sequence items) ∧ ∃ n, .scalar (.int n) ∈ items ∧ IsLong n := by
  unfold foldersOf
  cases given with
  | none => simp
  | some tree => exact textsOf_eq_error_iff

theorem orderOf_eq_error_iff : orderOf given = .error fault ↔
    fault = .numberTooLong ∧ (∃ n, given = some (.scalar (.int n)) ∧ IsLong n) ∨
      fault = .delegationOrder ∧ IsNoOrder given := by
  unfold orderOf IsNoOrder
  rw [bind_eq_error_iff, textOf?_eq_error_iff]
  refine or_congr_right ⟨?_, ?_⟩
  · rintro ⟨order?, htext, hfault⟩
    split at hfault
    · cases hfault
    · next order =>
      split at hfault
      · cases hfault
      · next hno => exact ⟨(Except.error.inj hfault).symm, order, htext, by simpa using hno⟩
  · rintro ⟨rfl, order, htext, hno⟩
    refine ⟨some order, htext, ?_⟩
    dsimp only
    rw [if_neg (by simpa using hno)]
    rfl

theorem isLarge_iff {n : Int} : IsLarge n ↔ ¬ (Binary64.ofInt n).isFinite := by
  rw [Binary64.isFinite_ofInt_iff, Nat.not_lt, IsLarge]

theorem floatOf?_eq_error_iff : floatOf? given = .error fault ↔
    fault = .numberTooLarge ∧ ∃ n, given = some (.scalar (.int n)) ∧ IsLarge n := by
  unfold floatOf?
  split
  · simp
  · next n =>
    split
    · next hfinite => simp [isLarge_iff, hfinite]
    · next hinfinite =>
      simp only [Except.error.injEq, Option.some.injEq, Tree.scalar.injEq, Scalar.int.injEq,
        exists_eq_left', isLarge_iff.2 hinfinite, and_true]
      exact eq_comm
  · simp
  · next hnumber => simp_all

end Faults

/-! ## Faults of a mapping -/

variable (entries : Entries)

theorem ofEntries_eq : ofEntries entries = do
    let name? ← textOf? (Entries.get? entries "manifest_filename")
    let folders ← foldersOf (Entries.get? entries "exclude_dirs")
    let output ← textOf? (Entries.get? entries "output_dir")
    let surveys ← textsOf (Entries.get? (entriesOf (Entries.get? entries "extractors")) "enabled")
    let delegation ← delegationOf entries
    let confidence ← confidenceOf entries
    return ⟨nameOf name?, folders, max 1 ((wholeOf? (Entries.get? entries "workers")).getD 1).toNat,
      output, delegation, surveys, limitsOf entries, confidence⟩ := by
  unfold ofEntries
  refine bind_congr fun name? => ?_
  cases Entries.get? entries "exclude_dirs" with
  | none => rfl
  | some given => rfl

theorem exists_isTooLong_iff :
    (∃ setting, Setting.IsTooLong (Setting.given entries setting) setting) ↔
      Setting.IsTooLong (Setting.given entries .manifestName) .manifestName ∨
      Setting.IsTooLong (Setting.given entries .skippedFolders) .skippedFolders ∨
      Setting.IsTooLong (Setting.given entries .outputFolder) .outputFolder ∨
      Setting.IsTooLong (Setting.given entries .surveys) .surveys ∨
      Setting.IsTooLong (Setting.given entries .delegation) .delegation := by
  constructor
  · rintro ⟨setting, hlong⟩
    cases setting <;> first | exact hlong.elim | tauto
  · rintro (h | h | h | h | h) <;> exact ⟨_, h⟩

theorem exists_isTooLarge_iff :
    (∃ setting, Setting.IsTooLarge (Setting.given entries setting) setting) ↔
      Setting.IsTooLarge (Setting.given entries .baseline) .baseline ∨
      Setting.IsTooLarge (Setting.given entries .floor) .floor ∨
      Setting.IsTooLarge (Setting.given entries .ceiling) .ceiling := by
  constructor
  · rintro ⟨setting, hlarge⟩
    cases setting <;> first | exact hlarge.elim | tauto
  · rintro (h | h | h) <;> exact ⟨_, h⟩

/-- The floor of the confidence that is read is above the ceiling that is read. -/
def IsFloorAbove : Prop :=
  ∃ floor ceiling : Binary64, Setting.read (Setting.given entries .floor) .floor = .ok floor ∧
    Setting.read (Setting.given entries .ceiling) .ceiling = .ok ceiling ∧ ceiling.lt floor

/-- Of two causes of one fault, the first one comes before the second one. -/
theorem fault_or_iff {F A B R : Prop} :
    F ∧ A ∨ ¬ A ∧ (F ∧ B ∨ ¬ B ∧ R) ↔ F ∧ (A ∨ B) ∨ ¬ (A ∨ B) ∧ R := by
  tauto

section Confidence

variable {entries} {floor? ceiling? : Option Binary64}

theorem isFloorAbove_iff (hfloor : floatOf? (Setting.given entries .floor) = .ok floor?)
    (hceiling : floatOf? (Setting.given entries .ceiling) = .ok ceiling?) :
    IsFloorAbove entries ↔ (ceiling?.getD ({} : Confidence.Bounds).ceiling).lt
      (floor?.getD ({} : Confidence.Bounds).floor) := by
  have hread : Setting.read (Setting.given entries .floor) .floor = .ok (floor?.getD _) :=
    congrArg (Functor.map _) hfloor
  have hread' : Setting.read (Setting.given entries .ceiling) .ceiling = .ok (ceiling?.getD _) :=
    congrArg (Functor.map _) hceiling
  constructor
  · rintro ⟨floor, ceiling, hfloor, hceiling, hlt⟩
    obtain rfl := Except.ok.inj (hread.symm.trans hfloor)
    obtain rfl := Except.ok.inj (hread'.symm.trans hceiling)
    exact hlt
  · intro hlt
    exact ⟨_, _, hread, hread', hlt⟩

end Confidence

/-- Bounds are let through if they are in order. -/
def checked (bounds : Confidence.Bounds) : Except Fault Confidence.Bounds :=
  if bounds.ceiling.lt bounds.floor then .error .floorAboveCeiling else .ok bounds

theorem checked_eq_error_iff {bounds : Confidence.Bounds} {fault : Fault} :
    checked bounds = .error fault ↔ fault = .floorAboveCeiling ∧ bounds.ceiling.lt bounds.floor := by
  unfold checked
  split
  · next hlt => simp [hlt, eq_comm]
  · next hlt => simp [hlt]

theorem confidenceOf_eq : confidenceOf entries = (do
    let baseline? ← floatOf? (Setting.given entries .baseline)
    let floor? ← floatOf? (Setting.given entries .floor)
    let ceiling? ← floatOf? (Setting.given entries .ceiling)
    checked ⟨baseline?.getD ({} : Confidence.Bounds).baseline,
      floor?.getD ({} : Confidence.Bounds).floor, ceiling?.getD ({} : Confidence.Bounds).ceiling⟩) :=
  rfl

theorem confidenceOf_eq_error_iff {fault : Fault} : confidenceOf entries = .error fault ↔
    fault = .numberTooLarge ∧
        (∃ setting, Setting.IsTooLarge (Setting.given entries setting) setting) ∨
      (∀ setting, ¬ Setting.IsTooLarge (Setting.given entries setting) setting) ∧
        fault = .floorAboveCeiling ∧ IsFloorAbove entries := by
  have hbaseline (fault : Fault) : floatOf? (Setting.given entries .baseline) = .error fault ↔
      fault = .numberTooLarge ∧ Setting.IsTooLarge (Setting.given entries .baseline) .baseline :=
    floatOf?_eq_error_iff
  have hfloor (fault : Fault) : floatOf? (Setting.given entries .floor) = .error fault ↔
      fault = .numberTooLarge ∧ Setting.IsTooLarge (Setting.given entries .floor) .floor :=
    floatOf?_eq_error_iff
  have hceiling (fault : Fault) : floatOf? (Setting.given entries .ceiling) = .error fault ↔
      fault = .numberTooLarge ∧ Setting.IsTooLarge (Setting.given entries .ceiling) .ceiling :=
    floatOf?_eq_error_iff
  have hbounds : (∃ floor?, floatOf? (Setting.given entries .floor) = .ok floor? ∧
      (fault = .numberTooLarge ∧ Setting.IsTooLarge (Setting.given entries .ceiling) .ceiling ∨
        ∃ ceiling?, floatOf? (Setting.given entries .ceiling) = .ok ceiling? ∧
          fault = .floorAboveCeiling ∧ (ceiling?.getD ({} : Confidence.Bounds).ceiling).lt
            (floor?.getD ({} : Confidence.Bounds).floor))) ↔
      ¬ Setting.IsTooLarge (Setting.given entries .floor) .floor ∧
        (fault = .numberTooLarge ∧ Setting.IsTooLarge (Setting.given entries .ceiling) .ceiling ∨
          ¬ Setting.IsTooLarge (Setting.given entries .ceiling) .ceiling ∧
            fault = .floorAboveCeiling ∧ IsFloorAbove entries) := by
    rw [← exists_eq_ok_iff hfloor, ← exists_eq_ok_iff hceiling]
    constructor
    · rintro ⟨floor?, hread, hlarge | ⟨ceiling?, hread', rfl, hlt⟩⟩
      · exact ⟨⟨_, hread⟩, .inl hlarge⟩
      · exact ⟨⟨_, hread⟩, .inr ⟨⟨_, hread'⟩, rfl, (isFloorAbove_iff hread hread').2 hlt⟩⟩
    · rintro ⟨⟨floor?, hread⟩, hlarge | ⟨⟨ceiling?, hread'⟩, rfl, habove⟩⟩
      · exact ⟨floor?, hread, .inl hlarge⟩
      · exact ⟨floor?, hread, .inr ⟨ceiling?, hread', rfl, (isFloorAbove_iff hread hread').1 habove⟩⟩
  rw [← not_exists, exists_isTooLarge_iff, confidenceOf_eq]
  simp only [bind_eq_error_iff, checked_eq_error_iff, hbaseline, hfloor, hceiling, hbounds,
    exists_and_right, exists_eq_ok_iff hbaseline, fault_or_iff]

theorem delegationOf_eq_error_iff {fault : Fault} : delegationOf entries = .error fault ↔
    fault = .numberTooLong ∧ Setting.IsTooLong (Setting.given entries .delegation) .delegation ∨
      fault = .delegationOrder ∧ IsNoOrder (Setting.given entries .delegation) :=
  orderOf_eq_error_iff

theorem exists_delegationOf_iff : (∃ order, delegationOf entries = .ok order) ↔
    ¬ Setting.IsTooLong (Setting.given entries .delegation) .delegation ∧
      ¬ IsNoOrder (Setting.given entries .delegation) := by
  rw [exists_eq_ok_iff_forall]
  simp only [ne_eq, delegationOf_eq_error_iff, not_or, not_and, forall_and, forall_eq]

theorem ofEntries_eq_error_iff {fault : Fault} : ofEntries entries = .error fault ↔
    fault = .numberTooLong ∧
        (∃ setting, Setting.IsTooLong (Setting.given entries setting) setting) ∨
      (∀ setting, ¬ Setting.IsTooLong (Setting.given entries setting) setting) ∧
        (fault = .delegationOrder ∧ IsNoOrder (Setting.given entries .delegation) ∨
          ¬ IsNoOrder (Setting.given entries .delegation) ∧ confidenceOf entries = .error fault) := by
  have hname (fault : Fault) : textOf? (Entries.get? entries "manifest_filename") = .error fault ↔
      fault = .numberTooLong ∧
        Setting.IsTooLong (Setting.given entries .manifestName) .manifestName :=
    textOf?_eq_error_iff
  have hfolders (fault : Fault) : foldersOf (Entries.get? entries "exclude_dirs") = .error fault ↔
      fault = .numberTooLong ∧
        Setting.IsTooLong (Setting.given entries .skippedFolders) .skippedFolders :=
    foldersOf_eq_error_iff
  have houtput (fault : Fault) : textOf? (Entries.get? entries "output_dir") = .error fault ↔
      fault = .numberTooLong ∧
        Setting.IsTooLong (Setting.given entries .outputFolder) .outputFolder :=
    textOf?_eq_error_iff
  have hsurveys (fault : Fault) :
      textsOf (Entries.get? (entriesOf (Entries.get? entries "extractors")) "enabled") = .error fault ↔
      fault = .numberTooLong ∧ Setting.IsTooLong (Setting.given entries .surveys) .surveys :=
    textsOf_eq_error_iff
  -- a text that is no order of delegation is not too long
  have hshort : IsNoOrder (Setting.given entries .delegation) →
      ¬ Setting.IsTooLong (Setting.given entries .delegation) .delegation := by
    rintro ⟨order, htext, -⟩ hlong
    cases htext.symm.trans (textOf?_eq_error_iff.2 ⟨rfl, hlong⟩)
  have hlast {F G A B R : Prop} (h : B → ¬ A) :
      (F ∧ A ∨ G ∧ B) ∨ (¬ A ∧ ¬ B) ∧ R ↔ F ∧ A ∨ ¬ A ∧ (G ∧ B ∨ ¬ B ∧ R) := by
    tauto
  rw [← not_exists, exists_isTooLong_iff, ofEntries_eq]
  simp only [bind_eq_error_iff, exists_and_right, hname, hfolders, houtput, hsurveys,
    exists_eq_ok_iff hname, exists_eq_ok_iff hfolders, exists_eq_ok_iff houtput,
    exists_eq_ok_iff hsurveys, delegationOf_eq_error_iff, exists_delegationOf_iff, pure_ne_error,
    and_false, exists_false, or_false, hlast hshort, fault_or_iff]

variable {entries}

theorem ofEntries_tooLong_iff : ofEntries entries = .error .numberTooLong ↔
    ∃ setting, Setting.IsTooLong (Setting.given entries setting) setting := by
  rw [ofEntries_eq_error_iff, confidenceOf_eq_error_iff]
  simp

theorem ofEntries_tooLarge_iff : ofEntries entries = .error .numberTooLarge ↔
    (∀ setting, ¬ Setting.IsTooLong (Setting.given entries setting) setting) ∧
      ¬ IsNoOrder (Setting.given entries .delegation) ∧
      ∃ setting, Setting.IsTooLarge (Setting.given entries setting) setting := by
  rw [ofEntries_eq_error_iff, confidenceOf_eq_error_iff]
  simp

/-- Bounds that are let through are in order. -/
theorem ordered_of_ofEntries {settings : Settings} (h : ofEntries entries = .ok settings) :
    settings.confidence.ceiling.lt settings.confidence.floor = false := by
  rw [ofEntries_eq] at h
  obtain ⟨name?, -, h⟩ := bind_eq_ok_iff.1 h
  obtain ⟨folders, -, h⟩ := bind_eq_ok_iff.1 h
  obtain ⟨output, -, h⟩ := bind_eq_ok_iff.1 h
  obtain ⟨surveys, -, h⟩ := bind_eq_ok_iff.1 h
  obtain ⟨delegation, -, h⟩ := bind_eq_ok_iff.1 h
  obtain ⟨bounds, hbounds, h⟩ := bind_eq_ok_iff.1 h
  obtain rfl := Except.ok.inj h
  rw [confidenceOf_eq] at hbounds
  obtain ⟨baseline?, -, hbounds⟩ := bind_eq_ok_iff.1 hbounds
  obtain ⟨floor?, -, hbounds⟩ := bind_eq_ok_iff.1 hbounds
  obtain ⟨ceiling?, -, hbounds⟩ := bind_eq_ok_iff.1 hbounds
  unfold checked at hbounds
  split at hbounds
  · cases hbounds
  · next hlt =>
    obtain rfl := Except.ok.inj hbounds
    exact Bool.eq_false_iff.2 hlt

/-! ## Faults of a text -/

section Text

variable {load : Loader} {text : List Char}

theorem ofText_eq_of_blank (load : Loader) (hblank : Text.strip text = []) :
    ofText load text = .ok {} := by
  rw [ofText, hblank]
  rfl

theorem ofText_eq (load : Loader) (htext : Text.strip text ≠ []) :
    ofText load text = match load text with
      | .error failure => .error (.ofFailure failure)
      | .ok (.scalar .null) => .ok {}
      | .ok (.mapping entries) => ofEntries entries
      | .ok _ => .error .notAMapping := by
  rw [ofText, List.isEmpty_eq_false_iff.2 htext]
  cases hload : load text with
  | error failure => rfl
  | ok tree =>
    cases tree with
    | scalar s => cases s <;> rfl
    | _ => rfl

/-- A fault of a text that is not a refusal: the reader raises an error that is not about settings, or a
whole number is too long or too large for the setting that it stands for. -/
inductive Escapes (load : Loader) (text : List Char) : Fault → Prop
  | raised {error : Foreign} (htext : Text.strip text ≠ [])
      (hload : load text = .error (.foreign error)) (hkind : error.kind ≠ .settings) :
      Escapes load text (.foreign error)
  | tooLong {entries : Entries} (htext : Text.strip text ≠ [])
      (hload : load text = .ok (.mapping entries)) (setting : Setting)
      (hlong : setting.IsTooLong (setting.given entries)) : Escapes load text .numberTooLong
  | tooLarge {entries : Entries} (htext : Text.strip text ≠ [])
      (hload : load text = .ok (.mapping entries))
      (hshort : ∀ setting : Setting, ¬ setting.IsTooLong (setting.given entries))
      (horder : ¬ IsNoOrder (Setting.given entries .delegation)) (setting : Setting)
      (hlarge : setting.IsTooLarge (setting.given entries)) : Escapes load text .numberTooLarge

theorem Escapes.not_isRefusal {fault : Fault} (h : Escapes load text fault) : ¬ fault.isRefusal := by
  cases h with
  | raised htext hload hkind => simpa [Fault.isRefusal] using hkind
  | tooLong | tooLarge => simp [Fault.isRefusal]

/-- The faults of a text are refusals, and those that escape. -/
theorem ofText_eq_error_iff {fault : Fault} (hrefusal : ¬ fault.isRefusal) :
    ofText load text = .error fault ↔ Escapes load text fault := by
  constructor
  · intro h
    by_cases htext : Text.strip text = []
    · cases (ofText_eq_of_blank load htext).symm.trans h
    · rw [ofText_eq load htext] at h
      split at h
      · next failure hload =>
        obtain rfl := Except.error.inj h
        cases failure with
        | malformed reason => exact absurd rfl hrefusal
        | foreign error => exact .raised htext hload fun hkind => hrefusal (beq_iff_eq.2 hkind)
      · cases h
      · next entries hload =>
        cases fault with
        | numberTooLong =>
          obtain ⟨setting, hlong⟩ := ofEntries_tooLong_iff.1 h
          exact .tooLong htext hload setting hlong
        | numberTooLarge =>
          obtain ⟨hshort, horder, setting, hlarge⟩ := ofEntries_tooLarge_iff.1 h
          exact .tooLarge htext hload hshort horder setting hlarge
        | foreign error =>
          rw [ofEntries_eq_error_iff, confidenceOf_eq_error_iff] at h
          simp at h
        | notAMapping | delegationOrder | floorAboveCeiling | malformed => exact absurd rfl hrefusal
      · obtain rfl := Except.error.inj h
        exact absurd rfl hrefusal
  · intro h
    cases h with
    | raised htext hload hkind =>
      rw [ofText_eq load htext, hload]
      rfl
    | tooLong htext hload setting hlong =>
      rw [ofText_eq load htext, hload]
      exact ofEntries_tooLong_iff.2 ⟨setting, hlong⟩
    | tooLarge htext hload hshort horder setting hlarge =>
      rw [ofText_eq load htext, hload]
      exact ofEntries_tooLarge_iff.2 ⟨hshort, horder, setting, hlarge⟩

theorem ordered_usual :
    ({} : Settings).confidence.ceiling.lt ({} : Settings).confidence.floor = false := by
  decide +kernel

theorem ordered_of_ofText {settings : Settings} (h : ofText load text = .ok settings) :
    settings.confidence.ceiling.lt settings.confidence.floor = false := by
  by_cases htext : Text.strip text = []
  · rw [ofText_eq_of_blank load htext] at h
    obtain rfl := Except.ok.inj h
    exact ordered_usual
  · rw [ofText_eq load htext] at h
    split at h
    · cases h
    · obtain rfl := Except.ok.inj h
      exact ordered_usual
    · exact ordered_of_ofEntries h
    · cases h

end Text

end AddonAtlas.Settings
