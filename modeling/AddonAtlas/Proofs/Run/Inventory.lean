import AddonAtlas.Proofs.Files.Resolve
import AddonAtlas.Proofs.Run.Report
import AddonAtlas.Proofs.Survey.Agree
import AddonAtlas.Proofs.Survey.Discover

/-!
# Taking an inventory

A run first finds out what to scan and where to write (`outcome_takeInventory_eq_ok_iff`), and then
scans the repository.  The scan yields one chart for each survey that is wanted, in order
(`meets_takeStock`), and it depends only on the files of the repository (`agree_takeStock`).
-/

namespace AddonAtlas

open Files

/-! ## Surveys that are wanted -/

namespace Survey

/-- Is a built-in survey wanted? -/
def BuiltIn.isEnabled (enabled : List String) (survey : BuiltIn) : Bool :=
  enabled.isEmpty || (enabled.map Text.lowerString).contains survey.name

theorem mapM_map_eq_ok {ε α β γ : Type} {f : β → Except ε γ} {g : α → β} {h : α → γ}
    (hf : ∀ a, f (g a) = .ok (h a)) (items : List α) : (items.map g).mapM f = .ok (items.map h) := by
  induction items with
  | nil => rfl
  | cons a items ih =>
    rw [List.map_cons, List.mapM_cons, ih, hf]
    rfl

/-- Without plugins, the built-in surveys that are wanted are run in their order. -/
theorem discover_builtIns {enabled : List String} {surveys : List Survey}
    (h : discover [] enabled = .ok surveys) :
    surveys = (builtIns.filter (·.isEnabled enabled)).map .builtIn := by
  change builtInRegistry.select enabled = .ok surveys at h
  have hchosen : (builtInRegistry.filter fun entry => isWanted enabled entry.1) =
      (builtIns.filter (·.isEnabled enabled)).map fun survey =>
        (survey.name, .builtIn survey) := List.filter_map
  rw [select_eq, hchosen] at h
  split at h
  · refine Except.ok.inj (h.symm.trans (mapM_map_eq_ok ?_ _))
    exact fun _ => rfl
  · cases h

theorem discover_all : discover [] [] = .ok (builtIns.map .builtIn) := by
  change builtInRegistry.select [] = _
  unfold Registry.select
  dsimp only
  rw [List.map_nil, List.filter_nil, Text.distinctSorted, List.mergeSort_nil]
  refine mapM_map_eq_ok ?_ builtIns
  exact fun _ => rfl

end Survey

namespace Run

open Addon Survey Scan

theorem chooseSurveys_eq_ok {setting : Setting} (hplugins : setting.plugins = [])
    (hsurveys : setting.surveys = none) {settings : Settings} {surveys : List Survey}
    (h : chooseSurveys setting settings = .ok surveys) :
    surveys = (builtIns.filter (·.isEnabled settings.surveys)).map .builtIn := by
  rw [chooseSurveys, hsurveys, hplugins] at h
  cases hfound : discover [] settings.surveys with
  | error fault =>
    rw [hfound] at h
    cases h
  | ok found =>
    rw [hfound] at h
    obtain rfl : found = surveys := Except.ok.inj h
    exact discover_builtIns hfound

/-! ## Modules -/

variable {disk disk' : Disk} {scope : Scope} {limits : Settings.Limits} {repository : Path}
  {E : Fault → Prop}

theorem has_of_hasFolder {path : Path} (h : disk.hasFolder path) : disk.has path := by
  obtain ⟨place, entries, hfind⟩ := Disk.hasFolder_iff.1 h
  exact Disk.has_iff.2 ⟨place, .folder entries, hfind⟩

theorem yields_manifests (h : disk.hasFolder repository) :
    Yields disk (manifests scope repository) (disk.listFiles scope.skips
      (·.name == scope.manifestName) scope.manifests repository) := by
  refine yields_read.bind ?_
  rw [if_pos (has_of_hasFolder h), if_pos h]
  exact yields_listFiles.bind (yields_say.bind (yields_pure _))

theorem meets_manifests (h : disk.hasFolder repository ∨ ∀ fault, E (.input fault)) :
    Meets disk (manifests scope repository) (· = disk.listFiles scope.skips
      (·.name == scope.manifestName) scope.manifests repository) E := by
  by_cases hfolder : disk.hasFolder repository
  · exact (yields_manifests hfolder).meets
  · have hinput := h.resolve_left hfolder
    refine meets_read.bind fun found hfound => ?_
    rw [hfound, if_neg hfolder]
    split
    · exact meets_throw_bind (hinput _)
    · exact meets_throw_bind (hinput _)

theorem yields_sampleExtensions {folder : Path} :
    Yields disk (sampleExtensions scope limits folder) (extensionStats (limits .topExtensions)
      (disk.listFiles scope.skips (fun _ => true) (min (limits .extensionSampleFiles) scope.files)
        folder)) :=
  yields_listFiles.bind (yields_pure _)

theorem meets_moduleOf {manifest : Path} (hclean : manifest.isClean ∨ ∀ fault, E (.system fault))
    (hlimits : ∀ limit,
      (∀ path, readRefusal? disk path (limits limit) = none) ∨ ∀ refusal, E (.read refusal)) :
    Meets disk (moduleOf scope limits repository manifest) (·.folder = manifest.parent) E := by
  refine (meets_readText ((hlimits .manifestChars).imp_left fun hchars => hchars _) hclean).bind
    fun content _ => ?_
  refine yields_sampleExtensions.meets.bind fun stats _ => ?_
  exact meets_pure rfl

/-- The modules of a repository are few, and their folders are those of the manifests. -/
theorem meets_collect (hsound : disk.top.isSound ∨ ∀ fault, E (.system fault))
    (hlimits : ∀ limit,
      (∀ path, readRefusal? disk path (limits limit) = none) ∨ ∀ refusal, E (.read refusal))
    (h : disk.hasFolder repository ∨ ∀ fault, E (.input fault)) :
    Meets disk (collect scope limits repository) (fun found =>
      found.modules.length ≤ scope.manifests ∧ ∀ m ∈ found.modules, ∃ manifest ∈ disk.listFiles
        scope.skips (·.name == scope.manifestName) scope.manifests repository,
        m.folder = manifest.parent) E := by
  refine (meets_manifests h).bind fun manifests hmanifests => ?_
  subst hmanifests
  refine (meets_mapM fun manifest hmanifest => meets_moduleOf
    (hsound.imp_left fun hsound => Disk.isClean_of_mem_listFiles hsound hmanifest) hlimits).bind
    fun modules hmodules => ?_
  refine meets_say.bind fun _ _ => meets_pure ⟨?_, fun m hm => ?_⟩
  · change (Text.sortOn _ modules).length ≤ _
    rw [Text.length_sortOn, ← hmodules.length_eq]
    exact Disk.length_listFiles_le ..
  · have hm : m ∈ modules := (Text.sortOn_perm _ modules).mem_iff.1 hm
    exact exists_of_forall₂ hmodules hm

/-- The manifests of a repository stand below it. -/
theorem exists_names_of_mem_listFiles (hsound : disk.top.isSound) {skips : String → Bool}
    {wanted : Path → Bool} {limit : Int} {root path : Path}
    (h : path ∈ disk.listFiles skips wanted limit root) :
    ∃ names ∈ disk.filesBelow skips root, path = root.below names ∧
      path.parent = root.below names.dropLast ∧ ∀ name ∈ names, Entry.isUsable name := by
  obtain ⟨names, hnames, rfl⟩ := Disk.mem_listFiles h
  obtain ⟨hne, husable⟩ := Disk.names_of_mem_filesBelow hsound hnames
  refine ⟨names, hnames, rfl, ?_, husable⟩
  simp [Path.parent, Path.below, List.dropLast_append_of_ne_nil hne]

theorem agree_collect (hsound : disk.top.isSound) (h : disk.hasFolder repository)
    (h' : disk'.hasFolder repository) (hsame : SameFiles disk disk' repository) :
    Agree disk disk' (collect scope limits repository) (collect scope limits repository) := by
  have hmanifests' : Yields disk' (manifests scope repository) (disk.listFiles scope.skips
      (·.name == scope.manifestName) scope.manifests repository) := by
    rw [hsame.listFiles]
    exact yields_manifests h'
  refine ((yields_manifests h).agree hmanifests').bind_meets (E := fun _ => True)
    (yields_manifests h).meets fun found hfound => ?_
  subst hfound
  refine (agree_mapM fun manifest hmanifest => ?_).bind fun modules => ?_
  · obtain ⟨names, hnames, rfl, hparent, husable⟩ :=
      exists_names_of_mem_listFiles hsound hmanifest
    have hread := hsame.read scope.skips [] (by simp)
    rw [Disk.below_nil] at hread
    refine (agree_readText ⟨hread names hnames, by rw [hsame.grants]⟩ _).bind fun content => ?_
    refine (yields_sampleExtensions.agree ?_).bind fun stats => agree_pure _
    have hbelow := hsame.below fun name hname => husable name (List.mem_of_mem_dropLast hname)
    rw [hparent, hbelow.listFiles]
    exact yields_sampleExtensions
  · exact agree_say.bind fun _ => agree_pure _

/-! ## The scan of a repository -/

/-- What a scan of a repository yields: a chart for each built-in survey that is wanted, in order, and no
more modules than are looked for. -/
structure Inventory.IsOf (inventory : Inventory) (request : Request) (workspace repository : Path)
    (settings : Settings) (folder : Path) : Prop where
  workspace_eq : inventory.workspace = workspace
  repository_eq : inventory.repository = repository
  settings_eq : inventory.settings = settings
  outputFolder_eq : inventory.outputFolder = folder
  charts : List.Forall₂ (IsChartOf (contextOf request settings repository inventory.modules))
    (builtIns.filter (·.isEnabled settings.surveys)) inventory.charts
  few : inventory.modules.modules.length ≤ settings.limits .manifestWalkMaxFiles

variable {setting setting' : Setting} {request : Request} {settings : Settings}
  {workspace folder : Path}

theorem meets_takeStock (hplugins : setting.plugins = []) (hsurveys : setting.surveys = none)
    (hchoose : ∀ fault, chooseSurveys setting settings = .error fault → E fault)
    (hsound : disk.top.isSound ∨ ∀ fault, E (.system fault))
    (hlimits : ∀ limit, (∀ path, readRefusal? disk path (settings.limits limit) = none) ∨
      ∀ refusal, E (.read refusal))
    (hrepository : disk.hasFolder repository ∨ ∀ fault, E (.input fault)) :
    Meets disk (takeStock setting request workspace repository settings folder)
      (·.IsOf request workspace repository settings folder) E := by
  refine meets_say.bind fun _ _ => ?_
  refine (meets_collect hsound hlimits hrepository).staged.bind fun modules hmodules => ?_
  have hlift : Meets disk (Scan.lift id (chooseSurveys setting settings))
      (· = (builtIns.filter (·.isEnabled settings.surveys)).map .builtIn) E :=
    meets_lift (fun surveys h => chooseSurveys_eq_ok hplugins hsurveys h) hchoose
  refine hlift.bind fun surveys hchosen => ?_
  subst hchosen
  rw [List.mapM_map]
  refine (meets_mapM fun survey _ => (meets_run hsound hlimits survey).staged).bind
    fun charts hcharts => ?_
  intro notes
  exact ⟨rfl, rfl, rfl, rfl, hcharts, hmodules.1⟩

/-- An inventory, however it was taken, is one of what the settings ask for. -/
theorem isOf_of_takeStock {notes after : Notes} {inventory : Inventory}
    (hplugins : setting.plugins = []) (hsurveys : setting.surveys = none)
    (h : outcome (takeStock setting request workspace repository settings folder disk) notes =
      (.ok inventory, after)) : inventory.IsOf request workspace repository settings folder := by
  have hstock : Meets disk (takeStock setting request workspace repository settings folder)
      (·.IsOf request workspace repository settings folder) fun _ => True :=
    meets_takeStock hplugins hsurveys (fun _ _ => trivial) (Or.inr fun _ => trivial)
      (fun _ => Or.inr fun _ => trivial) (Or.inr fun _ => trivial)
  exact hstock.ok h

theorem agree_takeStock (hplugins : setting.plugins = []) (hsurveys : setting.surveys = none)
    (hplugins' : setting'.plugins = []) (hsurveys' : setting'.surveys = none)
    (hsound : disk.top.isSound) (h : disk.hasFolder repository)
    (h' : disk'.hasFolder repository) (hsame : SameFiles disk disk' repository) :
    Agree disk disk' (takeStock setting request workspace repository settings folder)
      (takeStock setting' request workspace repository settings folder) := by
  have hchoose : chooseSurveys setting' settings = chooseSurveys setting settings := by
    rw [chooseSurveys, chooseSurveys, hsurveys, hsurveys', hplugins, hplugins']
  refine agree_say.bind fun _ => ?_
  refine (agree_collect hsound h h' hsame).staged.bind_meets (E := fun _ => True)
    (meets_collect (Or.inr fun _ => trivial) (fun _ => Or.inr fun _ => trivial) (Or.inl h)).staged
    fun modules hmodules => ?_
  rw [hchoose]
  have hlift : Meets disk (Scan.lift id (chooseSurveys setting settings))
      (· = (builtIns.filter (·.isEnabled settings.surveys)).map .builtIn) fun _ => True :=
    meets_lift (fun surveys h => chooseSurveys_eq_ok hplugins hsurveys h) fun _ _ => trivial
  refine (agree_lift _).bind_meets hlift fun surveys hchosen => ?_
  subst hchosen
  rw [List.mapM_map, List.mapM_map]
  refine (agree_mapM fun survey _ => ?_).bind fun charts => ?_
  · refine (agree_runWith readsAlike_oneByOne (fun m hm => ?_) survey).staged
    obtain ⟨manifest, hmanifest, hfolder⟩ := hmodules.2 m hm
    obtain ⟨names, -, -, hparent, husable⟩ := exists_names_of_mem_listFiles hsound hmanifest
    rw [hfolder, hparent]
    exact hsame.below fun name hname => husable name (List.mem_of_mem_dropLast hname)
  · refine agree_get_bind fun notes notes' hnotes => ?_
    rw [hnotes]
    exact agree_pure _

end Run

end AddonAtlas
