import AddonAtlas.Proofs.Run.Draft
import AddonAtlas.Proofs.Run.Load
import AddonAtlas.Yaml.Data

/-!
# Runs that succeed

With the built-in surveys and the usual settings, nothing that stands in the files of a repository makes a
run fail (`run_completes`): the scan yields an inventory (`exists_inventory`), every report of it can be
drawn up, and the reports can be written if the way to their folder is free (`IsFreeWay`).
-/

namespace AddonAtlas.Run

open Addon Files Files.Entry Scan Survey

variable {setting : Setting} {request : Request} {session : Session} {disk : Disk}

/-- The way from a place to the folder for the reports is free: a folder, or nothing, stands at every
place on it, and neither a folder nor a link is in the place of a report's file, nor does the way lead
through it. -/
structure IsFreeWay (disk : Disk) (location : Location) (names : List String) : Prop where
  isOpen : IsOpenWay disk.top location names
  takes : ∀ name ∈ reportNames, ∀ ending ∈ endings,
    TakesFile disk (plainLocation location names ++ [name ++ ending])
  apart : ∀ name ∈ reportNames, ∀ ending ∈ endings,
    ¬ IsPassed location names (plainLocation location names ++ [name ++ ending])

/-- The way is free below a folder in which its first name is missing, if all its names are proper
ones. -/
theorem isFreeWay_of_missing {location : Location} {name : String} {rest : List String}
    (hfolder : disk.top.nodeAt location = some .folder)
    (hmissing : disk.top.nodeAt (location ++ [name]) = none)
    (husable : ∀ n ∈ name :: rest, isUsable n) : IsFreeWay disk location (name :: rest) := by
  have hbelow (names : List String) : disk.top.nodeAt (location ++ name :: names) = none := by
    rw [nodeAt_eq_none_iff] at hmissing ⊢
    rw [← List.singleton_append, ← List.append_assoc, at?_append, hmissing]
    rfl
  have hplain (size : Nat) : plainLocation location ((name :: rest).take size) =
      location ++ (name :: rest).take size :=
    plainLocation_of_usable (fun n hn => husable n (List.mem_of_mem_take hn)) location
  refine ⟨fun size _ => ?_, fun file _ ending _ => Or.inl ?_, ?_⟩
  · rw [hplain]
    cases size with
    | zero =>
      rw [List.take_zero, List.append_nil]
      exact Or.inr hfolder
    | succ size =>
      rw [List.take_succ_cons]
      exact Or.inl (hbelow _)
  · rw [plainLocation_of_usable husable, List.append_assoc]
    exact hbelow _
  · -- the places on the way are not longer than that of the last folder
    rintro file - ending - ⟨size, hsize, heq⟩
    rw [hplain, plainLocation_of_usable husable] at heq
    have hlength := congrArg List.length heq
    simp only [List.length_append, List.length_singleton, List.length_take] at hlength
    omega

/-- Reports can be written where the way is free. -/
theorem IsFreeWay.exists_inscribes {start : Path} {location : Location} {names : List String}
    {entries : List (String × Entry)} (h : IsFreeWay disk location names)
    (hstart : disk.find start = .ok (location, .folder entries))
    (hclean : (start.below names).isClean) {drafts : List Draft} (hne : drafts ≠ [])
    (hnames : ∀ draft ∈ drafts, draft.name ∈ reportNames)
    (hpages : ∀ draft ∈ drafts, ∃ page, Report.page draft.fields = .ok page) :
    ∃ after, Inscribes (start.below names) drafts disk after := by
  have hsize : names.length ≤ (start.below names).parts.length := by simp [Path.below]
  obtain ⟨made, hmade, -, ⟨entries', hfind⟩, hrest⟩ :=
    Disk.outcome_foldersFrom_below hstart h.isOpen hclean hsize
  obtain ⟨after, hafter⟩ := Run.exists_inscribes hfind hnames hpages
    fun draft hdraft ending hending => by
      have hname := hnames draft hdraft
      rcases hrest (plainLocation location names ++ [draft.name ++ ending]) with hsame | ⟨-, hpassed⟩
      · unfold TakesFile
        rw [hsame]
        exact h.takes _ hname ending hending
      · exact absurd hpassed (h.apart _ hname ending hending)
  obtain ⟨draft, rest, rfl⟩ := List.exists_cons_of_ne_nil hne
  exact ⟨after, hafter.of_made hmade⟩

/-- With the usual settings a repository can be scanned. -/
theorem exists_inventory (hsound : disk.top.isSound)
    (hgrants : ∀ path (limit : Settings.Limit), disk.grants path limit.usual)
    (hplugins : setting.plugins = []) (hsurveys : setting.surveys = none)
    {workspace repository folder : Path} {notes middle : Notes} {loaded : Loaded}
    (hworkspace : (do disk.resolve (← disk.expand (.ofText request.workspace))) = .ok workspace)
    (hrepository : outcome (repositoryOf workspace request.repositoryName request.repositoryPath disk)
      notes = (.ok repository, middle))
    (hloaded : loadSettings setting.load disk workspace = .ok loaded)
    (husual : loaded.settings = {})
    (hfolder : outputFolder disk workspace (nonEmpty? request.outputFolder) = .ok folder) :
    ∃ inventory after, outcome (takeInventory setting request disk) notes = (.ok inventory, after) ∧
      inventory.IsOf request workspace repository {} folder := by
  have hplace : disk.hasFolder repository := by
    obtain ⟨-, path, hchoice, hresolve⟩ := meets_repositoryOf.ok hrepository
    exact hasFolder_of_resolve hsound hchoice.hasFolder hresolve
  have hchoose : chooseSurveys setting {} = .ok (builtIns.map .builtIn) := by
    have hall : discover [] ({} : Settings).surveys = .ok (builtIns.map .builtIn) := discover_all
    rw [chooseSurveys, hsurveys, hplugins]
    dsimp only
    rw [hall]
    rfl
  have hstock : Meets disk (takeStock setting request workspace repository {} folder)
      (·.IsOf request workspace repository {} folder) fun _ => False := by
    refine meets_takeStock hplugins hsurveys (fun fault hfault => ?_) (Or.inl hsound)
      (fun limit => Or.inl ?_) (Or.inl hplace)
    · rw [hchoose] at hfault
      cases hfault
    · exact fun path => readRefusal?_eq_none_iff.2
        ⟨(usual_le_largestLimit limit).trans_lt (by decide), hgrants path limit⟩
  obtain ⟨inventory, after, hinventory, hisOf⟩ := hstock.exists_ok middle
  refine ⟨inventory, after, outcome_takeInventory_eq_ok_iff.2 ⟨workspace, repository, middle, loaded,
    folder, hworkspace, hrepository, hloaded, ?_, ?_⟩, hisOf⟩
  · rw [husual]
    simpa [nonEmpty?] using hfolder
  · rw [husual]
    exact hinventory

/-- A run succeeds that has taken its inventory and whose way is free. -/
theorem exists_outcome_run {inventory : Inventory} {notes : Notes} {workspace repository : Path}
    {settings : Settings} (hlimits : settings.limits = Settings.Limit.usual)
    {start : Path} {location : Location} {names : List String} {entries : List (String × Entry)}
    (htaken : outcome (takeInventory setting request session.disk) session.notes =
      (.ok inventory, notes))
    (hinventory : inventory.IsOf request workspace repository settings (start.below names))
    (hstart : session.disk.find start = .ok (location, .folder entries))
    (hclean : (start.below names).isClean) (hway : IsFreeWay session.disk location names) :
    ∃ result after, outcome (run setting request) session = (.ok result, after) := by
  obtain ⟨all, hall⟩ := hinventory.exists_drafts hlimits setting.time
  have hnames : all.map (·.name) = reportsOf settings :=
    (Inventory.names_of_drafts hall).trans hinventory.names
  have hreports : ∀ draft ∈ all, draft.name ∈ reportNames := fun draft hdraft =>
    (reportsOf_sublist settings).subset (hnames ▸ List.mem_map_of_mem hdraft)
  rcases List.eq_nil_or_concat all with rfl | ⟨drafts, last, rfl⟩
  · cases hnames
  · rw [List.concat_eq_append] at hall hreports
    obtain ⟨after, hafter⟩ := hway.exists_inscribes hstart hclean (by simp) hreports
      (hinventory.exists_page hall)
    obtain ⟨rest, hrun⟩ := outcome_run_eq_ok_iff.2 ⟨inventory, notes, drafts, last, htaken, hall,
      hinventory.outputFolder_eq ▸ hafter, rfl⟩
    exact ⟨_, _, hrun⟩

/-- A disk with one workspace and one repository, which holds a module and other entries. -/
def sampleDisk (others : List (String × Entry)) : Disk where
  top := .folder [("ws", .folder [("repositories", .folder [("odoo", .folder (
    ("sale", .folder [
      ("__manifest__.py", .file "\x7b'depends': ['base'".toUTF8),
      ("models", .folder [("broken.py", .file ⟨#[0xff, 0x00]⟩)])]) :: others))])])]

def sampleSetting : Setting where
  time := "2024-05-01T10:00:00+00:00"
  elapsed := "0.00"
  load := Yaml.load

def sampleWorkspace : Path where
  root := "/"
  parts := ["ws"]

def sampleRepository : Path := sampleWorkspace.below ["repositories", "odoo"]

def sampleOutput : List String := ["context-engineering", "sources", "odoo-business-model"]

theorem isSound_sample : (sampleDisk []).top.isSound := by
  simp only [sampleDisk, isSound, areSound, isUsable, String.contains_char_eq]
  decide +kernel

theorem isUsable_sample : ∀ name ∈ Settings.fileName :: sampleOutput, isUsable name := by
  simp only [isUsable, String.contains_char_eq]
  decide +kernel

theorem isClean_sample :
    ∀ names ∈ [sampleOutput, ["repositories", "odoo", "out"], [Settings.fileName]],
    (sampleWorkspace.below names).isClean := by
  simp only [Path.isClean, String.contains_char_eq]
  decide +kernel

section Sample

variable {others : List (String × Entry)} (hsound : (sampleDisk others).top.isSound)

include hsound

theorem find_sample {place : Location} {entries : List (String × Entry)}
    (hat : (sampleDisk others).top.at? place = some (.folder entries)) :
    (sampleDisk others).find { root := "/", parts := place } = .ok (place, .folder entries) :=
  Disk.find_place hsound rfl hat (by simp)

theorem workspace_sample :
    (do (sampleDisk others).resolve (← (sampleDisk others).expand (.ofText "/ws"))) =
      .ok sampleWorkspace := by
  have hpath : Path.ofText "/ws" = sampleWorkspace := by decide +kernel
  rw [hpath, Disk.expand_of_absolute _ rfl]
  exact Disk.resolve_of_find hsound (find_sample hsound rfl)

theorem yields_sample : Yields (sampleDisk others) (repositoryOf sampleWorkspace "odoo" none)
    sampleRepository := by
  have hall : sampleWorkspace.child "repositories" = sampleWorkspace.below ["repositories"] := by
    decide +kernel
  have hnamed : (sampleWorkspace.child "repositories").child "odoo" = sampleRepository := by
    decide +kernel
  have hfolder {place : Location} {entries : List (String × Entry)}
      (hat : (sampleDisk others).top.at? place = some (.folder entries)) :
      (sampleDisk others).hasFolder { root := "/", parts := place } :=
    Disk.hasFolder_iff.2 ⟨place, entries, find_sample hsound hat⟩
  have hchoice : Chooses (sampleDisk others) sampleWorkspace "odoo" none sampleRepository := by
    rw [← hnamed]
    refine .named ?_ ?_
    · rw [hall]
      exact hfolder rfl
    · rw [hnamed]
      exact hfolder rfl
  exact yields_repositoryOf (has_of_hasFolder (hfolder rfl)) hchoice
    (Disk.resolve_of_find hsound (find_sample hsound rfl))

theorem loadSettings_sample :
    loadSettings sampleSetting.load (sampleDisk others) sampleWorkspace =
      .ok { root := sampleWorkspace } :=
  loadSettings_of_missing _ hsound rfl (find_sample hsound rfl) rfl

omit hsound

theorem outputFolder_sample : outputFolder (sampleDisk others) sampleWorkspace none =
    .ok (sampleWorkspace.below sampleOutput) := by
  have hpath : sampleWorkspace.child usualOutputFolder = sampleWorkspace.below sampleOutput := by
    decide +kernel
  rw [outputFolder, hpath]

end Sample

end AddonAtlas.Run
