import AddonAtlas.Proofs.Files.Plain
import AddonAtlas.Proofs.Run.Total

/-!
# What a run leaves alone

A run that fails before it writes leaves the disk as it was.  A run with the built-in surveys that
succeeds has made its folder, with those above it that were missing, and written two files for each of
its reports; nothing else has changed, unless a link stands in the place of a report
(`run_changes_only_reports`).  How such a run has come to its result is said by `Account`.
-/

namespace AddonAtlas.Run

open Addon Files Files.Entry Scan

variable {setting : Setting} {request : Request} {session : Session} {result : Outcome}
  {after : Disk} {loaded : Loaded} {inventory : Inventory} {drafts : List Draft}

/-! ## How a run came to its result -/

/-- A run with the built-in surveys has loaded settings, taken an inventory, drawn up reports and
written them. -/
structure Account (setting : Setting) (request : Request) (session : Session) (result : Outcome)
    (after : Disk) (loaded : Loaded) (inventory : Inventory) (drafts : List Draft) : Prop where
  workspace : (do session.disk.resolve (← session.disk.expand (.ofText request.workspace))) =
    .ok result.workspace
  loads : loadSettings setting.load session.disk result.workspace = .ok loaded
  folder : outputFolder session.disk result.workspace (nonEmpty? request.outputFolder <|>
    nonEmpty? loaded.settings.outputFolder) = .ok result.outputFolder
  stock : ∃ middle notes, outcome (repositoryOf result.workspace request.repositoryName
      request.repositoryPath session.disk) session.notes = (.ok result.repository, middle) ∧
    outcome (takeStock setting request result.workspace result.repository loaded.settings
      result.outputFolder session.disk) middle = (.ok inventory, notes)
  isOf : inventory.IsOf request result.workspace result.repository loaded.settings
    result.outputFolder
  drawn : inventory.reports.mapM (inventory.draft setting.time) = .ok drafts
  inscribes : Inscribes result.outputFolder drafts session.disk after
  yields : ∃ first last, drafts = first ++ [last] ∧ result = inventory.result first last

theorem exists_account (hplugins : setting.plugins = []) (hsurveys : setting.surveys = none)
    {after : Session} (h : outcome (run setting request) session = (.ok result, after)) :
    ∃ loaded inventory drafts, Account setting request session result after.disk loaded inventory
      drafts := by
  obtain ⟨inventory, notes, first, last, htaken, hdrawn, hinscribes, rfl⟩ :=
    outcome_run_eq_ok_iff.1 ⟨after.notes, h⟩
  obtain ⟨workspace, repository, middle, loaded, folder, hworkspace, hrepository, hloads, hfolder,
    hstock⟩ := outcome_takeInventory_eq_ok_iff.1 htaken
  have hisOf := isOf_of_takeStock hplugins hsurveys hstock
  obtain rfl := hisOf.workspace_eq
  obtain rfl := hisOf.repository_eq
  obtain rfl := hisOf.outputFolder_eq
  exact ⟨loaded, inventory, first ++ [last], hworkspace, hloads, hfolder,
    ⟨middle, notes, hrepository, hstock⟩, hisOf, hdrawn, hinscribes, first, last, rfl, rfl⟩

namespace Account

section

variable (h : Account setting request session result after loaded inventory drafts)

include h

theorem names : drafts.map (·.name) = reportsOf loaded.settings :=
  (Inventory.names_of_drafts h.drawn).trans h.isOf.names

theorem mem_reportNames : ∀ draft ∈ drafts, draft.name ∈ reportNames := by
  intro draft hdraft
  apply (reportsOf_sublist loaded.settings).subset
  rw [← h.names]
  exact List.mem_map_of_mem hdraft

theorem nodup_names : (drafts.map (·.name)).Nodup := by
  rw [h.names]
  exact nodup_reportsOf loaded.settings

theorem ne_nil : drafts ≠ [] := by
  obtain ⟨first, last, rfl, -⟩ := h.yields
  simp

theorem artifacts : result.artifacts = drafts.map (·.artifact result.outputFolder) := by
  obtain ⟨first, last, rfl, rfl⟩ := h.yields
  rfl

end

end Account

/-! ## Paths from the top -/

theorem isAbsolute_join {path : Path} (h : path.isAbsolute) (other : Path) :
    (path.join other).isAbsolute := by
  unfold Path.join
  by_cases hother : other.isAbsolute
  · rw [if_pos hother]
    exact hother
  · rw [if_neg hother]
    exact h

theorem isAbsolute_outputFolder {disk : Disk} {workspace folder : Path} {given : Option String}
    (hworkspace : workspace.isAbsolute) (h : outputFolder disk workspace given = .ok folder) :
    folder.isAbsolute := by
  unfold outputFolder at h
  cases given with
  | none =>
    obtain rfl := Except.ok.inj h
    exact isAbsolute_join hworkspace _
  | some text =>
    cases hexpand : disk.expand (.ofText text) with
    | error fault => simp [hexpand, bind, Except.bind] at h
    | ok path =>
      simp only [hexpand, bind, Except.bind, pure, Except.pure, Except.ok.injEq] at h
      exact h ▸ isAbsolute_join hworkspace path

theorem exists_resolve_of_workspace {disk : Disk} {text : String} {workspace : Path}
    (h : (do disk.resolve (← disk.expand (.ofText text))) = .ok workspace) :
    ∃ path, disk.expand (.ofText text) = .ok path ∧ disk.resolve path = .ok workspace := by
  cases hexpand : disk.expand (.ofText text) with
  | error fault => simp [hexpand, bind, Except.bind] at h
  | ok path => exact ⟨path, rfl, by simpa [hexpand, bind, Except.bind] using h⟩

theorem Account.isAbsolute
    (h : Account setting request session result after loaded inventory drafts) :
    result.outputFolder.isAbsolute := by
  obtain ⟨path, -, hresolve⟩ := exists_resolve_of_workspace h.workspace
  have hworkspace : result.workspace.isAbsolute := by
    rw [Disk.resolve_eq_ok hresolve]
    rfl
  exact isAbsolute_outputFolder hworkspace h.folder

/-! ## Plain disks -/

theorem Inscribes.isPlain {folder : Path} {disk : Disk} (h : Inscribes folder drafts disk after)
    (hplain : disk.IsPlain) (habsolute : folder.isAbsolute)
    (hnames : ∀ draft ∈ drafts, draft.name ∈ reportNames) : after.IsPlain := by
  induction h with
  | nil disk => exact hplain
  | @cons draft rest disk made filled full after page hfolder hdata htext hpage hrest ih =>
    have hname := hnames draft List.mem_cons_self
    rw [artifact_data hname] at hdata
    rw [artifact_page hname] at hpage
    have hgains := Change.gains_folders hfolder
    have hgrows := Disk.grows_writeFile_below habsolute hgains.found hdata
    have hfilled := (hplain.foldersFrom hfolder).writeFile_below hgains.found
      (isUsable_file _ hname _ (by decide)) hdata
    have hfull := hfilled.writeFile_below (Disk.hasFolder_grows hgrows hgains.found)
      (isUsable_file _ hname _ (by decide)) hpage
    exact ih hfull fun other hother => hnames other (List.mem_cons_of_mem _ hother)

theorem Account.isPlain (h : Account setting request session result after loaded inventory drafts)
    (hplain : session.disk.IsPlain) : after.IsPlain :=
  h.inscribes.isPlain hplain h.isAbsolute h.mem_reportNames

/-! ## What has changed -/

/-- Where no link stands at the path of a name in a folder, none stands in the place of that name. -/
theorem linkless_of_spot {disk : Disk} {folder : Path} {names : List String}
    (husable : ∀ name ∈ names, isUsable name)
    (h : ∀ name ∈ names, ∀ place target,
      disk.spot (folder.below [name]) false ≠ .ok (.taken place (.link target))) :
    disk.Linkless folder names := by
  intro place entries hfind name hname target hnode
  have hclean := Path.isClean_below_of_isUsable (Disk.find_eq_ok_iff_follow.1 hfind).1
    (List.forall_mem_singleton.2 (husable name hname))
  obtain ⟨hdot, hup, -⟩ := isUsable_iff.1 (husable name hname)
  obtain ⟨links, hspot⟩ := Disk.exists_spot_below hfind
  apply h name hname (place ++ [name]) target
  rw [hspot false [name] (by simp) hclean]
  exact follow_last_link hdot hup (nodeAt_eq_link_iff.1 hnode)

theorem mem_files {file : String} : file ∈ (drafts.flatMap (·.files)).map (·.1) ↔
    ∃ name ∈ drafts.map (·.name), ∃ ending ∈ endings, file = name ++ ending := by
  simp only [List.map_flatMap, List.mem_flatMap, Draft.mem_map_files]
  simp only [List.mem_map, exists_exists_and_eq_and]

/-- The files that a run has written fill its folder. -/
theorem Account.fills (h : Account setting request session result after loaded inventory drafts)
    (hlinkless : after.Linkless result.outputFolder ((drafts.flatMap (·.files)).map (·.1))) :
    Disk.Fills session.disk after result.outputFolder (drafts.flatMap (·.files)) :=
  h.inscribes.fills h.isAbsolute h.mem_reportNames h.nodup_names hlinkless
    fun hnil => absurd hnil h.ne_nil

section

variable (h : Account setting request session result after loaded inventory drafts)
  (hfills : Disk.Fills session.disk after result.outputFolder (drafts.flatMap (·.files)))
  {place : Location} {entries : List (String × Entry)}
  (hfind : after.find result.outputFolder = .ok (place, .folder entries))

include h hfills hfind

theorem Account.exists_report {name : String} (hname : name ∈ reportsOf loaded.settings)
    {ending : String} (hending : ending ∈ endings) :
    ∃ content, after.top.at? (place ++ [name ++ ending]) = some (.file content) := by
  rw [← h.names] at hname
  obtain ⟨file, hfile, heq⟩ := List.mem_map.1 (mem_files.2 ⟨name, hname, ending, hending, rfl⟩)
  exact ⟨file.2, heq ▸ hfills.written hfind file hfile⟩

/-- Only the reports, and folders on the way to them, are new. -/
theorem Account.spares {location : Location} (hlocation : ∀ name ∈ reportsOf loaded.settings,
    ∀ ending ∈ endings, location ≠ place ++ [name ++ ending]) :
    Disk.Spares session.disk after result.outputFolder location := by
  refine hfills.rest hfind location fun file hfile => ?_
  obtain ⟨name, hname, ending, hending, heq⟩ := mem_files.1 (List.mem_map_of_mem hfile)
  rw [h.names] at hname
  rw [heq]
  exact hlocation name hname ending hending

end

/-- The report files of a name in a folder. -/
def artifactOf (folder : Path) (name : String) : Artifact :=
  ⟨name, folder.child (name ++ ".json"), folder.child (name ++ ".md")⟩

/-- A run that fails for want of input, of proper settings or of surveys leaves the disk as it was.  A
run that succeeds with the built-in surveys, and whose reports are not written through links, makes the
folder of the reports, with those above it, and the two files of each report that the settings ask for,
and changes nothing else. -/
theorem run_changes_only_reports :
    (∀ fault after, outcome (run setting request) session = (.error fault, after) →
      (fault.isInput ∨ fault.isSettings ∨ ∃ cause, fault = .survey cause) →
        after.disk = session.disk) ∧
    ∀ result after, setting.plugins = [] → setting.surveys = none →
      outcome (run setting request) session = (.ok result, after) →
      (∀ artifact ∈ result.artifacts, ∀ path ∈ [artifact.data, artifact.page], ∀ place target,
        after.disk.spot path false ≠ .ok (.taken place (.link target))) →
      ∃ loaded, loadSettings setting.load session.disk result.workspace = .ok loaded ∧
        result.artifacts = (reportsOf loaded.settings).map (artifactOf result.outputFolder) ∧
        ∃ place entries, after.disk.find result.outputFolder = .ok (place, .folder entries) ∧
          (∀ name ∈ reportsOf loaded.settings, ∀ ending ∈ endings,
            ∃ content, after.disk.top.at? (place ++ [name ++ ending]) = some (.file content)) ∧
          ∀ location, (∀ name ∈ reportsOf loaded.settings, ∀ ending ∈ endings,
              location ≠ place ++ [name ++ ending]) →
            Disk.Spares session.disk after.disk result.outputFolder location := by
  refine ⟨fun fault after h hfault => disk_of_outcome_run_error h ?_, ?_⟩
  · rcases hfault with hinput | hsettings | ⟨cause, rfl⟩
    · cases fault <;> first | rfl | cases hinput
    · cases fault <;> first | rfl | cases hsettings
    · rfl
  · intro result after hplugins hsurveys h hspots
    obtain ⟨loaded, inventory, drafts, haccount⟩ := exists_account hplugins hsurveys h
    have hartifacts : result.artifacts =
        (reportsOf loaded.settings).map (artifactOf result.outputFolder) := by
      rw [haccount.artifacts, ← haccount.names, List.map_map]
      rfl
    have hreport := (reportsOf_sublist loaded.settings).subset
    have hlinkless : after.disk.Linkless result.outputFolder
        ((drafts.flatMap (·.files)).map (·.1)) := by
      refine linkless_of_spot (fun file hfile => ?_) fun file hfile place target => ?_
      · obtain ⟨name, hname, ending, hending, rfl⟩ := mem_files.1 hfile
        rw [haccount.names] at hname
        exact isUsable_file name (hreport hname) ending hending
      · obtain ⟨name, hname, ending, hending, rfl⟩ := mem_files.1 hfile
        rw [haccount.names] at hname
        rw [← child_file (hreport hname) hending]
        refine hspots (artifactOf result.outputFolder name) ?_ _ ?_ place target
        · rw [hartifacts]
          exact List.mem_map_of_mem hname
        · rcases List.mem_pair.1 hending with rfl | rfl <;> simp [artifactOf]
    have hfills := haccount.fills hlinkless
    obtain ⟨place, entries, hfind⟩ := Disk.hasFolder_iff.1 hfills.found
    exact ⟨loaded, haccount.loads, hartifacts, place, entries, hfind,
      fun name hname ending hending => haccount.exists_report hfills hfind hname hending,
      fun location hlocation => haccount.spares hfills hfind hlocation⟩

theorem isPlain_sample : (sampleDisk []).IsPlain :=
  ⟨isSound_sample, linkFree_of_linksIn (by decide)⟩

/-- A run whose folder is missing in the workspace. -/
theorem exists_run_sample {given : Option String} {name : String} {rest : List String}
    (hfolder : outputFolder (sampleDisk []) sampleWorkspace (nonEmpty? given) =
      .ok (sampleWorkspace.below (name :: rest)))
    (hclean : (sampleWorkspace.below (name :: rest)).isClean)
    (husable : ∀ n ∈ name :: rest, isUsable n)
    (hmissing : (sampleDisk []).top.nodeAt ["ws", name] = none) : ∃ result after,
    outcome (run sampleSetting { workspace := "/ws", outputFolder := given })
      { disk := sampleDisk [] } = (.ok result, after) := by
  have hsound := isSound_sample
  obtain ⟨middle, hrepository, -⟩ := yields_sample hsound {}
  obtain ⟨inventory, notes, htaken, hinventory⟩ : ∃ inventory after,
      outcome (takeInventory sampleSetting { workspace := "/ws", outputFolder := given }
        (sampleDisk [])) {} = (.ok inventory, after) ∧ inventory.IsOf _ _ _ _ _ :=
    exists_inventory hsound (fun _ _ => rfl) rfl rfl (workspace_sample hsound) hrepository
      (loadSettings_sample hsound) rfl hfolder
  exact exists_outcome_run rfl htaken hinventory (find_sample hsound rfl) hclean
    (isFreeWay_of_missing rfl hmissing husable)

theorem exists_usualRun_sample : ∃ result after,
    outcome (run sampleSetting { workspace := "/ws" }) { disk := sampleDisk [] } =
      (.ok result, after) :=
  exists_run_sample outputFolder_sample (isClean_sample _ (by decide))
    (fun name hname => isUsable_sample name (List.mem_cons_of_mem _ hname)) rfl

theorem run_changes_only_reports_sample : ∃ result after,
    outcome (run sampleSetting { workspace := "/ws" }) { disk := sampleDisk [] } =
      (.ok result, after) ∧
    (∀ artifact ∈ result.artifacts, ∀ path ∈ [artifact.data, artifact.page], ∀ place target,
      after.disk.spot path false ≠ .ok (.taken place (.link target))) ∧
    result.artifacts.map (·.name) = ["module-map", "orm-model-map", "security-map", "ui-map",
      "route-map", "expert-summary"] := by
  obtain ⟨result, after, hrun⟩ := exists_usualRun_sample
  obtain ⟨loaded, inventory, drafts, haccount⟩ := exists_account rfl rfl hrun
  have hspots (path : Path) (place : Location) (target : String) :
      after.disk.spot path false ≠ .ok (.taken place (.link target)) :=
    (haccount.isPlain isPlain_sample).spot_ne_link path false place target
  obtain ⟨loaded', hloads, hartifacts, -⟩ := run_changes_only_reports.2 result after rfl rfl hrun
    fun _ _ path _ => hspots path
  refine ⟨result, after, hrun, fun _ _ path _ => hspots path, ?_⟩
  have hworkspace := haccount.workspace
  rw [workspace_sample isSound_sample, Except.ok.injEq] at hworkspace
  rw [← hworkspace, loadSettings_sample isSound_sample, Except.ok.injEq] at hloads
  have hnames : reportsOf {} = ["module-map", "orm-model-map", "security-map", "ui-map", "route-map",
      "expert-summary"] := by decide
  rw [hartifacts, ← hloads, hnames]
  rfl

end AddonAtlas.Run
