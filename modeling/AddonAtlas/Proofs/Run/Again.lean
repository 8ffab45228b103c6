import AddonAtlas.Proofs.Run.Frame

/-!
# Runs that are made again

On a disk without links, a run that has succeeded succeeds again, with the same result, and writes the
same reports but for the time in them (`run_again`).  The reports of the first run must not stand in the
repository, and the folders that it made must not change what the second run is asked for
(`run_again_blocked` is a run whose folder stands in the place of the settings file).
-/

namespace AddonAtlas.Run

open Addon Files Files.Entry Scan Survey

variable {setting : Setting} {request : Request} {disk after : Disk} {result : Outcome}
  {loaded : Loaded} {inventory : Inventory} {drafts : List Draft}

namespace Account

section

variable (h : Account setting request { disk } result after loaded inventory drafts)

include h

theorem grows : Disk.Grows disk after :=
  h.inscribes.grows h.isAbsolute h.mem_reportNames

/-- The repository was chosen, and is a place on the disk. -/
theorem chosen : disk.has result.workspace ∧ ∃ path,
    Chooses disk result.workspace request.repositoryName (nonEmpty? request.repositoryPath) path ∧
      disk.resolve path = .ok result.repository := by
  obtain ⟨middle, notes, hrepository, -⟩ := h.stock
  exact meets_repositoryOf.ok hrepository

variable (hplain : disk.IsPlain)

include hplain

theorem fills_of_plain :
    Disk.Fills disk after result.outputFolder (drafts.flatMap (·.files)) :=
  h.fills fun _ _ _ _ _ target => (h.isPlain hplain).linkFree _ target

/-- No folder was made but on the way to the reports. -/
theorem spares_folder {location : Location} (hnode : after.top.nodeAt location = some .folder) :
    Disk.Spares disk after result.outputFolder location := by
  have hfills := h.fills_of_plain hplain
  obtain ⟨place, entries, hfind⟩ := Disk.hasFolder_iff.1 hfills.found
  refine h.spares hfills hfind fun name hname ending hending heq => ?_
  obtain ⟨content, hfile⟩ := h.exists_report hfills hfind hname hending
  rw [heq, nodeAt_eq_file_iff.2 hfile] at hnode
  cases hnode

/-! ## What the second run is asked for -/

theorem loads_again (hsettings : ∀ file, settingsFile disk result.workspace = .ok file →
    ∀ place, disk.Makes result.outputFolder place → ¬ disk.Passes file place) :
    loadSettings setting.load after result.workspace = .ok loaded := by
  obtain ⟨path, -, hresolve⟩ := exists_resolve_of_workspace h.workspace
  have habsolute : result.workspace.isAbsolute := by
    rw [Disk.resolve_eq_ok hresolve]
    rfl
  have hfills := h.fills_of_plain hplain
  obtain ⟨place, entries, hfind⟩ := Disk.hasFolder_iff.1 hfills.found
  have hother : ∀ name ∈ reportNames, ∀ ending ∈ endings, Settings.fileName ≠ name ++ ending := by
    decide
  -- no report has the name of the settings file
  have hspares (location : Location) :
      Disk.Spares disk after result.outputFolder (location ++ [Settings.fileName]) := by
    refine h.spares hfills hfind fun name hname ending hending heq => ?_
    have hlast := List.singleton_inj.1 (List.append_inj' heq rfl).2
    exact hother name ((reportsOf_sublist _).subset hname) ending hending hlast
  refine loadSettings_of_grows hplain (h.isPlain hplain) h.grows habsolute h.chosen.1
    (fun location node hnode => (hspares location).nodeAt_of_some hnode) (fun file hfile => ?_) h.loads
  refine hplain.has_of_grown (h.isPlain hplain) h.grows (fun _ => h.spares_folder hplain)
    (hsettings file hfile) ?_
  obtain ⟨parts, rfl⟩ := exists_of_settingsFile hplain.linkFree hfile
  rw [plainLocation_concat, plainLocation_name (by decide) (by decide)]
  exact hspares _

theorem chooses_again (hrepositories : nonEmpty? request.repositoryPath = none →
    ¬ disk.hasFolder ((result.workspace.child "repositories").child request.repositoryName) →
      ∀ place, disk.Makes result.outputFolder place →
        ¬ disk.Passes ((result.workspace.child "repositories").child request.repositoryName) place ∧
          place.dropLast ≠ disk.resolvedLocation (result.workspace.child "repositories")) :
    Yields after (repositoryOf result.workspace request.repositoryName request.repositoryPath)
      result.repository := by
  obtain ⟨hhas, path, hchoice, hresolve⟩ := h.chosen
  obtain ⟨place, e, hfind⟩ := Disk.has_iff.1 hhas
  obtain ⟨e', hfind', -⟩ := h.grows.find hfind
  have hplain' := h.isPlain hplain
  have hstays : nonEmpty? request.repositoryPath = none →
      ¬ disk.hasFolder ((result.workspace.child "repositories").child request.repositoryName) →
        ¬ after.hasFolder ((result.workspace.child "repositories").child request.repositoryName) ∧
          ∀ other, after.hasFolder ((result.workspace.child "repositories").below [other]) →
            disk.hasFolder ((result.workspace.child "repositories").below [other]) := by
    intro hnone hnamed
    have hmakes := hrepositories hnone hnamed
    refine ⟨fun hafter => hnamed ?_, fun other hafter => ?_⟩
    · exact hplain.hasFolder_of_grown hplain' h.grows (fun _ => h.spares_folder hplain)
        (fun place hplace => (hmakes place hplace).1) hafter
    · rw [hnone] at hchoice
      obtain ⟨root, entries, hroot⟩ := Disk.hasFolder_iff.1 hchoice.hasRepositories
      obtain ⟨place, entries', hother⟩ := Disk.hasFolder_iff.1 hafter
      exact hplain'.hasFolder_below_of_grown h.grows hroot hother
        (h.spares_folder hplain (nodeAt_eq_folder_iff.2 ⟨entries', Disk.at?_of_find hother⟩))
        fun hplace => (hmakes place hplace).2
  refine yields_repositoryOf (Disk.has_iff.2 ⟨place, e', hfind'⟩)
    (hchoice.of_grows hplain hplain' h.grows hstays) ?_
  rw [hplain.resolve_grows hplain' h.grows]
  exact hresolve

/-! ## What the second run finds -/

/-- The repository holds the same files. -/
theorem sameFiles
    (houtside : ¬ result.repository.parts <+: disk.resolvedLocation result.outputFolder) :
    SameFiles disk after result.repository := by
  have hplain' := h.isPlain hplain
  obtain ⟨-, path, hchoice, hresolve⟩ := h.chosen
  obtain ⟨root, entries, hroot, hrepository⟩ := exists_place_of_resolve hchoice.hasFolder hresolve
  obtain ⟨place, inner, hfind⟩ := Disk.hasFolder_iff.1 (h.fills_of_plain hplain).found
  have hplace : disk.resolvedLocation result.outputFolder = place := by
    rw [Disk.resolvedLocation_of_linkFree hplain.linkFree, ← h.grows.start,
      ← Disk.resolvedLocation_of_linkFree hplain'.linkFree, Disk.resolvedLocation_of_find hfind]
  rw [hrepository, hplace] at houtside
  rw [hrepository]
  have hroot' := Disk.at?_of_find hroot
  -- no report stands in the repository, which is a folder
  have hspares (names : List String) :
      Disk.Spares disk after result.outputFolder (root ++ names) := by
    refine h.spares (h.fills_of_plain hplain) hfind fun name hname ending hending heq => ?_
    rcases List.eq_nil_or_concat names with rfl | ⟨first, last, rfl⟩
    · obtain ⟨entries', hroot'⟩ := h.grows.find_folder hroot
      obtain ⟨content, hfile⟩ := h.exists_report (h.fills_of_plain hplain) hfind hname hending
      rw [List.append_nil] at heq
      rw [← heq, Disk.at?_of_find hroot'] at hfile
      cases hfile
    · rw [List.concat_eq_append, ← List.append_assoc] at heq
      exact houtside ⟨first, (List.append_inj' heq rfl).1⟩
  refine sameFiles_of_plain hplain hplain' h.grows.grants.symm
    (sound_at? hplain.sound (Disk.at?_of_find hroot)).2
    fun names content => ⟨(hspares names).nodeAt_of_some, fun hnode => ?_⟩
  rcases hspares names with hsame | ⟨-, hfolder, -⟩
  · exact hsame.symm.trans hnode
  · rw [hfolder] at hnode
    cases hnode

end

end Account

theorem outputFolder_of_grows (hgrows : Disk.Grows disk after) (workspace : Path)
    (given : Option String) : outputFolder after workspace given = outputFolder disk workspace given := by
  unfold outputFolder
  cases given with
  | none => rfl
  | some text => simp only [hgrows.expand]

/-- The second run finds what the first one has found. -/
theorem Account.inventory_again
    (h : Account setting request { disk } result after loaded inventory drafts)
    (hplain : disk.IsPlain) (hplugins : setting.plugins = []) (hsurveys : setting.surveys = none)
    (hloads : loadSettings setting.load after result.workspace = .ok loaded)
    (hyields : Yields after (repositoryOf result.workspace request.repositoryName
      request.repositoryPath) result.repository)
    (hsame : SameFiles disk after result.repository) (time elapsed : String) :
    ∃ notes, outcome (takeInventory { setting with time, elapsed } request after) {} =
      (.ok inventory, notes) := by
  have hplain' := h.isPlain hplain
  obtain ⟨hhas, path, hchoice, hresolve⟩ := h.chosen
  have hfolder := hasFolder_of_resolve hplain.sound hchoice.hasFolder hresolve
  obtain ⟨middle, notes, hrepository, hstock⟩ := h.stock
  obtain ⟨middle', hrepository', hmiddle'⟩ := hyields {}
  have hmiddle : middle.diagnostics = middle'.diagnostics := by
    obtain ⟨noted, hnoted, hdiagnostics⟩ := yields_repositoryOf hhas hchoice hresolve {}
    obtain rfl := (Prod.mk.inj (hrepository.symm.trans hnoted)).2
    exact hdiagnostics.trans hmiddle'.symm
  have hagree : Agree disk after
      (takeStock setting request result.workspace result.repository loaded.settings
        result.outputFolder)
      (takeStock { setting with time, elapsed } request result.workspace result.repository
        loaded.settings result.outputFolder) :=
    agree_takeStock hplugins hsurveys hplugins hsurveys hplain.sound hfolder
      (Disk.hasFolder_grows h.grows hfolder) hsame
  obtain ⟨notes', hstock', -⟩ := hagree.ok hmiddle hstock
  refine ⟨notes', outcome_takeInventory_eq_ok_iff.2 ⟨result.workspace, result.repository, middle',
    loaded, result.outputFolder, ?_, hrepository', hloads, ?_, hstock'⟩⟩
  · obtain ⟨path, hexpand, hresolve⟩ := exists_resolve_of_workspace h.workspace
    rw [h.grows.expand, hexpand]
    exact (hplain.resolve_grows hplain' h.grows path).trans hresolve
  · rw [outputFolder_of_grows h.grows]
    exact h.folder

/-! ## The second run -/

theorem files_of_redated {time time' : String} {drafts drafts' : List Draft}
    (h : List.Forall₂ (IsRedated time time') drafts drafts') :
    drafts'.map (·.name) = drafts.map (·.name) ∧
      ∀ name ∈ drafts.map (·.name), ∃ data data' page page' : String,
        (name ++ ".json", data.toUTF8) ∈ drafts.flatMap (·.files) ∧
        (name ++ ".json", data'.toUTF8) ∈ drafts'.flatMap (·.files) ∧
        SameButTime timeInData time time' data data' ∧
        (name ++ ".md", page.toUTF8) ∈ drafts.flatMap (·.files) ∧
        (name ++ ".md", page'.toUTF8) ∈ drafts'.flatMap (·.files) ∧
        SameButTime timeInPage time time' page page' := by
  have hnames : drafts'.map (·.name) = drafts.map (·.name) :=
    map_eq_of_forall₂ (fun _ _ hredated => hredated.name) h
  refine ⟨hnames, fun name hname => ?_⟩
  rw [← hnames] at hname
  obtain ⟨draft', hdraft', rfl⟩ := List.mem_map.1 hname
  obtain ⟨draft, hdraft, hredated⟩ := exists_of_forall₂ h hdraft'
  refine ⟨_, _, _, _, List.mem_flatMap.2 ⟨draft, hdraft, ?_⟩,
    List.mem_flatMap.2 ⟨draft', hdraft', List.mem_cons_self⟩, hredated.data,
    List.mem_flatMap.2 ⟨draft, hdraft, ?_⟩,
    List.mem_flatMap.2 ⟨draft', hdraft', List.mem_cons_of_mem _ List.mem_cons_self⟩, hredated.page⟩
  · rw [hredated.name]
    exact List.mem_cons_self
  · rw [hredated.name]
    exact List.mem_cons_of_mem _ List.mem_cons_self

/-- The result does not depend on the time. -/
theorem result_of_redated {time time' : String} {first first' : List Draft} {last last' : Draft}
    (h : List.Forall₂ (IsRedated time time') (first ++ [last]) (first' ++ [last'])) :
    inventory.result first' last' = inventory.result first last := by
  have hnames := map_eq_of_forall₂ (fun _ _ hredated => hredated.name) h
  have hscores := map_eq_of_forall₂ (fun _ _ hredated => hredated.confidence) h
  have hartifacts (drafts : List Draft) : drafts.map (·.artifact inventory.outputFolder) =
      (drafts.map (·.name)).map (artifactOf inventory.outputFolder) := by
    rw [List.map_map]
    rfl
  have hlast : last'.confidence = last.confidence := by
    rw [List.map_append, List.map_append] at hscores
    exact List.singleton_inj.1 (List.append_inj' hscores rfl).2
  unfold Inventory.result
  rw [hartifacts, hartifacts, hnames, hlast]

/-- Where an inventory can be taken again, the reports can be written again. -/
theorem Account.exists_again
    (h : Account setting request { disk } result after loaded inventory drafts)
    (hplain : disk.IsPlain) {time elapsed : String} {notes : Notes}
    (htaken : outcome (takeInventory { setting with time, elapsed } request after) {} =
      (.ok inventory, notes)) :
    ∃ drafts' again, outcome (run { setting with time, elapsed } request) { disk := after } =
        (.ok result, again) ∧
      List.Forall₂ (IsRedated setting.time time) drafts drafts' ∧ again.disk.IsPlain ∧
      Disk.Fills after again.disk result.outputFolder (drafts'.flatMap (·.files)) := by
  have hplain' := h.isPlain hplain
  have hfills := h.fills_of_plain hplain
  obtain ⟨place, entries, hfind⟩ := Disk.hasFolder_iff.1 hfills.found
  obtain ⟨drafts', hdrawn, hredated⟩ := exists_redated h.isOf.presentable h.drawn time
  have hnames : drafts'.map (·.name) = reportsOf loaded.settings :=
    (files_of_redated hredated).1.trans h.names
  have hmem : ∀ draft ∈ drafts', draft.name ∈ reportsOf loaded.settings := fun draft hdraft =>
    hnames ▸ List.mem_map_of_mem hdraft
  have hreports : ∀ draft ∈ drafts', draft.name ∈ reportNames := fun draft hdraft =>
    (reportsOf_sublist _).subset (hmem draft hdraft)
  obtain ⟨again, hinscribes⟩ := exists_inscribes hfind hreports (h.isOf.exists_page hdrawn)
    fun draft hdraft ending hending => by
      obtain ⟨content, hfile⟩ := h.exists_report hfills hfind (hmem draft hdraft) hending
      exact Or.inr ⟨content, nodeAt_eq_file_iff.2 hfile⟩
  have hagain := hinscribes.isPlain hplain' h.isAbsolute hreports
  have hfills' := hinscribes.fills h.isAbsolute hreports (hnames ▸ nodup_reportsOf _)
    (fun _ _ _ _ _ target => hagain.linkFree _ target) fun _ => hfills.found
  obtain ⟨first, last, rfl, hresult⟩ := h.yields
  obtain ⟨first', last', rfl⟩ : ∃ first' last', drafts' = first' ++ [last'] := by
    rcases List.eq_nil_or_concat drafts' with rfl | ⟨first', last', hconcat⟩
    · cases hnames
    · exact ⟨first', last', by rw [hconcat, List.concat_eq_append]⟩
  obtain ⟨rest, hrun⟩ : ∃ rest, outcome (run { setting with time, elapsed } request)
      { disk := after } = (.ok result, ⟨again, rest⟩) := by
    refine outcome_run_eq_ok_iff.2 ⟨inventory, notes, first', last', htaken, hdrawn, ?_, ?_⟩
    · rw [h.isOf.outputFolder_eq]
      exact hinscribes
    · rw [hresult, result_of_redated hredated]
  exact ⟨first' ++ [last'], ⟨again, rest⟩, hrun, hredated, hagain, hfills'⟩

/-- A file that was written for a report is found at its path. -/
theorem find_report {before : Disk} {folder : Path} {files : List (String × ByteArray)}
    (hfills : Disk.Fills before after folder files) {place : Location}
    {entries : List (String × Entry)} (hfind : after.find folder = .ok (place, .folder entries))
    {name ending : String} (hname : name ∈ reportNames) (hending : ending ∈ endings)
    {content : ByteArray} (hfile : (name ++ ending, content) ∈ files) :
    after.find (folder.child (name ++ ending)) = .ok (place ++ [name ++ ending], .file content) := by
  rw [child_file hname hending]
  exact Disk.find_below_file hfind (isUsable_file name hname ending hending)
    (hfills.written hfind _ hfile)

/-- On a disk without links a run that has succeeded succeeds again, with the same result; its reports
are the same but for the time, and nothing else changes.  The reports must not stand in the repository;
no folder that the first run makes may be on the way to the settings file; and where the first folder
among the repositories is taken, none may be on the way to the one that was asked for, or be one of the
repositories itself. -/
theorem run_again {after : Session} (hplain : disk.IsPlain) (hplugins : setting.plugins = [])
    (hsurveys : setting.surveys = none)
    (hrun : outcome (run setting request) { disk } = (.ok result, after))
    (houtside : ¬ result.repository.parts <+: disk.resolvedLocation result.outputFolder)
    (hsettings : ∀ file, settingsFile disk result.workspace = .ok file →
      ∀ place, disk.Makes result.outputFolder place → ¬ disk.Passes file place)
    (hrepositories : nonEmpty? request.repositoryPath = none →
      ¬ disk.hasFolder ((result.workspace.child "repositories").child request.repositoryName) →
        ∀ place, disk.Makes result.outputFolder place →
          ¬ disk.Passes ((result.workspace.child "repositories").child request.repositoryName) place ∧
            place.dropLast ≠ disk.resolvedLocation (result.workspace.child "repositories"))
    (time elapsed : String) :
    ∃ again, outcome (run { setting with time, elapsed } request) { disk := after.disk } =
        (.ok result, again) ∧
      (∀ artifact ∈ result.artifacts,
        (∃ data data' : String, SameButTime timeInData setting.time time data data' ∧
          after.disk.find? artifact.data = some (.file data.toUTF8) ∧
          again.disk.find? artifact.data = some (.file data'.toUTF8)) ∧
        ∃ page page' : String, SameButTime timeInPage setting.time time page page' ∧
          after.disk.find? artifact.page = some (.file page.toUTF8) ∧
          again.disk.find? artifact.page = some (.file page'.toUTF8)) ∧
      ∀ location, (∀ artifact ∈ result.artifacts, ∀ path ∈ [artifact.data, artifact.page],
          location ≠ after.disk.resolvedLocation path) →
        again.disk.top.nodeAt location = after.disk.top.nodeAt location := by
  obtain ⟨loaded, inventory, drafts, h⟩ := exists_account hplugins hsurveys hrun
  have hplain' := h.isPlain hplain
  have hfills := h.fills_of_plain hplain
  obtain ⟨notes, htaken⟩ := h.inventory_again hplain hplugins hsurveys
    (h.loads_again hplain hsettings) (h.chooses_again hplain hrepositories)
    (h.sameFiles hplain houtside) time elapsed
  obtain ⟨drafts', again, hagain, hredated, hplain'', hfills'⟩ := h.exists_again hplain htaken
  obtain ⟨hnames, htexts⟩ := files_of_redated hredated
  obtain ⟨place, entries, hfind⟩ := Disk.hasFolder_iff.1 hfills.found
  obtain ⟨entries', hfind'⟩ := hfills'.grows.find_folder hfind
  have hartifacts : result.artifacts =
      (drafts.map (·.name)).map (artifactOf result.outputFolder) := by
    rw [h.artifacts, List.map_map]
    rfl
  have hreport : ∀ name ∈ drafts.map (·.name), name ∈ reportNames := by
    intro name hname
    rw [h.names] at hname
    exact (reportsOf_sublist _).subset hname
  refine ⟨again, hagain, fun artifact hartifact => ?_, fun location hlocation => ?_⟩
  · rw [hartifacts] at hartifact
    obtain ⟨name, hname, rfl⟩ := List.mem_map.1 hartifact
    have hmem := hreport name hname
    obtain ⟨data, data', page, page', hdata, hdata', hsame, hpage, hpage', hsame'⟩ :=
      htexts name hname
    have hjson : ".json" ∈ endings := by decide
    have hmd : ".md" ∈ endings := by decide
    refine ⟨⟨data, data', hsame, ?_, ?_⟩, page, page', hsame', ?_, ?_⟩
    · exact Disk.find?_eq_some_iff.2 ⟨_, find_report hfills hfind hmem hjson hdata⟩
    · exact Disk.find?_eq_some_iff.2 ⟨_, find_report hfills' hfind' hmem hjson hdata'⟩
    · exact Disk.find?_eq_some_iff.2 ⟨_, find_report hfills hfind hmem hmd hpage⟩
    · exact Disk.find?_eq_some_iff.2 ⟨_, find_report hfills' hfind' hmem hmd hpage'⟩
  · refine hplain'.nodeAt_of_spares hplain'' hfills'.grows hfills.found
      (hfills'.rest hfind' location fun file hfile heq => ?_)
    obtain ⟨name, hname, ending, hending, hfile⟩ := mem_files.1 (List.mem_map_of_mem hfile)
    rw [hnames] at hname
    obtain ⟨⟨_, content⟩, hfile', hsame⟩ :=
      List.mem_map.1 (mem_files.2 ⟨name, hname, ending, hending, rfl⟩)
    dsimp only at hsame
    subst hsame
    have hpath := find_report hfills hfind (hreport name hname) hending hfile'
    refine hlocation (artifactOf result.outputFolder name) ?_
      (result.outputFolder.child (name ++ ending)) ?_ ?_
    · rw [hartifacts]
      exact List.mem_map_of_mem hname
    · rcases List.mem_pair.1 hending with rfl | rfl <;> simp [artifactOf]
    · rw [Disk.resolvedLocation_of_find hpath, heq, hfile]

/-! ## A workspace -/

section Sample

variable {given : Option String} {names : List String}
  (hfolder : outputFolder (sampleDisk []) sampleWorkspace (nonEmpty? given) =
    .ok (sampleWorkspace.below names))
  (h : Account sampleSetting { workspace := "/ws", outputFolder := given } { disk := sampleDisk [] }
    result after loaded inventory drafts)

include hfolder h

theorem account_sample : result.workspace = sampleWorkspace ∧ result.repository = sampleRepository ∧
    result.outputFolder = sampleWorkspace.below names := by
  have hworkspace := h.workspace
  rw [workspace_sample isSound_sample, Except.ok.injEq] at hworkspace
  have hloads := h.loads
  rw [← hworkspace, loadSettings_sample isSound_sample, Except.ok.injEq] at hloads
  have hout := h.folder
  rw [← hworkspace, ← hloads] at hout
  obtain ⟨middle, notes, hrepository, -⟩ := h.stock
  rw [← hworkspace] at hrepository
  obtain ⟨noted, hnoted, -⟩ := yields_sample isSound_sample {}
  refine ⟨hworkspace.symm, ?_, ?_⟩
  · exact Except.ok.inj (Prod.mk.inj (hrepository.symm.trans hnoted)).1
  · refine Except.ok.inj (hout.symm.trans ?_)
    simpa [nonEmpty?] using hfolder

theorem outside_sample (hnames : plainLocation [] ("ws" :: names) = "ws" :: names)
    (hother : names.head? ≠ some "repositories") :
    ¬ result.repository.parts <+: (sampleDisk []).resolvedLocation result.outputFolder := by
  obtain ⟨-, hrepository, hout⟩ := account_sample hfolder h
  rw [hrepository, hout, Disk.resolvedLocation_of_linkFree isPlain_sample.linkFree]
  change ¬ ["ws", "repositories", "odoo"] <+: plainLocation [] ("ws" :: names)
  rw [hnames]
  intro hprefix
  cases names with
  | nil => simp at hprefix
  | cons first rest =>
    simp only [List.cons_prefix_cons, true_and] at hprefix
    exact hother (by rw [List.head?_cons, ← hprefix.1])

end Sample

theorem settingsFile_sample : settingsFile (sampleDisk []) sampleWorkspace =
    .ok (sampleWorkspace.below [Settings.fileName]) := by
  have hhas : (sampleDisk []).hasFolder sampleWorkspace :=
    Disk.hasFolder_iff.2 ⟨_, _, find_sample isSound_sample rfl⟩
  rw [settingsFile, Disk.expand_of_absolute _ rfl]
  change Disk.resolve _ (if _ then _ else _) = _
  rw [if_pos hhas, child_settingsFile, isPlain_sample.resolve_eq,
    if_pos (isClean_sample [Settings.fileName] (by decide))]
  rfl

/-- Settings cannot be loaded where a folder stands in the place of their file. -/
theorem loadSettings_ne_ok (load : Yaml.Loader) {disk : Disk} {path file : Path}
    (hfile : settingsFile disk path = .ok file) (hfolder : disk.hasFolder file) (loaded : Loaded) :
    loadSettings load disk path ≠ .ok loaded := by
  obtain ⟨place, entries, hfind⟩ := Disk.hasFolder_iff.1 hfolder
  have hread : disk.readBytes file = .error ⟨.isAFolder, file.text⟩ := by
    rw [Disk.readBytes, hfind]
  rw [loadSettings, hfile]
  dsimp only [Except.mapError, bind, Except.bind]
  cases disk.resolve file.parent with
  | error fault => simp
  | ok root =>
    dsimp only
    rw [if_pos (has_of_hasFolder hfolder), hread]
    simp

theorem run_again_sample : ∃ result after again,
    outcome (run sampleSetting { workspace := "/ws" }) { disk := sampleDisk [] } =
      (.ok result, after) ∧
    ¬ result.repository.parts <+: (sampleDisk []).resolvedLocation result.outputFolder ∧
    outcome (run { sampleSetting with time := "2024-05-02T10:00:00+00:00" } { workspace := "/ws" })
      { disk := after.disk } = (.ok result, again) := by
  obtain ⟨result, after, hrun⟩ := exists_usualRun_sample
  obtain ⟨loaded, inventory, drafts, haccount⟩ := exists_account rfl rfl hrun
  obtain ⟨hworkspace, -, hout⟩ := account_sample outputFolder_sample haccount
  have houtside := outside_sample outputFolder_sample haccount rfl (by decide)
  have hsettings : ∀ file, settingsFile (sampleDisk []) result.workspace = .ok file →
      ∀ place, (sampleDisk []).Makes result.outputFolder place →
        ¬ (sampleDisk []).Passes file place := by
    intro file hfile place hmakes hpassed
    rw [hworkspace, settingsFile_sample, Except.ok.injEq] at hfile
    subst hfile
    rw [hout] at hmakes
    obtain ⟨hnone, size, hsize, hplace⟩ := hmakes
    obtain ⟨size', hsize', rfl⟩ := hpassed
    replace hsize : size ≤ 4 := hsize
    replace hsize' : size' ≤ 2 := hsize'
    interval_cases size'
    · cases hnone
    · cases hnone
    · interval_cases size <;> exact absurd hplace (by decide)
  obtain ⟨again, hagain, -⟩ := run_again isPlain_sample rfl rfl hrun houtside hsettings
    (fun _ hnamed => absurd (by
      rw [hworkspace]
      exact Disk.hasFolder_iff.2 ⟨_, _, find_sample isSound_sample rfl⟩) hnamed)
    "2024-05-02T10:00:00+00:00" sampleSetting.elapsed
  exact ⟨result, after, again, hrun, houtside, hagain⟩

/-- A run whose folder takes the place of the settings file cannot be made again, although the folder
stands neither in the repository nor among the repositories. -/
theorem run_again_blocked : ∃ result after, (sampleDisk []).IsPlain ∧
    outcome (run sampleSetting { workspace := "/ws", outputFolder := some Settings.fileName })
      { disk := sampleDisk [] } = (.ok result, after) ∧
    ¬ result.repository.parts <+: (sampleDisk []).resolvedLocation result.outputFolder ∧
    ¬ (result.workspace.child "repositories").parts <+:
      (sampleDisk []).resolvedLocation result.outputFolder ∧
    ¬ ∃ result' again,
      outcome (run sampleSetting { workspace := "/ws", outputFolder := some Settings.fileName })
        { disk := after.disk } = (.ok result', again) := by
  have hfolder : outputFolder (sampleDisk []) sampleWorkspace
      (nonEmpty? (some Settings.fileName)) = .ok (sampleWorkspace.below [Settings.fileName]) := by
    decide +kernel
  obtain ⟨result, after, hrun⟩ := exists_run_sample hfolder
    (isClean_sample [Settings.fileName] (by decide))
    (fun name hname => isUsable_sample name (List.mem_of_mem_take (i := 1) hname)) rfl
  obtain ⟨loaded, inventory, drafts, haccount⟩ := exists_account rfl rfl hrun
  obtain ⟨hworkspace, -, hout⟩ := account_sample hfolder haccount
  refine ⟨result, after, isPlain_sample, hrun, outside_sample hfolder haccount rfl (by decide), ?_, ?_⟩
  · rw [hworkspace, hout, Disk.resolvedLocation_of_linkFree isPlain_sample.linkFree]
    decide +kernel
  · rintro ⟨result', again, hagain⟩
    obtain ⟨loaded', inventory', drafts', haccount'⟩ := exists_account rfl rfl hagain
    -- the second run finds a folder in the place of the settings file
    have hplain := haccount.isPlain isPlain_sample
    have hfound := (haccount.fills_of_plain isPlain_sample).found
    have hworkspace' : result'.workspace = sampleWorkspace := by
      obtain ⟨path, hexpand, hresolve⟩ := exists_resolve_of_workspace haccount'.workspace
      rw [haccount.grows.expand] at hexpand
      rw [isPlain_sample.resolve_grows hplain haccount.grows] at hresolve
      have hfirst := workspace_sample isSound_sample
      rw [hexpand] at hfirst
      exact Except.ok.inj (hresolve.symm.trans hfirst)
    have hfile : settingsFile after.disk sampleWorkspace =
        .ok (sampleWorkspace.below [Settings.fileName]) := by
      have hhas : (sampleDisk []).has sampleWorkspace :=
        Disk.has_iff.2 ⟨_, _, find_sample isSound_sample rfl⟩
      rw [← settingsFile_sample]
      exact settingsFile_of_grows isPlain_sample hplain haccount.grows rfl hhas
    refine loadSettings_ne_ok sampleSetting.load hfile (hout ▸ hfound) loaded' ?_
    rw [← hworkspace']
    exact haccount'.loads

end AddonAtlas.Run
