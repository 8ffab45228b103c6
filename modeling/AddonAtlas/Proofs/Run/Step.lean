import AddonAtlas.Proofs.Files.Change
import AddonAtlas.Run.Basic

/-!
# The steps of a run

What the steps of a run yield and leave, one equation per kind of step.  From them follows what a run
that succeeds has done (`outcome_run_eq_ok_iff`): it took an inventory, drew up the reports, and wrote
them one after the other, which `Inscribes` says of the disk alone.  A run that fails before it writes
leaves the disk as it was (`disk_of_outcome_run_error`).
-/

namespace AddonAtlas.Run

open Files

variable {α : Type}

theorem outcome_look (scan : Scan α) (session : Session) :
    outcome (Work.look scan) session = ((outcome (scan session.disk) session.notes).1,
      { session with notes := (outcome (scan session.disk) session.notes).2 }) := rfl

theorem outcome_change (change : Change α) (session : Session) :
    outcome (Work.change change) session = ((outcome change session.disk).1.mapError .system,
      { session with disk := (outcome change session.disk).2 }) := rfl

theorem outcome_check {ε : Type} (fault : ε → Fault) (result : Except ε α) (session : Session) :
    outcome (Work.check fault result) session = (result.mapError fault, session) := by
  cases result <;> rfl

theorem outcome_say (level : Log.Level) (stage text : String) (session : Session) :
    outcome (Work.say level stage text) session =
      (.ok (), { session with notes := session.notes.say ⟨level, stage, text⟩ }) := rfl

theorem outcome_finally {σ β : Type} (act : ExceptT Fault (StateM σ) α)
    (last : ExceptT Fault (StateM σ) β) (s : σ) :
    outcome (tryFinally act last) s = match outcome last (outcome act s).2 with
      | (.ok _, s') => ((outcome act s).1, s')
      | (.error e, s') => (.error e, s') := by
  rcases hact : outcome act s with ⟨result, s'⟩
  rcases hlast : outcome last s' with ⟨final, s''⟩
  change act s = (result, s') at hact
  change last s' = (final, s'') at hlast
  cases result <;> cases final <;>
    simp only [outcome, tryFinally, tryFinally', ExceptT.run, Functor.map, ExceptT.map, ExceptT.mk,
      StateT.bind, bind, pure, hact, hlast] <;> rfl

/-- A stage yields what its step yields. -/
theorem outcome_staged {σ : Type}
    {say : Log.Level → String → String → ExceptT Fault (StateM σ) Unit}
    {note : Log.Level → String → String → σ → σ}
    (hsay : ∀ level stage text s, outcome (say level stage text) s = (.ok (), note level stage text s))
    (elapsed stage : String) (act : ExceptT Fault (StateM σ) α) (s : σ) :
    outcome (staged say elapsed stage act) s =
      let started := note .debug "orchestrator" ("Stage " ++ stage ++ " started") s
      ((outcome act started).1, note .debug "orchestrator"
        ("Stage " ++ stage ++ " finished in " ++ elapsed ++ "s") (outcome act started).2) := by
  rw [staged, outcome_bind, hsay]
  simp only [outcome_finally, hsay]

/-! ## Writing reports -/

/-- The files of a report. -/
def Draft.artifact (folder : Path) (draft : Draft) : Artifact :=
  ⟨draft.name, folder.child (draft.name ++ ".json"), folder.child (draft.name ++ ".md")⟩

/-- Reports are written one after the other, each as data and as a page. -/
inductive Inscribes (folder : Path) : List Draft → Disk → Disk → Prop
  | nil (disk : Disk) : Inscribes folder [] disk disk
  | cons {draft : Draft} {rest : List Draft} {disk made filled full after : Disk} {page : String}
      (hfolder : outcome (Change.folders folder) disk = (.ok (), made))
      (hdata : made.writeFile (draft.artifact folder).data
        (Document.Value.object draft.fields).json.toUTF8 = .ok filled)
      (htext : Report.page draft.fields = .ok page)
      (hpage : filled.writeFile (draft.artifact folder).page (page ++ "\n").toUTF8 = .ok full)
      (hrest : Inscribes folder rest full after) : Inscribes folder (draft :: rest) disk after

theorem outcome_file (path : Path) (content : ByteArray) (disk : Disk) :
    outcome (Change.file path content) disk = match disk.writeFile path content with
      | .ok disk' => (.ok (), disk')
      | .error fault => (.error fault, disk) := by
  have hget : outcome (get : Change Disk) disk = (.ok disk, disk) := rfl
  rw [Change.file, outcome_bind, hget]
  dsimp only
  cases disk.writeFile path content <;> rfl

theorem outcome_file_eq_ok_iff {path : Path} {content : ByteArray} {disk after : Disk} {u : Unit} :
    outcome (Change.file path content) disk = (.ok u, after) ↔
      disk.writeFile path content = .ok after := by
  rw [outcome_file]
  cases disk.writeFile path content <;> simp

theorem outcome_change_eq_ok_iff {change : Change α} {a : α} {session after : Session} :
    outcome (Work.change change) session = (.ok a, after) ↔
      outcome change session.disk = (.ok a, after.disk) ∧ after.notes = session.notes := by
  rw [outcome_change]
  rcases outcome change session.disk with ⟨fault | a', disk⟩
  · simp [Except.mapError]
  · simp only [Except.mapError, Prod.mk.injEq, Except.ok.injEq]
    constructor
    · rintro ⟨rfl, rfl⟩
      exact ⟨⟨rfl, rfl⟩, rfl⟩
    · rintro ⟨⟨rfl, rfl⟩, hnotes⟩
      exact ⟨rfl, by rw [← hnotes]⟩

theorem outcome_look_eq_ok_iff {scan : Scan α} {a : α} {session after : Session} :
    outcome (Work.look scan) session = (.ok a, after) ↔
      outcome (scan session.disk) session.notes = (.ok a, after.notes) ∧
        after.disk = session.disk := by
  rw [outcome_look]
  rcases outcome (scan session.disk) session.notes with ⟨result, notes⟩
  simp only [Prod.mk.injEq]
  constructor
  · rintro ⟨rfl, rfl⟩
    exact ⟨⟨rfl, rfl⟩, rfl⟩
  · rintro ⟨⟨rfl, rfl⟩, hdisk⟩
    exact ⟨rfl, by rw [← hdisk]⟩

theorem outcome_check_eq_ok_iff {ε : Type} {fault : ε → Fault} {result : Except ε α} {a : α}
    {session after : Session} :
    outcome (Work.check fault result) session = (.ok a, after) ↔
      result = .ok a ∧ session = after := by
  rw [outcome_check]
  cases result <;> simp [Except.mapError]

theorem outcome_writeDraft_eq_ok_iff {folder : Path} {draft : Draft} {artifact : Artifact}
    {session : Session} {disk : Disk} :
    (∃ notes, outcome (writeDraft folder draft) session = (.ok artifact, ⟨disk, notes⟩)) ↔
      artifact = draft.artifact folder ∧ Inscribes folder [draft] session.disk disk := by
  simp only [writeDraft, writeText, outcome_bind_eq_ok_iff, outcome_change_eq_ok_iff,
    outcome_file_eq_ok_iff, outcome_check_eq_ok_iff, outcome_say, outcome_pure, Prod.mk.injEq,
    Except.ok.injEq]
  constructor
  · rintro ⟨_, _, made, ⟨hfolder, -⟩, _, filled, ⟨hdata, -⟩, page, _, ⟨htext, rfl⟩, _, full,
      ⟨hpage, -⟩, _, _, ⟨-, rfl⟩, rfl, hdisk⟩
    have hdisk : full.disk = disk := congrArg Session.disk hdisk
    rw [← hdisk]
    exact ⟨rfl, .cons hfolder hdata htext hpage (.nil _)⟩
  · rintro ⟨rfl, hinscribes⟩
    cases hinscribes with
    | cons hfolder hdata htext hpage hrest =>
      cases hrest
      exact ⟨_, _, ⟨_, session.notes⟩, ⟨hfolder, rfl⟩, (), ⟨_, session.notes⟩, ⟨hdata, rfl⟩, _, _,
        ⟨htext, rfl⟩, (), ⟨_, session.notes⟩, ⟨hpage, rfl⟩, (), _, ⟨trivial, rfl⟩, rfl, rfl⟩

theorem inscribes_cons_iff {folder : Path} {draft : Draft} {rest : List Draft}
    {disk after : Disk} :
    Inscribes folder (draft :: rest) disk after ↔
      ∃ full, Inscribes folder [draft] disk full ∧ Inscribes folder rest full after := by
  constructor
  · rintro (_ | ⟨hfolder, hdata, htext, hpage, hrest⟩)
    exact ⟨_, .cons hfolder hdata htext hpage (.nil _), hrest⟩
  · rintro ⟨full, _ | ⟨hfolder, hdata, htext, hpage, hnil⟩, hrest⟩
    cases hnil
    exact .cons hfolder hdata htext hpage hrest

/-- Reports are written as `Inscribes` says, and their files are those that it names. -/
theorem outcome_writeDrafts_eq_ok_iff {folder : Path} {drafts : List Draft}
    {artifacts : List Artifact} {session : Session} {disk : Disk} :
    (∃ notes, outcome (drafts.mapM (writeDraft folder)) session = (.ok artifacts, ⟨disk, notes⟩)) ↔
      artifacts = drafts.map (·.artifact folder) ∧ Inscribes folder drafts session.disk disk := by
  induction drafts generalizing session artifacts with
  | nil =>
    simp only [List.mapM_nil, outcome_pure, Prod.mk.injEq, Except.ok.injEq, List.map_nil]
    constructor
    · rintro ⟨notes, rfl, rfl⟩
      exact ⟨rfl, .nil _⟩
    · rintro ⟨rfl, hinscribes⟩
      cases hinscribes
      exact ⟨_, rfl, rfl⟩
  | cons draft rest ih =>
    simp only [List.mapM_cons, outcome_bind_eq_ok_iff, outcome_pure, Prod.mk.injEq,
      Except.ok.injEq, List.map_cons]
    rw [inscribes_cons_iff]
    constructor
    · rintro ⟨notes, artifact, ⟨full, notes'⟩, hdraft, artifacts', after, hrest, rfl, rfl⟩
      obtain ⟨rfl, hfirst⟩ := outcome_writeDraft_eq_ok_iff.1 ⟨_, hdraft⟩
      obtain ⟨rfl, hlast⟩ := ih.1 ⟨_, hrest⟩
      exact ⟨rfl, full, hfirst, hlast⟩
    · rintro ⟨rfl, full, hfirst, hlast⟩
      obtain ⟨notes, hdraft⟩ : ∃ notes, outcome (writeDraft folder draft) session =
          (.ok (draft.artifact folder), ⟨full, notes⟩) :=
        outcome_writeDraft_eq_ok_iff.2 ⟨rfl, hfirst⟩
      obtain ⟨notes', hrest⟩ : ∃ notes', outcome (rest.mapM (writeDraft folder)) ⟨full, notes⟩ =
          (.ok (rest.map (·.artifact folder)), ⟨disk, notes'⟩) := ih.2 ⟨rfl, hlast⟩
      exact ⟨_, _, _, hdraft, _, _, hrest, rfl, rfl⟩

/-! ## The run -/

/-- The charts of an inventory in the order of their reports. -/
def Inventory.reports (inventory : Inventory) : List Chart :=
  inventory.modules.chart :: inventory.charts ++ [inventory.summary]

theorem Inventory.mem_reports {inventory : Inventory} {chart : Chart} :
    chart ∈ inventory.reports ↔ chart = inventory.modules.chart ∨ chart ∈ inventory.charts ∨
      chart = inventory.summary := by
  simp [reports]

/-- What a run yields that wrote these reports. -/
def Inventory.result (inventory : Inventory) (drafts : List Draft) (last : Draft) : Outcome where
  workspace := inventory.workspace
  repository := inventory.repository
  outputFolder := inventory.outputFolder
  metrics := Summary.metrics inventory.summary.metrics
  confidence := last.confidence
  artifacts := (drafts ++ [last]).map (·.artifact inventory.outputFolder)
  diagnostics := inventory.diagnostics

theorem mapM_concat_eq_ok_iff {ε β : Type} {f : α → Except ε β} {items : List α} {item : α}
    {results : List β} :
    (items ++ [item]).mapM f = .ok results ↔
      ∃ first last, items.mapM f = .ok first ∧ f item = .ok last ∧ results = first ++ [last] := by
  rw [List.mapM_append]
  cases items.mapM f with
  | error e => simp [bind, Except.bind]
  | ok first =>
    cases hitem : f item with
    | error e => simp [bind, Except.bind, hitem]
    | ok last => simp [bind, Except.bind, hitem, pure, Except.pure, eq_comm]

/-- The reports are written in a stage of their own. -/
theorem outcome_render_eq_ok_iff {elapsed : String} {folder : Path} {drafts : List Draft}
    {artifacts : List Artifact} {session : Session} {disk : Disk} :
    (∃ notes, outcome (staged Work.say elapsed "render" (drafts.mapM (writeDraft folder))) session =
        (.ok artifacts, ⟨disk, notes⟩)) ↔
      artifacts = drafts.map (·.artifact folder) ∧ Inscribes folder drafts session.disk disk := by
  simp only [outcome_staged outcome_say]
  generalize session.notes.say _ = started
  have hwrites : (∃ notes, outcome (drafts.mapM (writeDraft folder)) ⟨session.disk, started⟩ =
      (.ok artifacts, ⟨disk, notes⟩)) ↔ _ := outcome_writeDrafts_eq_ok_iff
  rw [← hwrites]
  rcases outcome (drafts.mapM (writeDraft folder)) ⟨session.disk, started⟩ with ⟨result, after, notes⟩
  simp

/-- A run that succeeds takes an inventory, draws up all reports, and then writes them. -/
theorem outcome_run_eq_ok_iff {setting : Setting} {request : Request} {session : Session}
    {result : Outcome} {disk : Disk} :
    (∃ notes, outcome (run setting request) session = (.ok result, ⟨disk, notes⟩)) ↔
      ∃ inventory notes drafts last,
        outcome (takeInventory setting request session.disk) session.notes =
          (.ok inventory, notes) ∧
        inventory.reports.mapM (inventory.draft setting.time) = .ok (drafts ++ [last]) ∧
        Inscribes inventory.outputFolder (drafts ++ [last]) session.disk disk ∧
        result = inventory.result drafts last := by
  simp only [run, outcome_bind_eq_ok_iff, outcome_look_eq_ok_iff, outcome_check_eq_ok_iff,
    outcome_say, outcome_pure, Prod.mk.injEq, Except.ok.injEq, Inventory.reports,
    mapM_concat_eq_ok_iff]
  constructor
  · rintro ⟨_, inventory, looked, ⟨hlook, hdisk⟩, drafts, _, ⟨hdrafts, rfl⟩, last, _, ⟨hlast, rfl⟩,
      artifacts, ⟨after, notes⟩, hrender, _, _, ⟨-, rfl⟩, rfl, hafter⟩
    obtain ⟨rfl, hinscribes⟩ := outcome_render_eq_ok_iff.1 ⟨notes, hrender⟩
    obtain ⟨rfl, -⟩ := Session.mk.injEq .. ▸ hafter
    rw [hdisk] at hinscribes
    exact ⟨inventory, _, drafts, last, hlook, ⟨drafts, last, hdrafts, hlast, rfl⟩, hinscribes, rfl⟩
  · rintro ⟨inventory, notes, drafts, last, hlook, ⟨drafts', last', hdrafts, hlast, hall⟩,
      hinscribes, rfl⟩
    obtain ⟨rfl, hlast'⟩ := List.append_inj' hall rfl
    obtain rfl : last = last' := by simpa using hlast'
    obtain ⟨rendered, hrender⟩ : ∃ rendered, outcome (staged Work.say setting.elapsed "render"
        ((drafts ++ [last]).mapM (writeDraft inventory.outputFolder))) ⟨session.disk, notes⟩ =
          (.ok ((drafts ++ [last]).map (·.artifact inventory.outputFolder)), ⟨disk, rendered⟩) :=
      outcome_render_eq_ok_iff.2 ⟨rfl, hinscribes⟩
    exact ⟨_, inventory, ⟨session.disk, notes⟩, ⟨hlook, rfl⟩, drafts, _, ⟨hdrafts, rfl⟩, last, _,
      ⟨hlast, rfl⟩, _, _, hrender, (), _, ⟨trivial, rfl⟩, rfl, rfl⟩

/-! ## Runs that fail -/

/-- A fault that is met while reports are written. -/
def Fault.isOfWriting : Fault → Bool
  | .system _ | .page _ => true
  | _ => false

theorem isOfWriting_of_change {change : Change α} {fault : Fault} {session after : Session}
    (h : outcome (Work.change change) session = (.error fault, after)) : fault.isOfWriting := by
  rw [outcome_change] at h
  cases hresult : (outcome change session.disk).1 with
  | ok a => simp [hresult, Except.mapError] at h
  | error fault' =>
    simp only [hresult, Except.mapError, Prod.mk.injEq, Except.error.injEq] at h
    exact h.1 ▸ rfl

theorem isOfWriting_of_writeDraft {folder : Path} {draft : Draft} {fault : Fault}
    {session after : Session}
    (h : outcome (writeDraft folder draft) session = (.error fault, after)) :
    fault.isOfWriting := by
  simp only [writeDraft, writeText, outcome_bind_eq_error_iff, outcome_say, outcome_pure] at h
  rcases h with h | ⟨_, _, -, h | ⟨_, _, -, h | ⟨_, _, -, h | ⟨_, _, -, h⟩⟩⟩⟩
  · exact isOfWriting_of_change h
  · exact isOfWriting_of_change h
  · rw [outcome_check] at h
    cases hpage : Report.page draft.fields with
    | ok page => simp [hpage, Except.mapError] at h
    | error fault' =>
      simp only [hpage, Except.mapError, Prod.mk.injEq, Except.error.injEq] at h
      exact h.1 ▸ rfl
  · exact isOfWriting_of_change h
  · simp at h

theorem isOfWriting_of_writeDrafts {folder : Path} {drafts : List Draft} {fault : Fault}
    {session after : Session}
    (h : outcome (drafts.mapM (writeDraft folder)) session = (.error fault, after)) :
    fault.isOfWriting := by
  induction drafts generalizing session with
  | nil => simp at h
  | cons draft rest ih =>
    simp only [List.mapM_cons, outcome_bind_eq_error_iff, outcome_pure] at h
    rcases h with h | ⟨_, _, -, h | ⟨_, _, -, h⟩⟩
    · exact isOfWriting_of_writeDraft h
    · exact ih h
    · simp at h

/-- Only a run that has started to write reports may leave another disk when it fails. -/
theorem disk_of_outcome_run_error {setting : Setting} {request : Request} {fault : Fault}
    {session after : Session}
    (h : outcome (run setting request) session = (.error fault, after))
    (hfault : fault.isOfWriting = false) : after.disk = session.disk := by
  simp only [run, outcome_bind_eq_error_iff, outcome_look_eq_ok_iff, outcome_check_eq_ok_iff,
    outcome_pure] at h
  rcases h with h | ⟨inventory, looked, ⟨-, hlooked⟩, h | ⟨_, _, ⟨-, rfl⟩, h | ⟨_, _, ⟨-, rfl⟩,
    h | ⟨_, _, -, h⟩⟩⟩⟩
  · rw [outcome_look] at h
    exact (Prod.mk.inj h).2 ▸ rfl
  · rw [outcome_check] at h
    exact (Prod.mk.inj h).2 ▸ hlooked
  · rw [outcome_check] at h
    exact (Prod.mk.inj h).2 ▸ hlooked
  · -- the stage in which the reports are written
    simp only [outcome_staged outcome_say, Prod.mk.injEq] at h
    have hwriting := isOfWriting_of_writeDrafts (Prod.ext h.1 rfl)
    rw [hfault] at hwriting
    cases hwriting
  · simp [outcome_say] at h

end AddonAtlas.Run
