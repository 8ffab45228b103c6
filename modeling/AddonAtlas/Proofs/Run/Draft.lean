import AddonAtlas.Proofs.Outcome
import AddonAtlas.Proofs.Report.Score
import AddonAtlas.Proofs.Run.Repository

/-!
# The reports of a run

The reports of an inventory have the names that the settings ask for, in order
(`Inventory.IsOf.names`), a page can be made of each, and where the limits are the usual ones there is
a score for each (`Inventory.IsOf.exists_drafts`).  Reports can be written wherever no folder and no
link stands in the place of one of their files (`exists_inscribes`).
-/

namespace AddonAtlas

open Files Files.Entry

theorem map_eq_of_forall₂ {α β γ : Type} {R : α → β → Prop} {f : α → γ} {g : β → γ}
    (hR : ∀ a b, R a b → g b = f a) {items : List α} {results : List β}
    (h : List.Forall₂ R items results) : results.map g = items.map f := by
  induction h with
  | nil => rfl
  | cons hfirst _ ih => rw [List.map_cons, List.map_cons, hR _ _ hfirst, ih]

namespace Run

open Survey

variable {inventory : Inventory} {request : Request} {workspace repository folder : Path}
  {settings : Settings}

/-! ## Names -/

/-- The names of the reports that settings ask for, in order. -/
def reportsOf (settings : Settings) : List String :=
  "module-map" :: (builtIns.filter (·.isEnabled settings.surveys)).map (·.report) ++
    ["expert-summary"]

theorem reportsOf_sublist (settings : Settings) : (reportsOf settings).Sublist reportNames := by
  have hall : reportNames = "module-map" :: builtIns.map (·.report) ++ ["expert-summary"] := by
    decide
  rw [hall]
  exact ((List.filter_sublist.map _).cons_cons _).append_right _

theorem nodup_reportsOf (settings : Settings) : (reportsOf settings).Nodup :=
  (reportsOf_sublist settings).nodup (by decide)

namespace Inventory

/-- The reports are those that the settings ask for. -/
theorem IsOf.names (h : inventory.IsOf request workspace repository settings folder) :
    inventory.reports.map (·.name) = reportsOf settings := by
  have hcharts : inventory.charts.map (·.name) =
      (builtIns.filter (·.isEnabled settings.surveys)).map (·.report) :=
    map_eq_of_forall₂ (fun _ _ hchart => hchart.name) h.charts
  simp only [reports, reportsOf, List.cons_append, List.map_cons, List.map_append, hcharts]
  rfl

theorem isPresentable_summary (inventory : Inventory) : inventory.summary.IsPresentable where
  page := Report.hasPage_summary ..
  nodup := by simp [summary, summaryChart, Summary.body, Report.stampNames]

/-- A page can be made of each report. -/
theorem IsOf.presentable (h : inventory.IsOf request workspace repository settings folder) :
    ∀ chart ∈ inventory.reports, chart.IsPresentable := by
  intro chart hchart
  rcases mem_reports.1 hchart with rfl | hchart | rfl
  · exact inventory.modules.isPresentable
  · obtain ⟨survey, -, hchart⟩ := Scan.exists_of_forall₂ h.charts hchart
    exact hchart.presentable
  · exact inventory.isPresentable_summary

/-! ## Scores -/

/-- What the report of a chart says about itself. -/
def stamp (inventory : Inventory) (time : String) (chart : Chart) (confidence : Number.Binary64) :
    Report.Stamp where
  artifact := chart.name
  generatedAt := time
  repository := Path.relativeText inventory.workspace inventory.repository
  confidence
  provenance := {
    scanRoots := scanRoots (Path.relativeText inventory.workspace inventory.repository) chart
    method := chart.method
    assumptions := chart.assumptions ++ [Confidence.note] }

theorem draft_eq_ok_iff {time : String} {chart : Chart} {draft : Draft} :
    inventory.draft time chart = .ok draft ↔ ∃ confidence,
      Confidence.score inventory.settings.confidence Confidence.weights chart.metrics =
        .ok confidence ∧
      draft = ⟨chart.name, confidence,
        Report.stamped chart.body (inventory.stamp time chart confidence)⟩ := by
  unfold Inventory.draft Run.draft
  cases Confidence.score inventory.settings.confidence Confidence.weights chart.metrics with
  | error fault => simp [bind, Except.bind]
  | ok confidence => simp [bind, Except.bind, pure, Except.pure, stamp, eq_comm]

theorem names_of_drafts {time : String} {charts : List Chart} {drafts : List Draft}
    (h : charts.mapM (inventory.draft time) = .ok drafts) :
    drafts.map (·.name) = charts.map (·.name) := by
  refine map_eq_of_forall₂ (fun chart draft hdraft => ?_) (mapM_eq_ok_iff.1 h)
  obtain ⟨confidence, -, rfl⟩ := draft_eq_ok_iff.1 hdraft
  rfl

/-- The page of every report can be written. -/
theorem IsOf.exists_page (h : inventory.IsOf request workspace repository settings folder)
    {time : String} {drafts : List Draft}
    (hdrafts : inventory.reports.mapM (inventory.draft time) = .ok drafts) :
    ∀ draft ∈ drafts, ∃ page, Report.page draft.fields = .ok page := by
  intro draft hdraft
  obtain ⟨chart, hchart, hdraft⟩ := Scan.exists_of_forall₂ (mapM_eq_ok_iff.1 hdrafts) hdraft
  obtain ⟨confidence, -, rfl⟩ := draft_eq_ok_iff.1 hdraft
  obtain ⟨names, more, parts, -, hpage⟩ := (h.presentable chart hchart).page
  exact ⟨_, hpage (inventory.stamp time chart confidence) rfl⟩

end Inventory

/-! ## Times -/

/-- The time of a report as its data show it. -/
def timeInData (time : String) : String :=
  "\"generated_at\": " ++ .ofList (Document.jsonString time)

/-- The time of a report as its page shows it. -/
def timeInPage (time : String) : String :=
  "\n- generated_at: " ++ time ++ "\n"

/-- Two texts are the same but for the time that they show. -/
def SameButTime (mark : String → String) (time time' text text' : String) : Prop :=
  ∃ first rest, text = first ++ mark time ++ rest ∧ text' = first ++ mark time' ++ rest

/-- A report that was made again at another time. -/
structure IsRedated (time time' : String) (draft draft' : Draft) : Prop where
  name : draft'.name = draft.name
  confidence : draft'.confidence = draft.confidence
  data : SameButTime timeInData time time' (Document.Value.object draft.fields).json
    (Document.Value.object draft'.fields).json
  page : SameButTime timeInPage time time' draft.page draft'.page

theorem page_mk (name : String) (confidence : Number.Binary64) {fields : Document.Fields}
    {page : String} (h : Report.page fields = .ok page) :
    Draft.page ⟨name, confidence, fields⟩ = page ++ "\n" := by
  rw [Draft.page, h]
  rfl

theorem isRedated_of_draft {chart : Chart} (h : chart.IsPresentable) {time : String} {draft : Draft}
    (hdraft : inventory.draft time chart = .ok draft) (time' : String) :
    ∃ draft', inventory.draft time' chart = .ok draft' ∧ IsRedated time time' draft draft' := by
  obtain ⟨confidence, hscore, rfl⟩ := Inventory.draft_eq_ok_iff.1 hdraft
  refine ⟨_, Inventory.draft_eq_ok_iff.2 ⟨confidence, hscore, rfl⟩, rfl, rfl, ?_, ?_⟩
  · obtain ⟨first, rest, htext⟩ :=
      Report.json_time h.nodup (inventory.stamp time chart confidence)
    have hdata (moment : String) : (Document.Value.object
        (Report.stamped chart.body (inventory.stamp moment chart confidence))).json =
          first ++ timeInData moment ++ rest := by
      refine (htext moment).trans ?_
      unfold timeInData
      simp only [String.append_assoc]
    exact ⟨first, rest, hdata time, hdata time'⟩
  · have hname : (inventory.stamp time chart confidence).artifact = chart.name := rfl
    obtain ⟨first, rest, htext⟩ := Report.page_time h.page hname
    have hpage (moment : String) : Draft.page ⟨chart.name, confidence,
        Report.stamped chart.body (inventory.stamp moment chart confidence)⟩ =
          first ++ timeInPage moment ++ (rest ++ "\n") := by
      have hmoment : (inventory.stamp time chart confidence).withTime moment =
        inventory.stamp moment chart confidence := rfl
      have hpage := htext moment
      rw [hmoment] at hpage
      refine (page_mk _ _ hpage).trans ?_
      unfold timeInPage
      simp only [String.append_assoc]
    exact ⟨first, rest ++ "\n", hpage time, hpage time'⟩

/-- All reports can be made again at another time. -/
theorem exists_redated {charts : List Chart} (h : ∀ chart ∈ charts, chart.IsPresentable)
    {time : String} {drafts : List Draft}
    (hdrafts : charts.mapM (inventory.draft time) = .ok drafts) (time' : String) :
    ∃ drafts', charts.mapM (inventory.draft time') = .ok drafts' ∧
      List.Forall₂ (IsRedated time time') drafts drafts' := by
  rw [mapM_eq_ok_iff] at hdrafts
  simp only [mapM_eq_ok_iff]
  induction hdrafts with
  | nil => exact ⟨[], .nil, .nil⟩
  | @cons chart draft charts drafts hdraft _ ih =>
    obtain ⟨draft', hdraft', hredated⟩ :=
      isRedated_of_draft (h chart List.mem_cons_self) hdraft time'
    obtain ⟨drafts', hdrafts', hall⟩ := ih fun chart hchart => h chart (List.mem_cons_of_mem _ hchart)
    exact ⟨draft' :: drafts', .cons hdraft' hdrafts', .cons hredated hall⟩

/-! ## Scores -/

theorem get_le_of_within {metrics : Metrics} {bound : Nat} (h : metrics.Within bound)
    (signal : String) : metrics.get signal ≤ bound := by
  unfold Metrics.get
  cases hlookup : metrics.lookup signal with
  | none => simp
  | some count =>
    obtain ⟨before, after, hmetrics, -⟩ := List.lookup_eq_some_iff.1 hlookup
    exact (h.2 (signal, count) (by simp [hmetrics])).2

theorem get_merge_le_of_within {groups : List Metrics} {bound : Nat}
    (h : ∀ group ∈ groups, group.Within bound) (signal : String) :
    (Metrics.merge groups).get signal ≤ groups.length * 4 * bound := by
  have hmerge := Metrics.get_merge_le (fun group hgroup entry hentry =>
    ((h group hgroup).2 entry hentry).1) signal
  have hlength : groups.flatten.length ≤ groups.length * 4 := by
    rw [← List.flatMap_id]
    exact length_flatMap_le fun group hgroup => (h group hgroup).1
  have hsum : (groups.flatten.map (·.2)).sum ≤ (groups.flatten.map (·.2)).length • (bound : Int) := by
    refine List.sum_le_card_nsmul _ _ fun count hcount => ?_
    obtain ⟨entry, hentry, rfl⟩ := List.mem_map.1 hcount
    obtain ⟨group, hgroup, hentry⟩ := List.mem_flatten.1 hentry
    exact ((h group hgroup).2 entry hentry).2
  rw [List.length_map, nsmul_eq_mul] at hsum
  have hall : (groups.flatten.length : Int) * bound ≤ groups.length * 4 * bound := by
    exact_mod_cast Nat.mul_le_mul_right bound hlength
  omega

/-- The largest of the usual limits. -/
def largestLimit : Nat := 220000

theorem usual_le_largestLimit (limit : Settings.Limit) : limit.usual ≤ largestLimit := by
  cases limit <;> decide

theorem inRange_of_le {metrics : Metrics} (bound : Nat) (hbound : bound < 2 ^ 200)
    (h : ∀ signal, metrics.get signal ≤ bound) : Confidence.InRange metrics := by
  intro signal
  have := h signal
  omega

namespace Inventory

/-- With the usual limits all counts are bounded. -/
theorem IsOf.within (h : inventory.IsOf request workspace repository settings folder)
    (hlimits : settings.limits = Settings.Limit.usual) :
    ∀ group ∈ inventory.modules.chart.metrics :: inventory.charts.map (·.metrics),
      group.Within ((largestLimit + 1) ^ 4) := by
  have hlimit (limit : Settings.Limit) : settings.limits limit ≤ largestLimit :=
    hlimits ▸ usual_le_largestLimit limit
  have hfew : inventory.modules.modules.length ≤ largestLimit := h.few.trans (hlimit _)
  intro group hgroup
  rcases List.mem_cons.1 hgroup with rfl | hgroup
  · exact inventory.modules.within_chart.mono (hfew.trans (by decide))
  · obtain ⟨chart, hchart, rfl⟩ := List.mem_map.1 hgroup
    obtain ⟨survey, -, hchart⟩ := Scan.exists_of_forall₂ h.charts hchart
    exact hchart.within largestLimit hfew hlimit

/-- A few charts with bounded counts have counts in range, and so has their summary. -/
theorem inRange_of_within {bound : Nat} (hbound : 20 * bound < 2 ^ 200)
    (hlength : inventory.charts.length ≤ 4)
    (hwithin : ∀ group ∈ inventory.modules.chart.metrics :: inventory.charts.map (·.metrics),
      group.Within bound) :
    ∀ chart ∈ inventory.reports, Confidence.InRange chart.metrics := by
  intro chart hchart
  rcases mem_reports.1 hchart with rfl | hchart | rfl
  · exact inRange_of_le bound (by omega) (get_le_of_within (hwithin _ List.mem_cons_self))
  · have hgroup := hwithin _ (List.mem_cons_of_mem _ (List.mem_map_of_mem hchart))
    exact inRange_of_le bound (by omega) (get_le_of_within hgroup)
  · -- at most five groups of at most four counts are added up
    have hcounts : (inventory.charts.length + 1) * 4 * bound ≤ 20 * bound :=
      Nat.mul_le_mul_right _ (by omega)
    refine inRange_of_le (20 * bound) hbound fun signal => ?_
    refine (get_merge_le_of_within hwithin signal).trans ?_
    rw [List.length_cons, List.length_map]
    exact_mod_cast hcounts

theorem IsOf.inRange (h : inventory.IsOf request workspace repository settings folder)
    (hlimits : settings.limits = Settings.Limit.usual) :
    ∀ chart ∈ inventory.reports, Confidence.InRange chart.metrics := by
  refine inRange_of_within (by decide) ?_ (h.within hlimits)
  rw [← h.charts.length_eq]
  exact List.length_filter_le _ builtIns

theorem exists_drafts_of_inRange
    (h : ∀ chart ∈ inventory.reports, Confidence.InRange chart.metrics) (time : String) :
    ∃ drafts, inventory.reports.mapM (inventory.draft time) = .ok drafts := by
  refine Report.exists_mapM_ok fun chart hchart => ?_
  obtain ⟨confidence, hconfidence⟩ :=
    Confidence.exists_score (h chart hchart) inventory.settings.confidence
  exact ⟨_, draft_eq_ok_iff.2 ⟨confidence, hconfidence, rfl⟩⟩

/-- With the usual limits there is a score for each report. -/
theorem IsOf.exists_drafts (h : inventory.IsOf request workspace repository settings folder)
    (hlimits : settings.limits = Settings.Limit.usual) (time : String) :
    ∃ drafts, inventory.reports.mapM (inventory.draft time) = .ok drafts :=
  exists_drafts_of_inRange (h.inRange hlimits) time

end Inventory

/-! ## Writing -/

/-- Can a file be written at a place? Nothing stands there, or another file. -/
def TakesFile (disk : Disk) (location : Location) : Prop :=
  disk.top.nodeAt location = none ∨ ∃ content, disk.top.nodeAt location = some (.file content)

/-- A file can be written into a folder, and what can be written stays so. -/
theorem exists_writeFile {disk : Disk} {place : Location} {entries : List (String × Entry)}
    (hfind : disk.find folder = .ok (place, .folder entries)) {name : String}
    (hname : isUsable name) (htakes : TakesFile disk (place ++ [name])) (content : ByteArray) :
    ∃ after, disk.writeFile (folder.below [name]) content = .ok after ∧
      (∃ entries', after.find folder = .ok (place, .folder entries')) ∧
      ∀ location, TakesFile disk location → TakesFile after location := by
  have hlink (target : String) : disk.top.at? (place ++ [name]) ≠ some (.link target) := by
    intro hat
    have hnode := nodeAt_eq_link_iff.2 hat
    rcases htakes with hnone | ⟨old, hfile⟩
    · rw [hnone] at hnode
      cases hnode
    · rw [hfile] at hnode
      cases hnode
  have hfree : disk.top.nodeAt (place ++ [name]) ≠ some .folder := by
    rcases htakes with hnone | ⟨old, hfile⟩
    · simp [hnone]
    · simp [hfile]
  have hplace := nodeAt_eq_folder_iff.2 ⟨entries, Disk.at?_of_find hfind⟩
  have hnode := nodeAt_put hplace (isBare_file content) hfree
  have hgrows : Disk.Grows disk (disk.put place name (.file content)) := by
    refine ⟨grows_put hplace (isBare_file content) ?_, rfl, rfl, rfl⟩
    rcases htakes with hnone | ⟨old, hfile⟩
    · simp [hnone]
    · simp [hfile, node, Node.Alike]
  refine ⟨_, Disk.writeFile_below hfind hname hlink hfree content, hgrows.find_folder hfind, ?_⟩
  intro location hlocation
  unfold TakesFile Disk.put
  rw [hnode]
  by_cases heq : location = place ++ [name]
  · rw [if_pos heq]
    exact Or.inr ⟨content, rfl⟩
  · rw [if_neg heq]
    exact hlocation

/-- Reports can be written into a folder that is there. -/
theorem exists_inscribes {disk : Disk} {place : Location} {entries : List (String × Entry)}
    (hfind : disk.find folder = .ok (place, .folder entries)) {drafts : List Draft}
    (hnames : ∀ draft ∈ drafts, draft.name ∈ reportNames)
    (hpages : ∀ draft ∈ drafts, ∃ page, Report.page draft.fields = .ok page)
    (htakes : ∀ draft ∈ drafts, ∀ ending ∈ endings,
      TakesFile disk (place ++ [draft.name ++ ending])) :
    ∃ after, Inscribes folder drafts disk after := by
  induction drafts generalizing disk entries with
  | nil => exact ⟨disk, .nil disk⟩
  | cons draft rest ih =>
    have hjson : ".json" ∈ endings := by decide
    have hmd : ".md" ∈ endings := by decide
    have hname := hnames draft List.mem_cons_self
    obtain ⟨page, hpage⟩ := hpages draft List.mem_cons_self
    have hfolder : outcome (Change.folders folder) disk = (.ok (), disk) :=
      Change.outcome_foldersFrom_of_hasFolder (Disk.hasFolder_iff.2 ⟨place, entries, hfind⟩)
    obtain ⟨filled, hfilled, ⟨entries', hfind'⟩, hkeep⟩ := exists_writeFile hfind
      (isUsable_file _ hname _ hjson) (htakes draft List.mem_cons_self _ hjson)
      (Document.Value.object draft.fields).json.toUTF8
    obtain ⟨full, hfull, ⟨entries'', hfind''⟩, hkeep'⟩ := exists_writeFile hfind'
      (isUsable_file _ hname _ hmd) (hkeep _ (htakes draft List.mem_cons_self _ hmd))
      (page ++ "\n").toUTF8
    obtain ⟨after, hrest⟩ := ih hfind''
      (fun other hother => hnames other (List.mem_cons_of_mem _ hother))
      (fun other hother => hpages other (List.mem_cons_of_mem _ hother))
      fun other hother ending hending => hkeep' _ (hkeep _
        (htakes other (List.mem_cons_of_mem _ hother) ending hending))
    rw [← artifact_data hname] at hfilled
    rw [← artifact_page hname] at hfull
    exact ⟨after, .cons hfolder hfilled hpage hfull hrest⟩

/-- The folder of the reports may as well be made before. -/
theorem Inscribes.of_made {disk made after : Disk} {draft : Draft} {rest : List Draft}
    (h : Inscribes folder (draft :: rest) made after)
    (hmade : outcome (Change.folders folder) disk = (.ok (), made)) :
    Inscribes folder (draft :: rest) disk after := by
  obtain - | ⟨hfolder, hdata, htext, hpage, hrest⟩ := h
  have hagain : outcome (Change.folders folder) made = (.ok (), made) :=
    Change.outcome_foldersFrom_of_hasFolder (Change.gains_folders hmade).found
  rw [hagain, Prod.mk.injEq] at hfolder
  obtain ⟨-, rfl⟩ := hfolder
  exact .cons hmade hdata htext hpage hrest

end Run

end AddonAtlas
