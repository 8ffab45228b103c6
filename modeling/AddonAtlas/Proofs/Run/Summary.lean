import AddonAtlas.Proofs.Run.Draft

/-!
# The summary and the other reports

Every count of the summary stands in another report too, where it was computed on its own
(`sources`).  The two agree (`drafts_agree`), whatever the surveys found: a chart counts in its metrics
what it counts in its body (`Chart.IsCounted`), no two charts have a count of the same name, and the
limits of a report cut what it lists, not what it counts (`Harvest.get?_size`).
-/

namespace AddonAtlas

open Document

/-! ## Counts and their fields -/

namespace Summary

/-- A count of the summary, and where it stands in another report. -/
structure Source where
  signal : String
  report : String
  field : String
  deriving DecidableEq

def sources : List Source := [
  ⟨"modules", "module-map", "module_count"⟩,
  ⟨"orm_models", "orm-model-map", "models_detected"⟩,
  ⟨"acl_entries", "security-map", "acl_count"⟩,
  ⟨"record_rules", "security-map", "record_rule_count"⟩,
  ⟨"views", "ui-map", "view_count"⟩,
  ⟨"inherited_views", "ui-map", "inherited_view_count"⟩,
  ⟨"routes", "route-map", "route_count"⟩,
  ⟨"public_routes", "route-map", "public_route_count"⟩]

end Summary

open Summary

theorem sources_apart : ∀ source ∈ sources,
    source.field ∉ Report.stampNames ∧ source.report ≠ "expert-summary" := by
  decide

/-- A chart counts the same in its metrics and in its body, and nothing that another report counts. -/
structure Chart.IsCounted (chart : Chart) : Prop where
  nodup : (chart.metrics.map (·.1)).Nodup
  own : ∀ source ∈ sources, source.report = chart.name →
    chart.body.get? source.field = some (.int (chart.metrics.get source.signal))
  other : ∀ source ∈ sources, source.report ≠ chart.name → chart.metrics.get source.signal = 0

/-- Of charts with different names at most one has a count, and its body shows the sum of all. -/
theorem sum_counts {charts : List Chart} (hnodup : (charts.map (·.name)).Nodup)
    (h : ∀ chart ∈ charts, chart.IsCounted) {source : Source} (hsource : source ∈ sources) :
    (∃ chart ∈ charts, chart.name = source.report ∧ chart.body.get? source.field =
      some (.int (charts.map (·.metrics.get source.signal)).sum)) ∨
    source.report ∉ charts.map (·.name) ∧
      (charts.map (·.metrics.get source.signal)).sum = 0 := by
  induction charts with
  | nil => exact .inr ⟨by simp, rfl⟩
  | cons chart charts ih =>
    obtain ⟨hnot, hrest⟩ := List.nodup_cons.1 hnodup
    have hchart := h chart List.mem_cons_self
    have ih := ih hrest fun c hc => h c (List.mem_cons_of_mem _ hc)
    rw [List.map_cons, List.sum_cons]
    by_cases hname : source.report = chart.name
    · have hzero : (charts.map (·.metrics.get source.signal)).sum = 0 := by
        rcases ih with ⟨c, hc, hsame, -⟩ | ⟨-, hzero⟩
        · exact absurd (List.mem_map.2 ⟨c, hc, hsame.trans hname⟩) hnot
        · exact hzero
      refine .inl ⟨chart, List.mem_cons_self, hname.symm, ?_⟩
      rw [hzero, add_zero]
      exact hchart.own source hsource hname
    · rw [hchart.other source hsource hname, zero_add]
      rcases ih with ⟨c, hc, hfield⟩ | ⟨hmissing, hzero⟩
      · exact .inl ⟨c, List.mem_cons_of_mem _ hc, hfield⟩
      · refine .inr ⟨?_, hzero⟩
        rw [List.map_cons, List.mem_cons]
        exact fun hmem => hmem.elim hname hmissing

theorem Addon.ModuleMap.isCounted (m : ModuleMap) : m.chart.IsCounted where
  nodup := by simp [chart]
  own := by simp [sources, chart, Metrics.get, Fields.get?, Value.count]
  other := by simp [sources, chart, Metrics.get, List.lookup]

/-! ## What surveys find -/

namespace Survey

/-- What a built-in survey found, with the limits of its report. -/
inductive Harvest
  | models (limits : Model.Limits) (classes : List Model.Class)
  | access (limits : Access.Limits) (entries : List Access.Entry) (rules : List Access.Rule)
  | screens (limits : Screen.Limits) (found : Screen.Parsed)
  | routes (limits : Route.Limits) (found : List Route.Entry)

theorem BuiltIn.report_injective : Function.Injective BuiltIn.report := by
  intro a b h
  cases a <;> cases b <;> first | rfl | exact absurd h (by decide)

namespace Harvest

def survey : Harvest → BuiltIn
  | .models .. => .models
  | .access .. => .access
  | .screens .. => .screens
  | .routes .. => .routes

/-- The chart that the survey draws of what it found. -/
def chart : Harvest → Chart
  | .models limits classes => Model.chart limits classes
  | .access limits entries rules => Access.chart limits entries rules
  | .screens limits found => Screen.chart limits found
  | .routes limits found => Route.chart limits found

/-- How much was found. -/
def size : Harvest → Nat
  | .models _ classes => classes.length
  | .access _ entries rules => entries.length + rules.length
  | .screens _ found => found.views.length + found.actions.length + found.menus.length
  | .routes _ found => found.length

/-- The fields of the report that enter the summary, each with the size of all that it counts. -/
def sizes : Harvest → List (String × Nat)
  | .models _ classes => [("models_detected", (classes.map (·.identity)).dedup.length)]
  | .access _ entries rules =>
    [("acl_count", entries.length), ("record_rule_count", rules.length)]
  | .screens _ found =>
    [("view_count", found.views.length),
      ("inherited_view_count", found.views.countP (·.isInherited))]
  | .routes _ found =>
    [("route_count", found.length), ("public_route_count", found.countP (·.isPublic))]

theorem name_chart (harvest : Harvest) : harvest.chart.name = harvest.survey.report := by
  cases harvest <;> rfl

theorem isCounted_chart (harvest : Harvest) : harvest.chart.IsCounted := by
  cases harvest <;> constructor <;>
    simp [sources, chart, Model.chart, Access.chart, Screen.chart, Route.chart, Metrics.get,
      Fields.get?, Value.count, List.lookup]

theorem within_chart (harvest : Harvest) : harvest.chart.metrics.Within harvest.size := by
  cases harvest with
  | models limits classes => exact Model.within_chart le_rfl limits
  | access limits entries rules =>
    exact Access.within_chart (Nat.le_add_right ..) (Nat.le_add_left ..) limits
  | screens limits found =>
    refine Screen.within_chart ?_ ?_ ?_ limits <;> simp only [size] <;> omega
  | routes limits found => exact Route.within_chart le_rfl limits

theorem length_filter_sortOn {α : Type} (key : α → Text.Key) (p : α → Bool) (members : List α) :
    ((Text.sortOn key members).filter p).length = members.countP p := by
  rw [← List.countP_eq_length_filter, (Text.sortOn_perm key members).countP_eq]

/-- There is one record for each name. -/
theorem length_records (classes : List Model.Class) :
    (Model.records classes).length = (classes.map (·.identity)).dedup.length := by
  rw [Model.records_eq, List.length_map, Text.sortNames, Text.length_sortOn,
    Text.distinctSorted_eq_sort, Finset.length_sort, List.card_toFinset]

/-- The counts of a report are the sizes of all that was found, whatever its limits. -/
theorem get?_size (harvest : Harvest) {entry : String × Nat} (h : entry ∈ harvest.sizes) :
    harvest.chart.body.get? entry.1 = some (.int entry.2) := by
  cases harvest with
  | models limits classes =>
    obtain rfl := List.mem_singleton.1 h
    simp [chart, Model.chart, Fields.get?, Value.count, length_records]
  | access limits entries rules =>
    simp only [sizes, List.mem_cons, List.not_mem_nil, or_false] at h
    rcases h with rfl | rfl <;>
      simp [chart, Access.chart, Fields.get?, Value.count, Access.sortEntries, Access.sortRules,
        Text.length_sortOn, List.lookup]
  | screens limits found =>
    simp only [sizes, List.mem_cons, List.not_mem_nil, or_false] at h
    rcases h with rfl | rfl <;>
      simp [chart, Screen.chart, Fields.get?, Value.count, Text.length_sortOn,
        length_filter_sortOn, List.lookup]
  | routes limits found =>
    simp only [sizes, List.mem_cons, List.not_mem_nil, or_false] at h
    rcases h with rfl | rfl <;>
      simp [chart, Route.chart, Fields.get?, Value.count, Route.sortEntries, Text.length_sortOn,
        length_filter_sortOn, List.lookup]

theorem size_notMem_stampNames (harvest : Harvest) {entry : String × Nat}
    (h : entry ∈ harvest.sizes) : entry.1 ∉ Report.stampNames := by
  cases harvest <;> simp only [sizes, List.mem_cons, List.not_mem_nil, or_false] at h
  · simp [h, Report.stampNames]
  all_goals rcases h with rfl | rfl <;> simp [Report.stampNames]

end Harvest

end Survey

namespace Run

open Survey

variable {inventory : Inventory} {harvests : List Harvest} {time : String} {drafts : List Draft}

/-! ## The fields of reports -/

/-- The value of a field in the report of a name. -/
def fieldOf (drafts : List Draft) (report field : String) : Option Value :=
  (drafts.find? (·.name == report)).bind (·.fields.get? field)

theorem fieldOf_cons (draft : Draft) (drafts : List Draft) (report field : String) :
    fieldOf (draft :: drafts) report field =
      if draft.name = report then draft.fields.get? field else fieldOf drafts report field := by
  rw [fieldOf, List.find?_cons]
  by_cases hname : draft.name = report
  · rw [if_pos hname, beq_iff_eq.2 hname, Option.bind_some]
  · rw [if_neg hname, beq_eq_false_iff_ne.2 hname, fieldOf]

theorem get?_stamped_body {field : String} (h : field ∉ Report.stampNames) (body : Fields)
    (stamp : Report.Stamp) : (Report.stamped body stamp).get? field = body.get? field := by
  have hnone : stamp.fields.get? field = none := by
    rw [Fields.get?, List.lookup_eq_none_iff]
    intro entry hentry
    rw [bne_iff_ne]
    rintro rfl
    exact h (List.mem_map_of_mem (f := (·.1)) hentry)
  rw [Report.get?_stamped, hnone, Option.none_or]

/-- A report shows the body of its chart. -/
theorem fieldOf_draft {charts : List Chart} (hdrafts : charts.mapM (inventory.draft time) = .ok drafts)
    (hnodup : (charts.map (·.name)).Nodup) {chart : Chart} (hchart : chart ∈ charts) {field : String}
    (hfield : field ∉ Report.stampNames) :
    fieldOf drafts chart.name field = chart.body.get? field := by
  rw [mapM_eq_ok_iff] at hdrafts
  induction hdrafts with
  | nil => cases hchart
  | @cons first draft charts drafts hdraft _ ih =>
    obtain ⟨confidence, -, rfl⟩ := Inventory.draft_eq_ok_iff.1 hdraft
    obtain ⟨hnot, hrest⟩ := List.nodup_cons.1 hnodup
    rw [fieldOf_cons]
    rcases List.mem_cons.1 hchart with rfl | hchart
    · rw [if_pos rfl]
      exact get?_stamped_body hfield _ _
    · rw [if_neg fun hname => hnot (List.mem_map.2 ⟨chart, hchart, hname.symm⟩)]
      exact ih hrest hchart

theorem fieldOf_missing {report : String} (h : report ∉ drafts.map (·.name)) (field : String) :
    fieldOf drafts report field = none := by
  have hnone : drafts.find? (·.name == report) = none := by
    rw [List.find?_eq_none]
    intro draft hdraft hname
    exact h (List.mem_map.2 ⟨draft, hdraft, beq_iff_eq.1 hname⟩)
  rw [fieldOf, hnone, Option.bind_none]

/-! ## Agreement -/

/-- The reports on what the surveys found agree with each other. -/
structure Inventory.Agrees (inventory : Inventory) (harvests : List Harvest) (drafts : List Draft) :
    Prop where
  names : drafts.map (·.name) =
    "module-map" :: harvests.map (·.survey.report) ++ ["expert-summary"]
  /-- The summary shows the counts of the other reports, and zero for those that there are not. -/
  metrics : fieldOf drafts "expert-summary" "metrics" = some (.object (sources.map fun source =>
    (source.signal, (fieldOf drafts source.report source.field).getD (.int 0))))
  absent : ∀ survey ∉ harvests.map (·.survey), ∀ field, fieldOf drafts survey.report field = none
  /-- The counts are the sizes of all that was found. -/
  modules : fieldOf drafts "module-map" "module_count" = some (.int inventory.modules.modules.length)
  sizes : ∀ harvest ∈ harvests, ∀ entry ∈ harvest.sizes,
    fieldOf drafts harvest.survey.report entry.1 = some (.int entry.2)
  impact : ∃ ranking, fieldOf drafts "module-map" "top_dependencies" = some (.list ranking) ∧
    fieldOf drafts "expert-summary" "high_impact_modules" = some (.list (ranking.take
      (min (inventory.settings.limits .highImpactModules) ranking.length)))
  risks : fieldOf drafts "expert-summary" "priority_risks" =
    some (.texts (harvests.flatMap (·.chart.risks)))

section Agreement

variable (hcharts : inventory.charts = harvests.map (·.chart))
  (hdistinct : (harvests.map (·.survey)).Nodup)

include hcharts

theorem names_reports : inventory.reports.map (·.name) =
    "module-map" :: harvests.map (·.survey.report) ++ ["expert-summary"] := by
  simp only [Inventory.reports, hcharts, List.cons_append, List.map_cons, List.map_append,
    List.map_map, Function.comp_def, Harvest.name_chart]
  rfl

include hdistinct

theorem nodup_reports : (inventory.reports.map (·.name)).Nodup := by
  have hreports : (harvests.map (·.survey.report)).Nodup := by
    have hnodup := hdistinct.map BuiltIn.report_injective
    rwa [List.map_map] at hnodup
  have hother (name : String) (hname : ∀ survey, BuiltIn.report survey ≠ name) :
      name ∉ harvests.map (·.survey.report) := by
    intro hmem
    obtain ⟨harvest, -, heq⟩ := List.mem_map.1 hmem
    exact hname _ heq
  rw [names_reports hcharts, List.cons_append, List.nodup_cons, List.nodup_append]
  refine ⟨?_, hreports, List.nodup_singleton _, ?_⟩
  · rw [List.mem_append, List.mem_singleton, not_or]
    exact ⟨hother _ fun survey => by cases survey <;> decide, by decide⟩
  · rintro name hname _ hlast rfl
    rw [List.mem_singleton] at hlast
    exact hother _ (fun survey => by cases survey <;> decide) (hlast ▸ hname)

/-- What the summary counts is what the other reports count. -/
theorem get_summary (hdrafts : inventory.reports.mapM (inventory.draft time) = .ok drafts)
    {source : Source} (hsource : source ∈ sources) :
    (fieldOf drafts source.report source.field).getD (.int 0) =
      .int (inventory.summary.metrics.get source.signal) := by
  have hnodup := nodup_reports hcharts hdistinct
  have hnames := Inventory.names_of_drafts hdrafts
  have hcounted : ∀ chart ∈ inventory.modules.chart :: inventory.charts, chart.IsCounted := by
    rw [hcharts]
    intro chart hchart
    rcases List.mem_cons.1 hchart with rfl | hchart
    · exact inventory.modules.isCounted
    · obtain ⟨harvest, -, rfl⟩ := List.mem_map.1 hchart
      exact harvest.isCounted_chart
  have hsum : inventory.summary.metrics.get source.signal =
      ((inventory.modules.chart :: inventory.charts).map (·.metrics.get source.signal)).sum := by
    have hgroups : ∀ group ∈ (inventory.modules.chart :: inventory.charts).map (·.metrics),
        (group.map (·.1)).Nodup := by
      intro group hgroup
      obtain ⟨chart, hchart, rfl⟩ := List.mem_map.1 hgroup
      exact (hcounted chart hchart).nodup
    have hmerge := Metrics.get_merge_of_nodup hgroups source.signal
    rw [List.map_map] at hmerge
    exact hmerge
  have hstamp := sources_apart source hsource
  have hdiffer := hnodup
  rw [Inventory.reports, List.map_append] at hdiffer
  rw [hsum]
  rcases sum_counts (List.nodup_append.1 hdiffer).1 hcounted hsource with
    ⟨chart, hchart, hname, hfield⟩ | ⟨hmissing, hzero⟩
  · rw [← hname, fieldOf_draft hdrafts hnodup (List.mem_append_left _ hchart) hstamp.1, hfield]
    rfl
  · rw [fieldOf_missing _ source.field, hzero]
    · rfl
    · rw [hnames, Inventory.reports, List.map_append, List.mem_append, not_or]
      refine ⟨hmissing, ?_⟩
      exact fun hlast => hstamp.2 (List.mem_singleton.1 hlast)

theorem agrees_of_drafts (hdrafts : inventory.reports.mapM (inventory.draft time) = .ok drafts) :
    inventory.Agrees harvests drafts := by
  have hnodup := nodup_reports hcharts hdistinct
  have hnames := (Inventory.names_of_drafts hdrafts).trans (names_reports hcharts)
  have hmodules {field : String} (hfield : field ∉ Report.stampNames) :
      fieldOf drafts "module-map" field = inventory.modules.chart.body.get? field :=
    fieldOf_draft hdrafts hnodup List.mem_cons_self hfield
  have hsummary {field : String} (hfield : field ∉ Report.stampNames) :
      fieldOf drafts "expert-summary" field = inventory.summary.body.get? field :=
    fieldOf_draft hdrafts hnodup (List.mem_append_right _ (List.mem_singleton.2 rfl)) hfield
  refine ⟨hnames, ?_, ?_, ?_, ?_, ?_, ?_⟩
  · have hshown : sources.map (fun source =>
        (source.signal, (fieldOf drafts source.report source.field).getD (.int 0))) =
        sources.map fun source =>
          (source.signal, .int (inventory.summary.metrics.get source.signal)) :=
      List.map_congr_left fun source hsource => by
        rw [get_summary hcharts hdistinct hdrafts hsource]
    rw [hsummary (by decide), hshown]
    rfl
  · intro survey hsurvey field
    refine fieldOf_missing ?_ field
    rw [hnames, List.cons_append, List.mem_cons, List.mem_append, List.mem_singleton]
    rintro (hfirst | hreport | hlast)
    · cases survey <;> exact absurd hfirst (by decide)
    · obtain ⟨harvest, hharvest, heq⟩ := List.mem_map.1 hreport
      exact hsurvey (List.mem_map.2 ⟨harvest, hharvest, BuiltIn.report_injective heq⟩)
    · cases survey <;> exact absurd hlast (by decide)
  · exact hmodules (by decide)
  · intro harvest hharvest entry hentry
    have hchart : harvest.chart ∈ inventory.reports := by
      refine List.mem_append_left _ (List.mem_cons_of_mem _ ?_)
      rw [hcharts]
      exact List.mem_map_of_mem hharvest
    rw [← harvest.name_chart,
      fieldOf_draft hdrafts hnodup hchart (harvest.size_notMem_stampNames hentry)]
    exact harvest.get?_size hentry
  · refine ⟨inventory.modules.ranking.map ranked, hmodules (by decide), ?_⟩
    rw [hsummary (by decide), ← List.take_eq_take_min, ← List.map_take]
    rfl
  · rw [hsummary (by decide)]
    have hrisks : inventory.charts.flatMap (·.risks) = harvests.flatMap (·.chart.risks) := by
      rw [hcharts, List.flatMap_map]
    rw [← hrisks]
    rfl

end Agreement

/-- Whatever the surveys found, the summary shows what the other reports show, and these count all that
was found.  The reports can be drawn up unless more was found than any number can hold. -/
theorem drafts_agree (inventory : Inventory) (harvests : List Harvest)
    (hcharts : inventory.charts = harvests.map (·.chart))
    (hdistinct : (harvests.map (·.survey)).Nodup) (time : String) :
    (∀ drafts, inventory.reports.mapM (inventory.draft time) = .ok drafts →
      inventory.Agrees harvests drafts) ∧
    (inventory.modules.modules.length < 2 ^ 190 → (∀ harvest ∈ harvests, harvest.size < 2 ^ 190) →
      ∃ drafts, inventory.reports.mapM (inventory.draft time) = .ok drafts) := by
  refine ⟨fun drafts => agrees_of_drafts hcharts hdistinct, fun hmodules hharvests => ?_⟩
  have hbound : 20 * 2 ^ 190 < 2 ^ 200 := by decide
  refine Inventory.exists_drafts_of_inRange (Inventory.inRange_of_within hbound ?_ ?_) time
  · have hall : harvests.map (·.survey) ⊆ builtIns := fun survey _ => by cases survey <;> decide
    have hlength := (hdistinct.subperm hall).length_le
    rw [List.length_map] at hlength
    rwa [hcharts, List.length_map]
  · rw [hcharts]
    intro group hgroup
    rcases List.mem_cons.1 hgroup with rfl | hgroup
    · exact inventory.modules.within_chart.mono hmodules.le
    · obtain ⟨chart, hchart, rfl⟩ := List.mem_map.1 hgroup
      obtain ⟨harvest, hharvest, rfl⟩ := List.mem_map.1 hchart
      exact harvest.within_chart.mono (hharvests harvest hharvest).le

/-- A public route, and three access entries of which the report has room for one. -/
def sampleHarvests : List Harvest := [
  .routes {} [{ module := "sale", file := "main.py", route := "/shop", auth := "public" }],
  .access ⟨1, 1⟩ Access.sampleEntries [Access.sampleGlobal]]

def sampleInventory : Inventory where
  workspace := { root := "/", parts := ["ws"] }
  repository := { root := "/", parts := ["ws", "odoo"] }
  settings := {}
  outputFolder := { root := "/", parts := ["out"] }
  modules := {
    modules := [{ name := "sale", path := "sale", folder := { root := "/", parts := ["sale"] } }]
    dependencies := [("base", 1)] }
  charts := sampleHarvests.map (·.chart)
  diagnostics := {}

theorem drafts_agree_sample : (sampleHarvests.map (·.survey)).Nodup ∧
    ∃ drafts, sampleInventory.reports.mapM (sampleInventory.draft "") = .ok drafts ∧
      fieldOf drafts "security-map" "acl_count" = some (.int 3) ∧
      fieldOf drafts "expert-summary" "metrics" = some (.object [("modules", .int 1),
        ("orm_models", .int 0), ("acl_entries", .int 3), ("record_rules", .int 1),
        ("views", .int 0), ("inherited_views", .int 0), ("routes", .int 1),
        ("public_routes", .int 1)]) := by
  have hdistinct : (sampleHarvests.map (·.survey)).Nodup := by decide
  obtain ⟨hagree, hexists⟩ := drafts_agree sampleInventory sampleHarvests rfl hdistinct ""
  obtain ⟨drafts, hdrafts⟩ := hexists (by decide) (by
    intro harvest hharvest
    simp only [sampleHarvests, List.mem_cons, List.not_mem_nil, or_false] at hharvest
    rcases hharvest with rfl | rfl <;> decide)
  have h := hagree drafts hdrafts
  have hroutes := h.sizes _ List.mem_cons_self
  have haccess := h.sizes _ (List.mem_cons_of_mem _ List.mem_cons_self)
  have hmodules : fieldOf drafts "module-map" "module_count" = some (.int 1) := h.modules
  have hentries : fieldOf drafts "security-map" "acl_count" = some (.int 3) :=
    haccess ("acl_count", 3) (by decide)
  have hrules : fieldOf drafts "security-map" "record_rule_count" = some (.int 1) :=
    haccess ("record_rule_count", 1) (by decide)
  have hcount : fieldOf drafts "route-map" "route_count" = some (.int 1) :=
    hroutes ("route_count", 1) (by decide)
  have hpublic : fieldOf drafts "route-map" "public_route_count" = some (.int 1) :=
    hroutes ("public_route_count", 1) (by decide)
  have hmodels (field : String) : fieldOf drafts "orm-model-map" field = none :=
    h.absent .models (by decide) field
  have hscreens (field : String) : fieldOf drafts "ui-map" field = none :=
    h.absent .screens (by decide) field
  refine ⟨hdistinct, drafts, hdrafts, hentries, ?_⟩
  rw [h.metrics]
  simp only [sources, List.map_cons, List.map_nil, hmodules, hentries, hrules, hcount, hpublic,
    hmodels, hscreens, Option.getD_some, Option.getD_none]

end Run

end AddonAtlas
