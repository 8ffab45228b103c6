import AddonAtlas.Addon.Module
import AddonAtlas.Model.Map
import AddonAtlas.Proofs.Access.Page
import AddonAtlas.Route.Map
import AddonAtlas.Screen.Map

/-!
# The pages of the reports

The page of every report of a run can be written (`hasPage_modules` and the others): its fields are
those that the page shows.  A page is its head followed by parts that do not depend on the stamp.
-/

namespace AddonAtlas.Report

open Document

theorem exists_mapM_ok {ε α β : Type} {f : α → Except ε β} {items : List α}
    (h : ∀ a ∈ items, ∃ b, f a = .ok b) : ∃ results, items.mapM f = .ok results := by
  induction items with
  | nil => exact ⟨[], rfl⟩
  | cons a items ih =>
    obtain ⟨b, hb⟩ := h a List.mem_cons_self
    obtain ⟨results, hresults⟩ := ih fun a' ha' => h a' (List.mem_cons_of_mem _ ha')
    refine ⟨b :: results, ?_⟩
    rw [List.mapM_cons, hb, hresults]
    rfl

theorem exists_mapM_map_ok {α β : Type} {f : Value → Except Fault β} {value : α → Value}
    (h : ∀ a, ∃ b, f (value a) = .ok b) (items : List α) :
    ∃ results, (items.map value).mapM f = .ok results :=
  exists_mapM_ok (List.forall_mem_map.2 fun a _ => h a)

theorem textsFrom_texts (position : Nat) (texts : List String) :
    Value.textsFrom position (texts.map .text) = .ok texts := by
  induction texts generalizing position with
  | nil => rfl
  | cons text texts ih =>
    rw [List.map_cons, Value.textsFrom, ih]
    rfl

theorem join_texts (separator : String) (texts : List String) :
    (Value.texts texts).join separator = .ok (joinWith separator texts) := by
  simp only [Value.texts, Value.join, Value.items, textsFrom_texts, bind, Except.bind, pure,
    Except.pure]

/-- The page of a report with this name and body can be written: its head, parts that do not depend on
the stamp, and the provenance. -/
def HasPage (name : String) (body : Fields) : Prop :=
  ∃ names more parts, "generated_at" ∉ names ∧ ∀ stamp : Stamp, stamp.artifact = name →
    page (stamped body stamp) = .ok (joinWith "\n" (head (stamped body stamp) names more ++ parts ++
      part "Provenance" stamp.provenance.lines))

theorem exists_countLine (entry : String × Int) :
    ∃ line, countLine (Summary.ranked entry) = .ok line := ⟨_, rfl⟩

theorem exists_moduleLines (m : Addon.Module) : ∃ lines, moduleLines m.value = .ok lines := by
  have hlines : moduleLines m.value = (Value.texts m.depends).join ", " >>= fun depends =>
      .ok ["- " ++ m.name ++ " (" ++ m.path ++ ")", "  - depends: " ++ textOr "none" depends,
        "  - data_files: " ++ toString (m.dataFiles.map Value.text).length,
        "  - demo_files: " ++ toString (m.demoFiles.map Value.text).length] := rfl
  rw [hlines, join_texts]
  exact ⟨_, rfl⟩

theorem hasPage_modules (m : Addon.ModuleMap) : HasPage "module-map" m.chart.body := by
  obtain ⟨dependencies, hdependencies⟩ := exists_mapM_map_ok exists_countLine m.ranking
  obtain ⟨modules, hmodules⟩ := exists_mapM_map_ok exists_moduleLines (m.modules.take 120)
  refine ⟨["module_count"], [], part "Top Dependencies" dependencies ++
    part "Module Sample" modules.flatten, by simp, fun stamp hname => ?_⟩
  have hranking : (stamped m.chart.body stamp).getD "top_dependencies" (.list []) =
      .list (m.ranking.map Summary.ranked) := by
    rw [getD_stamped]
    rfl
  have hmap : (stamped m.chart.body stamp).getD "modules" (.list []) =
      .list (m.modules.map (·.value)) := by
    rw [getD_stamped]
    rfl
  rw [page, nameOf_stamped, hname]
  simp only [modulePage, hranking, hmap, Value.items, Value.firstItems, ← List.map_take, bind,
    Except.bind, hdependencies, hmodules, provenancePart_stamped, pure, Except.pure,
    List.append_assoc]

theorem hasPage_models (limits : Model.Limits) (classes : List Model.Class) :
    HasPage "orm-model-map" (Model.chart limits classes).body := by
  have hline (r : Model.Record) : ∃ line, hotspotLine r.hotspotValue = .ok line := ⟨_, rfl⟩
  obtain ⟨hotspots, hhotspots⟩ := exists_mapM_map_ok hline
    (Model.hotspots limits.hotspots (Model.records classes))
  refine ⟨["models_detected", "raw_class_entries"], [], part "Model Hotspots" hotspots, by simp,
    fun stamp hname => ?_⟩
  have hsample : (stamped (Model.chart limits classes).body stamp).getD "hotspots" (.list []) =
      .list ((Model.hotspots limits.hotspots (Model.records classes)).map (·.hotspotValue)) := by
    rw [getD_stamped]
    rfl
  rw [page, nameOf_stamped, hname]
  simp only [modelPage, hsample, Value.items, bind, Except.bind, hhotspots, provenancePart_stamped,
    pure, Except.pure]

theorem hasPage_access (limits : Access.Limits) (entries : List Access.Entry)
    (rules : List Access.Rule) :
    HasPage "security-map" (Access.chart limits entries rules).body := by
  refine ⟨["acl_count", "record_rule_count"],
    ["- risky_acl_entries: " ++ toString (Access.riskySample limits entries).length,
      "- global_record_rules: " ++ toString (Access.globalSample limits rules).length],
    part "Risky ACL Sample" (((Access.riskySample limits entries).take 80).map Access.Entry.line) ++
      part "Global Record Rules Sample"
        (((Access.globalSample limits rules).take 80).map Access.Rule.line),
    by simp, fun stamp hname => ?_⟩
  rw [Access.page_chart limits entries rules hname, Access.pageLines,
    Access.head_chart limits entries rules hname]
  simp only [List.append_assoc]

theorem hasPage_screens (limits : Screen.Limits) (found : Screen.Parsed) :
    HasPage "ui-map" (Screen.chart limits found).body := by
  have hline (v : Screen.View) : ∃ line, viewLine v.value = .ok line := ⟨_, rfl⟩
  let inherited := ((Text.sortOn (fun v : Screen.View => Screen.entryKey v.module v.file v.id)
    found.views).filter (·.isInherited)).take limits.inheritedViews
  obtain ⟨views, hviews⟩ := exists_mapM_map_ok hline (inherited.take 100)
  refine ⟨["view_count", "inherited_view_count", "action_count", "menu_count"], [],
    part "Inherited Views Sample" views, by simp, fun stamp hname => ?_⟩
  have hsample : (stamped (Screen.chart limits found).body stamp).getD "inherited_views"
      (.list []) = .list (inherited.map (·.value)) := by
    rw [getD_stamped]
    rfl
  rw [page, nameOf_stamped, hname]
  simp only [screenPage, hsample, Value.firstItems, ← List.map_take, bind, Except.bind, hviews,
    provenancePart_stamped, pure, Except.pure]

theorem exists_routeLine (e : Route.Entry) : ∃ line, routeLine e.value = .ok line := by
  have hline : routeLine e.value = (Value.texts e.methods).join "|" >>= fun methods =>
      .ok ("- " ++ e.module ++ ":" ++ e.route ++ " type=" ++ e.type ++ " methods=" ++
        textOr "ANY" methods) := rfl
  rw [hline, join_texts]
  exact ⟨_, rfl⟩

theorem hasPage_routes (limits : Route.Limits) (routes : List Route.Entry) :
    HasPage "route-map" (Route.chart limits routes).body := by
  let exposed := ((Route.sortEntries routes).filter (·.isPublic)).take limits.publicRoutes
  obtain ⟨lines, hlines⟩ := exists_mapM_map_ok exists_routeLine (exposed.take 120)
  refine ⟨["route_count", "public_route_count"], [], part "Public Route Sample" lines, by simp,
    fun stamp hname => ?_⟩
  have hsample : (stamped (Route.chart limits routes).body stamp).getD "public_routes"
      (.list []) = .list (exposed.map (·.value)) := by
    rw [getD_stamped]
    rfl
  rw [page, nameOf_stamped, hname]
  simp only [routePage, hsample, Value.firstItems, ← List.map_take, bind, Except.bind, hlines,
    provenancePart_stamped, pure, Except.pure]

theorem itemLines_texts (texts : List String) (label : String) :
    itemLines (.texts texts) label = .ok (texts.map fun text => "- " ++ label ++ text) := by
  simp [itemLines, Value.texts, Value.items, Value.plain, bind, Except.bind, pure, Except.pure]

theorem hasPage_summary (all : Metrics) (dependencies : List (String × Int)) (risks : List String)
    (diagnostics : Diagnostics) (limit : Nat) :
    HasPage "expert-summary" (Summary.body all dependencies risks diagnostics limit) := by
  obtain ⟨modules, hmodules⟩ := exists_mapM_map_ok exists_countLine (dependencies.take limit)
  let signals := (Summary.metrics all).map fun metric => (metric.1, Value.int metric.2)
  let warnings := diagnostics.warnings.mergeSort fun a b => decide (a ≤ b)
  refine ⟨[], [],
    part "Senior Signals" (signals.map fun signal => "- " ++ signal.1 ++ ": " ++ signal.2.plain) ++
    part "Priority Risks" (risks.map fun risk => "- " ++ "" ++ risk) ++
    part "Recommended Workflow" (Summary.workflow.map fun step => "- " ++ "" ++ step) ++
    part "High-Impact Modules" modules ++
    part "Diagnostics" (["- unreadable_files: " ++ (Value.int diagnostics.unreadableFiles).plain,
      "- short_rows: " ++ (Value.int diagnostics.shortRows).plain] ++
      warnings.map fun warning => "- " ++ "warning: " ++ warning),
    by simp, fun stamp hname => ?_⟩
  let report := stamped (Summary.body all dependencies risks diagnostics limit) stamp
  have hmetrics : report.getD "metrics" (.object []) = .object signals := by
    rw [getD_stamped]
    rfl
  have hrisks : report.getD "priority_risks" (.list []) = .texts risks := by
    rw [getD_stamped]
    rfl
  have hworkflow : report.getD "recommended_workflow" (.list []) = .texts Summary.workflow := by
    rw [getD_stamped]
    rfl
  have hranked : report.getD "high_impact_modules" (.list []) =
      .list ((dependencies.take limit).map Summary.ranked) := by
    rw [getD_stamped]
    rfl
  have hdiagnostics : report.getD "diagnostics" .null = diagnostics.value := by
    rw [getD_stamped]
    rfl
  have htrue : diagnostics.value.isTrue := rfl
  have hunreadable : diagnostics.value.fieldD "unreadable_files" (.int 0) =
      .ok (.int diagnostics.unreadableFiles) := rfl
  have hshort : diagnostics.value.fieldD "short_rows" (.int 0) = .ok (.int diagnostics.shortRows) :=
    rfl
  have hwarnings : diagnostics.value.fieldD "warnings" (.list []) = .ok (.texts warnings) := rfl
  rw [page, nameOf_stamped, hname]
  simp only [summaryPage, report, hmetrics, hrisks, hworkflow, hranked, hdiagnostics, htrue, if_true,
    hunreadable, hshort, hwarnings, itemLines_texts, Value.fields, Value.items, bind, Except.bind,
    hmodules, provenancePart_stamped, pure, Except.pure, List.append_assoc]

end AddonAtlas.Report
