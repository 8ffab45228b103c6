import AddonAtlas.Proofs.Files.Walk
import AddonAtlas.Proofs.Report.Time
import AddonAtlas.Proofs.Run.Scan
import AddonAtlas.Proofs.Survey.Size

/-!
# What surveys yield

The chart of a built-in survey has the name of its report, a page can be made of it, its fields have
names of their own, and its counts are bounded by the limits of the scan (`meets_run`).  Such a survey
fails only where a limit is too large to be counted.
-/

namespace AddonAtlas

/-- There are few counts, none of them negative or above a bound. -/
def Metrics.Within (metrics : Metrics) (bound : Nat) : Prop :=
  metrics.length ≤ 4 ∧ ∀ entry ∈ metrics, 0 ≤ entry.2 ∧ entry.2 ≤ bound

theorem Metrics.Within.mono {metrics : Metrics} {bound bound' : Nat} (h : metrics.Within bound)
    (hbound : bound ≤ bound') : metrics.Within bound' := by
  refine ⟨h.1, fun entry hentry => ⟨(h.2 entry hentry).1, ?_⟩⟩
  have := (h.2 entry hentry).2
  omega

/-- A page can be made of a chart, and no field of its body takes the name of another one. -/
structure Chart.IsPresentable (chart : Chart) : Prop where
  page : Report.HasPage chart.name chart.body
  nodup : (chart.body.map (·.1) ++ Report.stampNames).Nodup

theorem Addon.ModuleMap.isPresentable (m : ModuleMap) : m.chart.IsPresentable where
  page := Report.hasPage_modules m
  nodup := by simp [chart, Report.stampNames]

theorem Addon.ModuleMap.within_chart (m : ModuleMap) : m.chart.metrics.Within m.modules.length := by
  refine ⟨by simp [chart], fun entry hentry => ?_⟩
  obtain rfl := List.mem_singleton.1 hentry
  exact ⟨Int.natCast_nonneg _, le_rfl⟩

theorem Model.isPresentable_chart (limits : Limits) (classes : List Class) :
    (chart limits classes).IsPresentable where
  page := Report.hasPage_models limits classes
  nodup := by simp [chart, Report.stampNames]

theorem Model.within_chart {classes : List Class} {bound : Nat} (h : classes.length ≤ bound)
    (limits : Limits) : (chart limits classes).metrics.Within bound := by
  have hrecords := length_records_le classes
  refine ⟨by simp [chart], fun entry hentry => ?_⟩
  obtain rfl := List.mem_singleton.1 hentry
  dsimp only
  omega

theorem Access.isPresentable_chart (limits : Limits) (entries : List Entry) (rules : List Rule) :
    (chart limits entries rules).IsPresentable where
  page := Report.hasPage_access limits entries rules
  nodup := by simp [chart, Report.stampNames]

theorem Access.within_chart {entries : List Entry} {rules : List Rule} {bound : Nat}
    (hentries : entries.length ≤ bound) (hrules : rules.length ≤ bound) (limits : Limits) :
    (chart limits entries rules).metrics.Within bound := by
  have hsorted : (sortEntries entries).length = entries.length := Text.length_sortOn _ entries
  have hsorted' : (sortRules rules).length = rules.length := Text.length_sortOn _ rules
  have hrisky := List.length_filter_le (·.isRisky) (sortEntries entries)
  have hglobal := List.length_filter_le (·.isGlobal) (sortRules rules)
  refine ⟨by simp [chart], fun entry hentry => ?_⟩
  simp only [chart, List.mem_cons, List.not_mem_nil, or_false] at hentry
  rcases hentry with rfl | rfl | rfl | rfl <;> dsimp only <;> omega

theorem Screen.isPresentable_chart (limits : Limits) (found : Parsed) :
    (chart limits found).IsPresentable where
  page := Report.hasPage_screens limits found
  nodup := by simp [chart, Report.stampNames]

theorem Screen.within_chart {found : Parsed} {bound : Nat} (hviews : found.views.length ≤ bound)
    (hactions : found.actions.length ≤ bound) (hmenus : found.menus.length ≤ bound)
    (limits : Limits) : (chart limits found).metrics.Within bound := by
  have hinherited := List.length_filter_le (·.isInherited)
    (Text.sortOn (fun v : View => entryKey v.module v.file v.id) found.views)
  refine ⟨by simp [chart], fun entry hentry => ?_⟩
  simp only [chart, List.mem_cons, List.not_mem_nil, or_false, Text.length_sortOn] at hentry hinherited
  rcases hentry with rfl | rfl | rfl | rfl <;> dsimp only <;> omega

theorem Route.isPresentable_chart (limits : Limits) (routes : List Entry) :
    (chart limits routes).IsPresentable where
  page := Report.hasPage_routes limits routes
  nodup := by simp [chart, Report.stampNames]

theorem Route.within_chart {routes : List Entry} {bound : Nat} (h : routes.length ≤ bound)
    (limits : Limits) : (chart limits routes).metrics.Within bound := by
  have hsorted : (sortEntries routes).length = routes.length := Text.length_sortOn _ routes
  have hpublic := List.length_filter_le (·.isPublic) (sortEntries routes)
  refine ⟨by simp [chart], fun entry hentry => ?_⟩
  simp only [chart, List.mem_cons, List.not_mem_nil, or_false] at hentry
  rcases hentry with rfl | rfl <;> dsimp only <;> omega

namespace Survey

open Addon Files Run Run.Scan Settings

variable {disk : Disk} {context : Context} {E : Run.Fault → Prop}

/-! ## Jobs -/

/-- The files of one folder of a module that a survey reads. -/
def jobsOf (disk : Disk) (context : Context) (folder ending : String) (limit : Nat)
    (module : Module) : List Job :=
  (disk.listFiles context.scope.skips (·.name.endsWith ending) (min limit context.scope.files)
    (module.folder.child folder)).map fun path =>
      ⟨module, path, Path.relativeText context.repository path⟩

theorem yields_moduleJobs {folder ending : String} {limit : Nat} {module : Module} :
    Yields disk (moduleJobs context folder ending limit module)
      (jobsOf disk context folder ending limit module) := by
  refine yields_read.bind ?_
  by_cases hfolder : disk.hasFolder (module.folder.child folder)
  · rw [if_pos hfolder]
    exact yields_listFiles.bind (yields_pure _)
  · rw [if_neg hfolder, jobsOf, Disk.listFiles_of_not_hasFolder hfolder]
    exact yields_pure []

theorem yields_jobs {folder ending : String} {limit : Nat} :
    Yields disk (jobs context folder ending limit)
      (context.modules.flatMap (jobsOf disk context folder ending limit)) := by
  rw [List.flatMap_def]
  exact (yields_mapM fun module _ => yields_moduleJobs).bind (yields_pure _)

theorem length_jobs_le (disk : Disk) (context : Context) (folder ending : String) (limit : Nat) :
    (context.modules.flatMap (jobsOf disk context folder ending limit)).length ≤
      context.modules.length * limit := by
  refine length_flatMap_le fun module _ => ?_
  rw [jobsOf, List.length_map]
  exact (Disk.length_listFiles_le ..).trans (by omega)

theorem isClean_of_mem_jobs (hsound : disk.top.isSound) {folder ending : String} {limit : Nat}
    {job : Job} (h : job ∈ context.modules.flatMap (jobsOf disk context folder ending limit)) :
    job.path.isClean := by
  obtain ⟨module, -, hjob⟩ := List.mem_flatMap.1 h
  obtain ⟨path, hpath, rfl⟩ := List.mem_map.1 hjob
  exact Disk.isClean_of_mem_listFiles hsound hpath

theorem readJobs_oneByOne {α : Type} (context : Context) (chars : Nat)
    (parse : Job → List Char → α) (jobs : List Job) :
    readJobs oneByOne context chars parse jobs = jobs.mapM (parsed chars parse) := by
  unfold readJobs
  split <;> rfl

theorem meets_readJobs (hsound : disk.top.isSound ∨ ∀ fault, E (.system fault)) {α : Type}
    {folder ending : String} {limit chars : Nat}
    (hchars : (∀ path, readRefusal? disk path chars = none) ∨ ∀ refusal, E (.read refusal))
    (parse : Job → List Char → α) :
    Meets disk (readJobs oneByOne context chars parse
      (context.modules.flatMap (jobsOf disk context folder ending limit))) (fun found =>
        found.length ≤ context.modules.length * limit ∧
          ∀ a ∈ found, ∃ job text, text.length ≤ chars ∧ a = parse job text) E := by
  have hlength := length_jobs_le disk context folder ending limit
  have hclean (job : Job)
      (hjob : job ∈ context.modules.flatMap (jobsOf disk context folder ending limit)) :
      job.path.isClean ∨ ∀ fault, E (.system fault) :=
    hsound.imp_left fun hsound => isClean_of_mem_jobs hsound hjob
  generalize context.modules.flatMap (jobsOf disk context folder ending limit) = jobs
    at hlength hclean ⊢
  rw [readJobs_oneByOne]
  have hjobs : Meets disk (jobs.mapM (parsed chars parse)) (List.Forall₂ (fun job a =>
      ∃ text, text.length ≤ chars ∧ a = parse job text) jobs) E := by
    refine meets_mapM fun job hjob => ?_
    refine (meets_readText (hchars.imp_left fun hchars => hchars job.path) (hclean job hjob)).bind
      fun text htext => ?_
    exact meets_pure ⟨text, htext, rfl⟩
  refine hjobs.imp fun found hfound => ⟨hfound.length_eq ▸ hlength, fun a ha => ?_⟩
  obtain ⟨job, -, text, htext, ha⟩ := exists_of_forall₂ hfound ha
  exact ⟨job, text, htext, ha⟩

/-! ## Charts -/

/-- The name of the report of a built-in survey. -/
def BuiltIn.report : BuiltIn → String
  | .models => "orm-model-map"
  | .access => "security-map"
  | .screens => "ui-map"
  | .routes => "route-map"

/-- What the chart of a built-in survey is like. -/
structure IsChartOf (context : Context) (survey : BuiltIn) (chart : Chart) : Prop where
  name : chart.name = survey.report
  presentable : chart.IsPresentable
  within : ∀ top, context.modules.length ≤ top → (∀ limit, context.limits limit ≤ top) →
    chart.metrics.Within ((top + 1) ^ 4)

/-- What is found in files is bounded by what one file can hold. -/
theorem length_found_le {α β : Type} {found : List α} {part : α → List β} {modules limit top : Nat}
    (hmodules : modules ≤ top) (hlimit : limit ≤ top + 1) (hfound : found.length ≤ modules * limit)
    (hpart : ∀ a ∈ found, (part a).length ≤ top * (top + 1)) :
    (found.flatMap part).length ≤ (top + 1) ^ 4 := by
  calc (found.flatMap part).length
      ≤ found.length * (top * (top + 1)) := length_flatMap_le hpart
    _ ≤ (top + 1) * (top + 1) * ((top + 1) * (top + 1)) := by
        have hall : found.length ≤ (top + 1) * (top + 1) :=
          hfound.trans (Nat.mul_le_mul (by omega) hlimit)
        exact Nat.mul_le_mul hall (Nat.mul_le_mul_right _ (by omega))
    _ = (top + 1) ^ 4 := by ring

theorem le_mul_succ {size top : Nat} (h : size ≤ top) : size ≤ top * (top + 1) :=
  h.trans (Nat.le_mul_of_pos_right top (Nat.succ_pos top))

theorem meets_moduleAccess (hlimits : ∀ limit,
      (∀ path, readRefusal? disk path (context.limits limit) = none) ∨ ∀ refusal, E (.read refusal))
    (module : Module) :
    Meets disk (moduleAccess context.limits module)
      (fun entries => entries.length ≤ context.limits .aclChars) E := by
  refine meets_read.bind fun found hfound => ?_
  rw [hfound]
  by_cases hfile : disk.hasFile ((module.folder.child "security").child accessTable)
  · rw [if_pos hfile]
    obtain ⟨place, content, hfind⟩ := Disk.hasFile_iff.1 hfile
    have hclean := (Disk.find_eq_ok_iff_follow.1 hfind).1
    refine (meets_readText ((hlimits .aclChars).imp_left fun hchars => hchars _)
      (Or.inl hclean)).bind fun text htext => ?_
    refine meets_diagnose.bind fun _ _ => meets_pure ?_
    exact (Access.length_parse_le module.name text).trans htext
  · rw [if_neg hfile]
    exact meets_pure (Nat.zero_le _)

section Charts

variable (hsound : disk.top.isSound ∨ ∀ fault, E (.system fault))
  (hlimits : ∀ limit,
    (∀ path, readRefusal? disk path (context.limits limit) = none) ∨ ∀ refusal, E (.read refusal))

include hsound hlimits

theorem meets_surveyModels :
    Meets disk (surveyModels oneByOne context) (IsChartOf context .models) E := by
  refine yields_jobs.meets.bind fun jobs hjobs => ?_
  rw [hjobs]
  refine (meets_readJobs hsound (hlimits .modelChars) _).bind fun found hfound => ?_
  refine (meets_forM fun warning _ => meets_say.bind fun _ _ => meets_diagnose).bind fun _ _ => ?_
  refine meets_say.bind fun _ _ => meets_pure ⟨rfl, Model.isPresentable_chart _ _, ?_⟩
  intro top hmodules htop
  refine Model.within_chart ?_ _
  refine length_found_le hmodules (Nat.le_succ_of_le (htop .modelFiles)) hfound.1
    fun parsed hparsed => ?_
  obtain ⟨job, text, htext, rfl⟩ := hfound.2 parsed hparsed
  exact (Model.length_parse_le ..).trans (le_mul_succ (htext.trans (htop .modelChars)))

theorem meets_surveyAccess :
    Meets disk (surveyAccess oneByOne context) (IsChartOf context .access) E := by
  refine (meets_mapM fun module _ => meets_moduleAccess hlimits module).bind fun groups hgroups => ?_
  refine yields_jobs.meets.bind fun jobs hjobs => ?_
  rw [hjobs]
  refine (meets_readJobs hsound (hlimits .securityXmlChars) _).bind fun found hfound => ?_
  refine meets_say.bind fun _ _ => meets_pure ⟨rfl, Access.isPresentable_chart _ _ _, ?_⟩
  intro top hmodules htop
  refine Access.within_chart ?_ ?_ _
  · rw [← List.flatMap_id]
    refine length_found_le hmodules (Nat.le_add_left 1 top) ?_ fun entries hentries => ?_
    · rw [Nat.mul_one, hgroups.length_eq]
    · obtain ⟨module, -, hlength⟩ := exists_of_forall₂ hgroups hentries
      exact le_mul_succ (hlength.trans (htop .aclChars))
  · rw [← List.flatMap_id]
    refine length_found_le hmodules (Nat.le_succ_of_le (htop .securityXmlFiles)) hfound.1
      fun rules hrules => ?_
    obtain ⟨job, text, htext, rfl⟩ := hfound.2 rules hrules
    exact (Access.length_parseRules_le ..).trans (le_mul_succ (htext.trans (htop .securityXmlChars)))

theorem meets_surveyScreens :
    Meets disk (surveyScreens oneByOne context) (IsChartOf context .screens) E := by
  refine yields_jobs.meets.bind fun jobs hjobs => ?_
  rw [hjobs]
  refine (meets_readJobs hsound (hlimits .viewChars) _).bind fun found hfound => ?_
  refine meets_say.bind fun _ _ => meets_pure ⟨rfl, Screen.isPresentable_chart _ _, ?_⟩
  intro top hmodules htop
  have hpart {β : Type} {part : Screen.Parsed → List β} (hsize : ∀ module file cap text,
      (part (Screen.parse module file cap text)).length ≤ text.length) :
      (found.flatMap part).length ≤ (top + 1) ^ 4 := by
    refine length_found_le hmodules (Nat.le_succ_of_le (htop .viewFiles)) hfound.1
      fun parsed hparsed => ?_
    obtain ⟨job, text, htext, rfl⟩ := hfound.2 parsed hparsed
    exact (hsize ..).trans (le_mul_succ (htext.trans (htop .viewChars)))
  refine Screen.within_chart (hpart ?_) (hpart ?_) (hpart ?_) _ <;> intro module file cap text
  · exact (List.length_map _).trans_le (Markup.length_records_le _ cap text)
  · exact (List.length_map _).trans_le (Markup.length_records_le _ cap text)
  · exact (List.length_map _).trans_le (Markup.length_selfClosingElements_le _ text)

theorem meets_surveyRoutes :
    Meets disk (surveyRoutes oneByOne context) (IsChartOf context .routes) E := by
  refine yields_jobs.meets.bind fun jobs hjobs => ?_
  rw [hjobs]
  refine (meets_readJobs hsound (hlimits .controllerChars) _).bind fun found hfound => ?_
  refine meets_say.bind fun _ _ => meets_pure ⟨rfl, Route.isPresentable_chart _ _, ?_⟩
  intro top hmodules htop
  rw [← List.flatMap_id]
  refine Route.within_chart ?_ _
  refine length_found_le hmodules (Nat.le_succ_of_le (htop .controllerFiles)) hfound.1
    fun routes hroutes => ?_
  obtain ⟨job, text, htext, rfl⟩ := hfound.2 routes hroutes
  refine (Route.length_parse_le ..).trans ?_
  exact Nat.mul_le_mul (htext.trans (htop .controllerChars)) (Nat.succ_le_succ (htop .routeBlockChars))

/-- What a built-in survey yields. -/
theorem meets_run (survey : BuiltIn) :
    Meets disk (run context (.builtIn survey)) (IsChartOf context survey) E := by
  cases survey with
  | models => exact meets_surveyModels hsound hlimits
  | access => exact meets_surveyAccess hsound hlimits
  | screens => exact meets_surveyScreens hsound hlimits
  | routes => exact meets_surveyRoutes hsound hlimits

end Charts

end Survey

end AddonAtlas
