import AddonAtlas.Access.Map
import AddonAtlas.Proofs.Text.Arrange
import AddonAtlas.Route.Map
import AddonAtlas.Screen.Map

/-!
# What charts show of what was found

The charts of access entries and rules, of views, actions and menus, and of routes list what was found
in the order of its keys, and leave entries out only where a list is cut off at a limit (`Presents`).
What they count, measure and warn of takes in all that was found (`CountsAll`).  In which order entries
with different keys were found does not show (`charts_of_rearranged`).
-/

namespace AddonAtlas

open Text Document

section Charts

variable {L α : Type}

/-- A list in the body of a chart: its name, its cap among the limits, and which entries it shows. -/
structure Sample (L α : Type) where
  name : String
  cap : L → Nat
  shows : α → Bool

/-- Whatever the limits are, each sample is the beginning of the entries that it shows, in the order of
their keys, as long as its cap allows. -/
def Presents (charts : L → Chart) (key : α → Key) (value : α → Value) (entries : List α)
    (samples : List (Sample L α)) : Prop :=
  ∃ sorted, SortedForm key entries sorted ∧ ∀ sample ∈ samples, ∀ limits,
    (charts limits).body.get? sample.name =
      some (.list (((sorted.filter sample.shows).map value).take (sample.cap limits)))

/-- Whatever the limits are, the charts give these counts, and the same metrics and risks. -/
structure CountsAll (charts : L → Chart) (counts : List (String × Nat)) : Prop where
  counts : ∀ limits, ∀ count ∈ counts, (charts limits).body.get? count.1 = some (.int count.2)
  metrics : ∀ limits limits', (charts limits).metrics = (charts limits').metrics
  risks : ∀ limits limits', (charts limits).risks = (charts limits').risks

theorem presents_sortOn {charts : L → Chart} {key : α → Key} {value : α → Value} {entries : List α}
    {samples : List (Sample L α)} (h : ∀ sample ∈ samples, ∀ limits,
      (charts limits).body.get? sample.name =
        some (.list ((((sortOn key entries).filter sample.shows).take (sample.cap limits)).map value))) :
    Presents charts key value entries samples := by
  refine ⟨sortOn key entries, sortedForm_sortOn key entries, fun sample hsample limits => ?_⟩
  rw [h sample hsample limits, List.map_take]

end Charts

/-! ## Access -/

namespace Access

/-- A chart of rights lists entries and rules, and of each those that are a risk. -/
structure IsPresented (entries : List Entry) (rules : List Rule) : Prop where
  entryLists : Presents (chart · entries rules) (fun e => nameKey e.module ++ [e.id]) Entry.value entries
    [⟨"acl_entries", Limits.entries, fun _ => true⟩,
      ⟨"risky_acl_entries", Limits.riskSample, Entry.isRisky⟩]
  ruleLists : Presents (chart · entries rules) (fun r => nameKey r.module ++ [r.file, r.id]) Rule.value
    rules
    [⟨"record_rules", Limits.entries, fun _ => true⟩,
      ⟨"global_record_rules", Limits.riskSample, Rule.isGlobal⟩]
  counts : CountsAll (chart · entries rules)
    [("acl_count", entries.length), ("record_rule_count", rules.length)]

theorem isPresented (entries : List Entry) (rules : List Rule) : IsPresented entries rules where
  entryLists := presents_sortOn <| by
    simp only [List.forall_mem_cons, List.filter_true]
    exact ⟨fun _ => rfl, fun _ => rfl, by simp⟩
  ruleLists := presents_sortOn <| by
    simp only [List.forall_mem_cons, List.filter_true]
    exact ⟨fun _ => rfl, fun _ => rfl, by simp⟩
  counts := by
    refine ⟨fun limits => ?_, fun _ _ => rfl, fun _ _ => rfl⟩
    simp [chart, Fields.get?, List.lookup, Value.count, sortEntries, sortRules, length_sortOn]

theorem chart_of_rearranged {entries entries' : List Entry} {rules rules' : List Rule}
    (hentries : Rearranged (fun e => (e.module, e.id)) entries entries')
    (hrules : Rearranged (fun r => (r.module, r.file, r.id)) rules rules') (limits : Limits) :
    chart limits entries' rules' = chart limits entries rules := by
  have hsorted : sortEntries entries = sortEntries entries' :=
    (hentries.of_iff fun a b => by rw [nameKey_append_inj]; simp).sortOn_eq
  have hsorted' : sortRules rules = sortRules rules' :=
    (hrules.of_iff fun a b => by rw [nameKey_append_inj]; simp).sortOn_eq
  rw [chart, chart, hsorted, hsorted']

end Access

/-! ## Screens -/

namespace Screen

/-- A chart of screens lists views, those that extend another one, actions and menus. -/
structure IsPresented (found : Parsed) : Prop where
  viewLists : Presents (chart · found) (fun v => nameKey v.module ++ [v.file, v.id]) View.value
    found.views
    [⟨"views", Limits.views, fun _ => true⟩,
      ⟨"inherited_views", Limits.inheritedViews, View.isInherited⟩]
  actionLists : Presents (chart · found) (fun a => nameKey a.module ++ [a.file, a.id]) Action.value
    found.actions [⟨"actions", Limits.actions, fun _ => true⟩]
  menuLists : Presents (chart · found) (fun m => nameKey m.module ++ [m.file, m.id]) Menu.value
    found.menus [⟨"menus", Limits.menus, fun _ => true⟩]
  counts : CountsAll (chart · found)
    [("view_count", found.views.length), ("inherited_view_count", found.views.countP View.isInherited),
      ("action_count", found.actions.length), ("menu_count", found.menus.length)]

theorem isPresented (found : Parsed) : IsPresented found where
  viewLists := presents_sortOn <| by
    simp only [List.forall_mem_cons, List.filter_true]
    exact ⟨fun _ => rfl, fun _ => rfl, by simp⟩
  actionLists := presents_sortOn <| by
    simp only [List.forall_mem_cons, List.filter_true]
    exact ⟨fun _ => rfl, by simp⟩
  menuLists := presents_sortOn <| by
    simp only [List.forall_mem_cons, List.filter_true]
    exact ⟨fun _ => rfl, by simp⟩
  counts := by
    refine ⟨fun limits => ?_, fun _ _ => rfl, fun _ _ => rfl⟩
    simp [chart, Fields.get?, List.lookup, Value.count, length_sortOn, length_filter_sortOn]

theorem chart_of_rearranged {found found' : Parsed}
    (hviews : Rearranged (fun v => (v.module, v.file, v.id)) found.views found'.views)
    (hactions : Rearranged (fun a => (a.module, a.file, a.id)) found.actions found'.actions)
    (hmenus : Rearranged (fun m => (m.module, m.file, m.id)) found.menus found'.menus)
    (limits : Limits) : chart limits found' = chart limits found := by
  have hkey {a b c a' b' c' : String} :
      entryKey a b c = entryKey a' b' c' ↔ (a, b, c) = (a', b', c') := by
    rw [entryKey, entryKey, nameKey_append_inj]
    simp
  rw [chart, chart, (hviews.of_iff fun _ _ => hkey).sortOn_eq,
    (hactions.of_iff fun _ _ => hkey).sortOn_eq, (hmenus.of_iff fun _ _ => hkey).sortOn_eq]

end Screen

/-! ## Routes -/

namespace Route

/-- A chart of routes lists all of them and the public ones. -/
structure IsPresented (routes : List Entry) : Prop where
  routeLists : Presents (chart · routes) (fun r => nameKey r.module ++ [r.file, r.route]) Entry.value
    routes
    [⟨"routes", Limits.routes, fun _ => true⟩,
      ⟨"public_routes", Limits.publicRoutes, Entry.isPublic⟩]
  counts : CountsAll (chart · routes)
    [("route_count", routes.length), ("public_route_count", routes.countP Entry.isPublic)]

theorem isPresented (routes : List Entry) : IsPresented routes where
  routeLists := presents_sortOn <| by
    simp only [List.forall_mem_cons, List.filter_true]
    exact ⟨fun _ => rfl, fun _ => rfl, by simp⟩
  counts := by
    refine ⟨fun limits => ?_, fun _ _ => rfl, fun _ _ => rfl⟩
    simp [chart, Fields.get?, List.lookup, Value.count, sortEntries, length_sortOn,
      length_filter_sortOn]

theorem chart_of_rearranged {routes routes' : List Entry}
    (h : Rearranged (fun r => (r.module, r.file, r.route)) routes routes') (limits : Limits) :
    chart limits routes' = chart limits routes := by
  have hsorted : sortEntries routes = sortEntries routes' :=
    (h.of_iff fun a b => by rw [nameKey_append_inj]; simp).sortOn_eq
  rw [chart, chart, hsorted]

end Route

/-- In which order entries with different keys were found makes no difference to the charts.  They list
what was found in the order of its keys, each list as long as its limit allows, and the limits make no
difference to anything else. -/
theorem charts_of_rearranged {entries entries' : List Access.Entry} {rules rules' : List Access.Rule}
    {found found' : Screen.Parsed} {routes routes' : List Route.Entry}
    (hentries : Rearranged (fun e => (e.module, e.id)) entries entries')
    (hrules : Rearranged (fun r => (r.module, r.file, r.id)) rules rules')
    (hviews : Rearranged (fun v => (v.module, v.file, v.id)) found.views found'.views)
    (hactions : Rearranged (fun a => (a.module, a.file, a.id)) found.actions found'.actions)
    (hmenus : Rearranged (fun m => (m.module, m.file, m.id)) found.menus found'.menus)
    (hroutes : Rearranged (fun r => (r.module, r.file, r.route)) routes routes') :
    ((∀ limits, Access.chart limits entries' rules' = Access.chart limits entries rules) ∧
        (∀ limits, Screen.chart limits found' = Screen.chart limits found) ∧
        ∀ limits, Route.chart limits routes' = Route.chart limits routes) ∧
      Access.IsPresented entries rules ∧ Screen.IsPresented found ∧ Route.IsPresented routes :=
  ⟨⟨Access.chart_of_rearranged hentries hrules,
      Screen.chart_of_rearranged hviews hactions hmenus, Route.chart_of_rearranged hroutes⟩,
    Access.isPresented entries rules, Screen.isPresented found, Route.isPresented routes⟩

def sampleEntry (id group : String) : Access.Entry :=
  { module := "sale", id, modelRef := "m", groupRef := group, mayWrite := true }

def sampleView (id ref : String) : Screen.View :=
  { module := "sale", file := "views.xml", id, model := "m", inheritRef := ref }

def sampleRoute (path auth : String) : Route.Entry :=
  { module := "sale", file := "main.py", route := path, auth }

/-- Of three entries each, the last two have the same key, and the first one is found later. -/
theorem charts_of_rearranged_sample :
    (Access.chart ⟨1, 2⟩ [sampleEntry "a" "", sampleEntry "b" "", sampleEntry "a" "g"] [] =
        Access.chart ⟨1, 2⟩ [sampleEntry "b" "", sampleEntry "a" "", sampleEntry "a" "g"] [] ∧
      Screen.chart ⟨1, 2, 0, 0⟩ { views := [sampleView "a" "", sampleView "b" "x", sampleView "a" "y"] } =
        Screen.chart ⟨1, 2, 0, 0⟩
          { views := [sampleView "b" "x", sampleView "a" "", sampleView "a" "y"] } ∧
      Route.chart ⟨1, 2⟩
          [sampleRoute "/a" "user", sampleRoute "/b" "public", sampleRoute "/a" "public"] =
        Route.chart ⟨1, 2⟩
          [sampleRoute "/b" "public", sampleRoute "/a" "user", sampleRoute "/a" "public"]) ∧
      Route.IsPresented
        [sampleRoute "/b" "public", sampleRoute "/a" "user", sampleRoute "/a" "public"] := by
  obtain ⟨⟨haccess, hscreens, hroutes⟩, -, -, hpresented⟩ := @charts_of_rearranged
    [sampleEntry "b" "", sampleEntry "a" "", sampleEntry "a" "g"] _ [] []
    { views := [sampleView "b" "x", sampleView "a" "", sampleView "a" "y"] }
    { views := [sampleView "a" "", sampleView "b" "x", sampleView "a" "y"] }
    [sampleRoute "/b" "public", sampleRoute "/a" "user", sampleRoute "/a" "public"] _
    (.swap (by decide) _) (.refl []) (.swap (by decide) _) (.refl []) (.refl []) (.swap (by decide) _)
  exact ⟨⟨haccess _, hscreens _, hroutes _⟩, hpresented⟩

end AddonAtlas
