import AddonAtlas.Chart
import AddonAtlas.Screen.Entry
import AddonAtlas.Text.Order

/-!
# The screen map

The views, actions and menus of all modules, in order, with the views that change other views.
-/

namespace AddonAtlas.Screen

open Text Document

/-- How many entries are reported. -/
structure Limits where
  inheritedViews : Nat := 400
  views : Nat := 3500
  actions : Nat := 2000
  menus : Nat := 2000

/-- Above this number of inherited views, work should begin from the chain of inheritance. -/
def inheritedAlert : Nat := 2000

/-- The sort key of an entry: module, then file, then id. -/
def entryKey (module file id : String) : Key :=
  nameKey module ++ [file, id]

/-- The screen map of these views, actions and menus. -/
def chart (limits : Limits) (found : Parsed) : Chart :=
  let views := sortOn (fun v => entryKey v.module v.file v.id) found.views
  let actions := sortOn (fun a => entryKey a.module a.file a.id) found.actions
  let menus := sortOn (fun m => entryKey m.module m.file m.id) found.menus
  let inherited := views.filter (·.isInherited)
  { name := "ui-map"
    folders := ["views"]
    assumptions := [
      "Views and window actions are read from <record> elements under views/.",
      "A view is inherited when its inherit_id field carries a ref.",
      "Menus are read from self-closing <menuitem/> tags only."]
    body := [
      ("view_count", .count views),
      ("inherited_view_count", .count inherited),
      ("action_count", .count actions),
      ("menu_count", .count menus),
      ("inherited_views", .list ((inherited.take limits.inheritedViews).map (·.value))),
      ("views", .list ((views.take limits.views).map (·.value))),
      ("actions", .list ((actions.take limits.actions).map (·.value))),
      ("menus", .list ((menus.take limits.menus).map (·.value)))]
    metrics := [("views", views.length), ("inherited_views", inherited.length),
      ("actions", actions.length), ("menus", menus.length)]
    risks := if inherited.length ≤ inheritedAlert then [] else
      ["High volume of inherited views; UI changes should start from inheritance chain analysis."] }

end AddonAtlas.Screen
