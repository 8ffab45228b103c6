import AddonAtlas.Document.Value
import AddonAtlas.Markup.Record

/-!
# Views, actions and menus

What a module shows on the screen. Views and window actions are records; menus are self-closing
`<menuitem/>` tags.
-/

namespace AddonAtlas.Screen

open Document

/-- A view. -/
structure View where
  module : String
  file : String
  id : String
  model : String
  inheritRef : String
  deriving DecidableEq, Repr

/-- A window action. -/
structure Action where
  module : String
  file : String
  id : String
  resModel : String
  deriving DecidableEq, Repr

/-- A menu entry. -/
structure Menu where
  module : String
  file : String
  id : String
  name : String
  action : String
  parent : String
  deriving DecidableEq, Repr

/-- Does the view change another one? -/
def View.isInherited (v : View) : Bool :=
  v.inheritRef != ""

/-- The view as it is reported. -/
def View.value (v : View) : Value :=
  .object [("module", .text v.module), ("file", .text v.file), ("id", .text v.id),
    ("model", .text v.model), ("inherit_ref", .text v.inheritRef)]

/-- The action as it is reported. -/
def Action.value (a : Action) : Value :=
  .object [("module", .text a.module), ("file", .text a.file), ("id", .text a.id),
    ("res_model", .text a.resModel)]

/-- The menu as it is reported. -/
def Menu.value (m : Menu) : Value :=
  .object [("module", .text m.module), ("file", .text m.file), ("id", .text m.id),
    ("name", .text m.name), ("action", .text m.action), ("parent", .text m.parent)]

/-- The view of a record. -/
def View.ofRecord (module file : String) (record : Markup.Element) : View :=
  let fields := Markup.fields record.body
  { module, file
    id := record.attr "id"
    model := fields.text "model"
    inheritRef := fields.ref "inherit_id" }

/-- The window action of a record. -/
def Action.ofRecord (module file : String) (record : Markup.Element) : Action where
  module
  file
  id := record.attr "id"
  resModel := (Markup.fields record.body).text "res_model"

/-- The menu of a tag. -/
def Menu.ofElement (module file : String) (tag : Markup.Element) : Menu where
  module
  file
  id := tag.attr "id"
  name := tag.attr "name"
  action := tag.attr "action"
  parent := tag.attr "parent"

/-- What a file shows on the screen. -/
structure Parsed where
  views : List View := []
  actions : List Action := []
  menus : List Menu := []
  deriving DecidableEq, Repr

/-- The views, actions and menus of a file, each in order. -/
def parse (module file : String) (cap : Nat) (content : List Char) : Parsed where
  views := (Markup.records "ir.ui.view" cap content).map (View.ofRecord module file)
  actions := (Markup.records "ir.actions.act_window" cap content).map (Action.ofRecord module file)
  menus := (Markup.selfClosingElements "menuitem".toList content).map (Menu.ofElement module file)

end AddonAtlas.Screen
