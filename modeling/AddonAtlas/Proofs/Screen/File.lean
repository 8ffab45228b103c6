import AddonAtlas.Proofs.Markup.DataFile
import AddonAtlas.Screen.Entry

/-!
# Files of views, actions and menus

The views, window actions and menus that are read from a data file are those written in it, each
kind in order (`parse_renderItems`).  A view has the model and the parent that the fields directly
in its record tell; the fields inside of its architecture may have the same names and change
nothing.
-/

namespace AddonAtlas.Screen

open Text Markup

/-- The view that a written record tells. -/
def View.ofWritten (module file : String) (r : WrittenRecord) : View where
  module
  file
  id := r.head.attr "id"
  model := r.body.childText "model"
  inheritRef := r.body.childAttr "inherit_id" "ref"

/-- The window action that a written record tells. -/
def Action.ofWritten (module file : String) (r : WrittenRecord) : Action where
  module
  file
  id := r.head.attr "id"
  resModel := r.body.childText "res_model"

/-- The menu that a written tag tells. -/
def Menu.ofWritten (module file : String) (head : TagHead) : Menu where
  module
  file
  id := head.attr "id"
  name := head.attr "name"
  action := head.attr "action"
  parent := head.attr "parent"

section Records

variable (module file : String) {cap : Nat} {r : WrittenRecord}

theorem View.ofRecord_element (hlimit : r.body.render.length ≤ bodyLimit)
    (hcap : r.body.render.length ≤ cap) :
    View.ofRecord module file (r.node.element cap) = View.ofWritten module file r := by
  rw [View.ofRecord, r.body_element hcap, text_fields r.body (by decide) hlimit,
    ref_fields r.body (by decide), Node.attr_element]
  rfl

theorem Action.ofRecord_element (hlimit : r.body.render.length ≤ bodyLimit)
    (hcap : r.body.render.length ≤ cap) :
    Action.ofRecord module file (r.node.element cap) = Action.ofWritten module file r := by
  rw [Action.ofRecord, r.body_element hcap, text_fields r.body (by decide) hlimit,
    Node.attr_element]
  rfl

theorem Menu.ofElement_element (head : TagHead) :
    Menu.ofElement module file ((⟨head, none⟩ : Node menuName).element bodyLimit) =
      Menu.ofWritten module file head := by
  simp only [Menu.ofElement, Node.attr_element, Menu.ofWritten]

end Records

/-- The views, actions and menus of a data file are those written in it, each in order. -/
theorem parse_renderItems (module file : String) {cap : Nat} (items : List Item)
    (hlimit : (renderItems items).length ≤ 200000) (hcap : (renderItems items).length ≤ cap) :
    parse module file cap (renderItems items) =
      { views := ((recordsIn items).filter fun r => r.head.attr "model" == "ir.ui.view").map
          (View.ofWritten module file)
        actions := ((recordsIn items).filter fun r =>
          r.head.attr "model" == "ir.actions.act_window").map (Action.ofWritten module file)
        menus := (menusIn items).map (Menu.ofWritten module file) } := by
  have hbody : ∀ {p : WrittenRecord → Bool}, ∀ r ∈ (recordsIn items).filter p,
      r.body.render.length ≤ bodyLimit ∧ r.body.render.length ≤ cap := fun r hr => by
    have hle := length_body_le (List.mem_of_mem_filter hr)
    exact ⟨hle.trans hlimit, hle.trans hcap⟩
  rw [parse, Parsed.mk.injEq]
  refine ⟨?_, ?_, ?_⟩
  · rw [map_records fun _ => rfl]
    exact List.map_congr_left fun r hr =>
      View.ofRecord_element module file (hbody r hr).1 (hbody r hr).2
  · rw [map_records fun _ => rfl]
    exact List.map_congr_left fun r hr =>
      Action.ofRecord_element module file (hbody r hr).1 (hbody r hr).2
  · have hplace : Menu.ofElement module file = Menu.ofElement module file ∘ Element.unplaced := rfl
    rw [hplace, ← List.map_map, map_unplaced_menus, List.map_map]
    exact List.map_congr_left fun head _ => Menu.ofElement_element module file head

def sampleField (value : List Char) (h : '"' ∉ value) : TagHead :=
  ⟨[.named value h], .none⟩

def sampleRecord (id model : List Char) (hid : '"' ∉ id) (hmodel : '"' ∉ model) : TagHead :=
  ⟨[.id id hid, .model model hmodel], .space⟩

/-- A view whose architecture holds fields with the names that are looked for, behind a comment
with a record in it and before a menu and an action. -/
def sampleItems : List Item := [
  .comment ⟨"<record id=\"old\" model=\"ir.ui.view\"> --".toList, by decide⟩,
  .record {
    head := sampleRecord ['v'] "ir.ui.view".toList (by decide) (by decide)
    body :=
      .branch .none (sampleField "arch".toList (by decide))
        (.branch (.plain ['>'] (by decide)) (sampleField "model".toList (by decide))
          (.leaf .none (sampleField "inherit_id".toList (by decide)) (.text .none)) .none
          (.text .none))
        .none
        (.branch .none (sampleField "model".toList (by decide))
          (.text (.plain " sale.order\n".toList (by decide))) .space
          (.leaf .none
            ⟨[.named "inherit_id".toList (by decide),
              .double 'r' ['e', 'f'] ['p', '>'] rfl rfl (by decide)], .none⟩ (.text .none)))
    tail := .none
    plain_head := by decide
    plain_body := by decide
    id_ne := by decide },
  .menu ⟨[.id ['m'] (by decide)], .space⟩
    (by decide),
  .gap "\n".toList (by decide),
  .record {
    head := sampleRecord ['w'] "ir.actions.act_window".toList (by decide) (by decide)
    body := .branch .none (sampleField "res_model".toList (by decide))
      (.text (.plain "sale.order".toList (by decide))) .none (.text .none)
    tail := .none
    plain_head := by decide
    plain_body := by decide
    id_ne := by decide }]

theorem parse_renderItems_sample :
    ((renderItems sampleItems).length ≤ 200000 ∧ (renderItems sampleItems).length ≤ 400) ∧
      parse "sale" "views.xml" 400 (renderItems sampleItems) =
        { views := [⟨"sale", "views.xml", "v", "sale.order", "p>"⟩]
          actions := [⟨"sale", "views.xml", "w", "sale.order"⟩]
          menus := [⟨"sale", "views.xml", "m", "", "", ""⟩] } := by
  have hlimit : (renderItems sampleItems).length ≤ 200000 := by decide +kernel
  have hcap : (renderItems sampleItems).length ≤ 400 := by decide +kernel
  refine ⟨⟨hlimit, hcap⟩, (parse_renderItems "sale" "views.xml" sampleItems hlimit hcap).trans ?_⟩
  decide

end AddonAtlas.Screen
