import AddonAtlas.Proofs.Markup.Comment
import AddonAtlas.Proofs.Markup.Field

/-!
# Written data files

A data file is a list of `Item`s: records with their fields, menu entries, comments and text between
them.  Its records and its menu entries are found by two readings of the same text, once its
comments are blanked (`blankComments_renderItems`).  In each reading the other items are asides, in
which no tag with the name that is looked for starts (`Skips`), since the names of the tags of a
data file start with different letters.  The records that are found are those written in the file,
in order (`map_unplaced_records`), and so are the menu entries (`map_unplaced_menus`).
-/

namespace AddonAtlas.Markup

open Text

/-! ## Text without tags of another name -/

/-- No value of the head holds the start of a tag. -/
def TagHead.Plain (h : TagHead) : Prop :=
  ∀ a ∈ h.attributes, '<' ∉ a.value

instance (h : TagHead) : Decidable h.Plain :=
  inferInstanceAs (Decidable (∀ a ∈ h.attributes, '<' ∉ a.value))

theorem WrittenAttribute.lt_notMem (a : WrittenAttribute) (h : '<' ∉ a.value) :
    '<' ∉ a.gap.text ++ a.text := by
  have hgap : '<' ∉ a.gap.text := a.gap.notMem (by decide)
  have hfirst : '<' ≠ a.first := fun heq => absurd a.isNameStart_first (heq ▸ by decide)
  have hothers : '<' ∉ a.others := fun hmem => absurd (a.isNamePart_others _ hmem) (by decide)
  have hquote : '<' ≠ a.quote := fun heq => absurd a.isQuote_quote (heq ▸ by decide)
  simp [WrittenAttribute.text, hgap, hfirst, hothers, hquote, h]

theorem TagHead.Plain.lt_notMem {h : TagHead} (hplain : h.Plain) : '<' ∉ h.text := by
  obtain ⟨attributes, tail⟩ := h
  induction attributes with
  | nil => exact tail.notMem (by decide)
  | cons a attributes ih =>
    have htext : TagHead.text ⟨a :: attributes, tail⟩ =
        (a.gap.text ++ a.text) ++ TagHead.text ⟨attributes, tail⟩ := by
      simp [TagHead.text, written, WrittenAttribute.segment]
    have hrest : TagHead.Plain ⟨attributes, tail⟩ := fun b hb => hplain b (by simp [hb])
    rw [htext, List.mem_append, not_or]
    exact ⟨a.lt_notMem (hplain a (by simp)), ih hrest⟩

/-- A word that no tag of this name has behind its `<`, whatever follows the tag's name. -/
def Foreign (name : TagName) (word : List Char) : Prop :=
  (¬ word <+: name.text ∧ ¬ name.text <+: word) ∧
    ¬ word <+: '/' :: name.text ∧ ¬ '/' :: name.text <+: word

instance (name : TagName) (word : List Char) : Decidable (Foreign name word) :=
  inferInstanceAs (Decidable (_ ∧ _))

section Foreign

variable {name : TagName} {word : List Char}

theorem neverStarts_tag (h : Foreign name word) {t : WrittenTag} (hplain : t.head.Plain) :
    NeverStarts ('<' :: word) (t.text name) := by
  have htext : '<' ∉ name.text ++ (t.head.text ++ t.closer) := by
    have hcloser : '<' ∉ t.closer := by
      rw [WrittenTag.closer]
      cases t.kind <;> decide
    simp [name.lt_notMem, hplain.lt_notMem, hcloser]
  obtain ⟨kind, head⟩ := t
  cases kind with
  | opening | selfClosing => exact neverStarts_cons name.text h.1.1 h.1.2 htext
  | closing =>
    refine neverStarts_cons ('/' :: name.text) h.2.1 h.2.2 ?_
    rw [List.cons_append, List.mem_cons, not_or]
    exact ⟨by decide, htext⟩

/-- No text of the forest holds the start of a tag. -/
def Forest.Plain : Forest name → Prop
  | text filler => '<' ∉ filler.text
  | leaf filler head rest => '<' ∉ filler.text ∧ head.Plain ∧ rest.Plain
  | branch filler head inner _ rest => '<' ∉ filler.text ∧ head.Plain ∧ inner.Plain ∧ rest.Plain

instance Forest.decidablePlain : (forest : Forest name) → Decidable forest.Plain
  | text filler => inferInstanceAs (Decidable ('<' ∉ filler.text))
  | leaf filler head rest =>
    have := rest.decidablePlain
    inferInstanceAs (Decidable ('<' ∉ filler.text ∧ head.Plain ∧ rest.Plain))
  | branch filler head inner _ rest =>
    have := inner.decidablePlain
    have := rest.decidablePlain
    inferInstanceAs (Decidable ('<' ∉ filler.text ∧ head.Plain ∧ inner.Plain ∧ rest.Plain))

theorem Forest.Plain.neverStarts {forest : Forest name} (hplain : forest.Plain)
    (h : Foreign name word) : NeverStarts ('<' :: word) forest.render := by
  induction forest with
  | text filler => exact neverStarts_of_notMem hplain
  | leaf filler head rest ih =>
    obtain ⟨hfiller, hhead, hrest⟩ := hplain
    exact (neverStarts_of_notMem hfiller).append ((neverStarts_tag h hhead).append (ih hrest))
  | branch filler head inner tail rest ihinner ihrest =>
    obtain ⟨hfiller, hhead, hinner, hrest⟩ := hplain
    have hclose : TagHead.Plain ⟨[], tail⟩ := by simp [TagHead.Plain]
    exact (neverStarts_of_notMem hfiller).append ((neverStarts_tag h hhead).append
      ((ihinner hinner).append ((neverStarts_tag h hclose).append (ihrest hrest))))

end Foreign

/-! ## Asides -/

/-- No tag with this name starts in the text, whatever follows it. -/
def Skips (name : TagName) (text : List Char) : Prop :=
  NeverStarts ('<' :: name.text) text ∧ NeverStarts ('<' :: '/' :: name.text) text

section Asides

variable {name : TagName}

theorem skips_of_notMem {text : List Char} (h : '<' ∉ text) : Skips name text :=
  ⟨neverStarts_of_notMem h, neverStarts_of_notMem h⟩

/-- A text in which no tag starts, as a filler. -/
def Filler.ofSkips {text : List Char} (h : Skips name text) : Filler name where
  text := text
  no_opening := h.1.not_isInfix
  no_closing := h.2.not_isInfix

/-- A text without the start of a tag, as a filler. -/
def Filler.plain (text : List Char) (h : '<' ∉ text) : Filler name :=
  .ofSkips (skips_of_notMem h)

@[simp] theorem Filler.text_plain (text : List Char) (h : '<' ∉ text) :
    (Filler.plain text h : Filler name).text = text := rfl

theorem lt_notMem_nil : '<' ∉ ([] : List Char) := List.not_mem_nil

def Filler.none : Filler name :=
  .plain [] lt_notMem_nil

@[simp] theorem Filler.text_none : (Filler.none : Filler name).text = [] := rfl

def Filler.prepend {text : List Char} (h : Skips name text) (f : Filler name) : Filler name where
  text := text ++ f.text
  no_opening := h.1.not_isInfix_append f.no_opening
  no_closing := h.2.not_isInfix_append f.no_closing

def Forest.prepend {text : List Char} (h : Skips name text) : Forest name → Forest name
  | .text filler => .text (filler.prepend h)
  | .leaf filler head rest => .leaf (filler.prepend h) head rest
  | .branch filler head inner tail rest => .branch (filler.prepend h) head inner tail rest

theorem Forest.render_prepend {text : List Char} (h : Skips name text) (forest : Forest name) :
    (forest.prepend h).render = text ++ forest.render := by
  cases forest <;> simp [Forest.prepend, render, Filler.prepend]

theorem Forest.elements_prepend {text : List Char} (h : Skips name text) (forest : Forest name)
    (cap offset : Nat) :
    (forest.prepend h).elements cap offset = forest.elements cap (offset + text.length) := by
  cases forest <;> simp [Forest.prepend, elements, Filler.prepend, Nat.add_assoc]

/-- An item of a file as a reader of the elements with one name takes it. -/
inductive Piece (name : TagName)
  /-- Text in which no tag starts. -/
  | aside (text : List Char) (skips : Skips name text)
  | leaf (head : TagHead)
  | pair (head : TagHead) (inner : Filler name) (tail : Blanks)

namespace Piece

def text : Piece name → List Char
  | aside text _ => text
  | leaf head => WrittenTag.text name ⟨.selfClosing, head⟩
  | pair head inner tail =>
    WrittenTag.text name ⟨.opening, head⟩ ++
      (inner.text ++ WrittenTag.text name ⟨.closing, ⟨[], tail⟩⟩)

def node? : Piece name → Option (Node name)
  | aside _ _ => none
  | leaf head => some ⟨head, none⟩
  | pair head inner _ => some ⟨head, some (.text inner)⟩

/-- The forest of some pieces. -/
def forest : List (Piece name) → Forest name
  | [] => .text .none
  | aside _ skips :: pieces => (forest pieces).prepend skips
  | leaf head :: pieces => .leaf .none head (forest pieces)
  | pair head inner tail :: pieces => .branch .none head (.text inner) tail (forest pieces)

theorem render_forest (pieces : List (Piece name)) :
    (forest pieces).render = pieces.flatMap text := by
  induction pieces with
  | nil => rfl
  | cons piece pieces ih =>
    cases piece with
    | aside text skips => rw [forest, Forest.render_prepend, ih, List.flatMap_cons, Piece.text]
    | leaf head => simp [forest, Forest.render, ih, text]
    | pair head inner tail => simp [forest, Forest.render, ih, text]

theorem map_unplaced_elements (pieces : List (Piece name)) (cap offset : Nat) :
    ((forest pieces).elements cap offset).map Element.unplaced =
      (pieces.filterMap node?).map (Node.element cap) := by
  induction pieces generalizing offset with
  | nil => rfl
  | cons piece pieces ih =>
    cases piece with
    | aside text skips =>
      rw [forest, Forest.elements_prepend, ih, List.filterMap_cons_none rfl]
    | leaf head =>
      rw [forest, Forest.elements, List.map_cons, ih]
      simp [node?, Element.unplaced, Node.element]
    | pair head inner tail =>
      rw [forest, Forest.elements, List.map_cons, List.map_append, ih]
      simp [node?, Element.unplaced, Node.element, Forest.elements]

/-- The elements that are found in a text of pieces are those of the pieces. -/
theorem elements_text (pieces : List (Piece name)) (cap : Nat) :
    (Markup.elements name.text cap (pieces.flatMap text)).map Element.unplaced =
      (pieces.filterMap node?).map (Node.element cap) := by
  rw [← render_forest, elements_forest, map_unplaced_elements]

end Piece

end Asides

/-! ## Records, menu entries and comments -/

def recordName : TagName where
  text := "record".toList
  ne_nil := by decide
  lt_notMem := by decide
  slash_notMem := by decide

def menuName : TagName where
  text := "menuitem".toList
  ne_nil := by decide
  lt_notMem := by decide
  slash_notMem := by decide

/-- A record as it is written. Its body is a forest of fields. -/
structure WrittenRecord where
  head : TagHead
  body : Forest fieldName
  tail : Blanks
  plain_head : head.Plain
  plain_body : body.Plain
  id_ne : head.attr "id" ≠ ""

def WrittenRecord.text (r : WrittenRecord) : List Char :=
  WrittenTag.text recordName ⟨.opening, r.head⟩ ++
    (r.body.render ++ WrittenTag.text recordName ⟨.closing, ⟨[], r.tail⟩⟩)

/-- The body of a record for a reader of records, who passes over its fields. -/
def WrittenRecord.filler (r : WrittenRecord) : Filler recordName :=
  .ofSkips ⟨r.plain_body.neverStarts (by decide), r.plain_body.neverStarts (by decide)⟩

/-- A record for a reader of records. -/
def WrittenRecord.node (r : WrittenRecord) : Node recordName where
  head := r.head
  inner := some (.text r.filler)

theorem WrittenRecord.body_element (r : WrittenRecord) {cap : Nat}
    (hcap : r.body.render.length ≤ cap) : (r.node.element cap).body = r.body.render :=
  List.take_of_length_le hcap

theorem WrittenRecord.neverStarts (r : WrittenRecord) {word : List Char}
    (hrecord : Foreign recordName word) (hfield : Foreign fieldName word) :
    NeverStarts ('<' :: word) r.text :=
  (neverStarts_tag hrecord r.plain_head).append ((r.plain_body.neverStarts hfield).append
    (neverStarts_tag hrecord (by simp [TagHead.Plain])))

/-- An item of a data file. -/
inductive Item
  /-- Text between the tags. -/
  | gap (words : List Char) (plain : '<' ∉ words)
  | comment (c : Comment)
  /-- The self-closing tag of a menu entry. -/
  | menu (head : TagHead) (plain : head.Plain)
  | record (r : WrittenRecord)

namespace Item

def written : Item → List Char
  | gap words _ => words
  | comment c => c.text
  | menu head _ => WrittenTag.text menuName ⟨.selfClosing, head⟩
  | record r => r.text

/-- What is left of an item when comments are blanked. -/
def seen : Item → List Char
  | comment c => c.blanked
  | item => item.written

def record? : Item → Option WrittenRecord
  | record r => some r
  | _ => none

def menu? : Item → Option TagHead
  | menu head _ => some head
  | _ => none

/-- An item for a reader of records. -/
def recordPiece : Item → Piece recordName
  | gap words plain => .aside words (skips_of_notMem plain)
  | comment c => .aside c.blanked (skips_of_notMem c.lt_notMem_blanked)
  | menu head plain =>
    .aside (WrittenTag.text menuName ⟨.selfClosing, head⟩)
      ⟨neverStarts_tag (by decide) plain, neverStarts_tag (by decide) plain⟩
  | record r => .pair r.head r.filler r.tail

def menuPiece : Item → Piece menuName
  | gap words plain => .aside words (skips_of_notMem plain)
  | comment c => .aside c.blanked (skips_of_notMem c.lt_notMem_blanked)
  | menu head _ => .leaf head
  | record r =>
    .aside r.text ⟨r.neverStarts (by decide) (by decide), r.neverStarts (by decide) (by decide)⟩

theorem text_recordPiece (item : Item) : item.recordPiece.text = item.seen := by
  cases item <;> rfl

theorem text_menuPiece (item : Item) : item.menuPiece.text = item.seen := by
  cases item <;> rfl

theorem blankFrom_written (item : Item) (done rest : List Char) :
    blankFrom false done (item.written ++ rest) =
      blankFrom false (item.seen.reverse ++ done) rest := by
  cases item with
  | comment c => exact blankFrom_comment c done rest
  | gap words plain => exact blankFrom_neverStarts (neverStarts_of_notMem plain) done rest
  | menu head plain =>
    have hmenu : Foreign menuName ['!', '-', '-'] := by decide
    exact blankFrom_neverStarts (neverStarts_tag hmenu plain) done rest
  | record r => exact blankFrom_neverStarts (r.neverStarts (by decide) (by decide)) done rest

end Item

def renderItems (items : List Item) : List Char :=
  items.flatMap Item.written

theorem blankComments_renderItems (items : List Item) :
    blankComments (renderItems items) = items.flatMap Item.seen := by
  have hblank (done : List Char) :
      blankFrom false done (renderItems items) = done.reverse ++ items.flatMap Item.seen := by
    induction items generalizing done with
    | nil => simp [renderItems, blankFrom]
    | cons item items ih =>
      rw [renderItems, List.flatMap_cons, item.blankFrom_written, ← renderItems, ih]
      simp
  exact hblank []

def recordsIn (items : List Item) : List WrittenRecord :=
  items.filterMap Item.record?

/-- The heads of the menu entries of a data file. -/
def menusIn (items : List Item) : List TagHead :=
  items.filterMap Item.menu?

/-- The elements with one name in a data file are those of the pieces that its items are for a
reader of this name. -/
theorem map_unplaced_itemElements {name : TagName} {piece : Item → Piece name}
    (hpiece : ∀ item, (piece item).text = item.seen) (items : List Item) (cap : Nat) :
    (elements name.text cap (blankComments (renderItems items))).map Element.unplaced =
      (items.filterMap fun item => (piece item).node?).map (Node.element cap) := by
  have htext : items.flatMap Item.seen = (items.map piece).flatMap Piece.text := by
    simp [List.flatMap_map, hpiece]
  rw [blankComments_renderItems, htext, Piece.elements_text, List.filterMap_map]
  rfl

/-- The records of one model that are found in a data file are those written in it. -/
theorem map_unplaced_records (model : String) (cap : Nat) (items : List Item) :
    (records model cap (renderItems items)).map Element.unplaced =
      ((recordsIn items).filter fun r => r.head.attr "model" == model).map
        fun r => r.node.element cap := by
  let test := fun e : Element => e.attr "model" == model && e.attr "id" != "" && !e.selfClosing
  have hnodes : (items.filterMap fun item => item.recordPiece.node?) =
      (recordsIn items).map WrittenRecord.node := by
    rw [recordsIn, List.map_filterMap]
    congr 1
    funext item
    cases item <;> rfl
  have htest : ∀ r : WrittenRecord, test (r.node.element cap) = (r.head.attr "model" == model) := by
    intro r
    have hid : (r.node.head.attr "id" != "") = true := bne_iff_ne.2 r.id_ne
    simp only [test, Node.attr_element, hid, Bool.and_true]
    simp [Node.element, WrittenRecord.node]
  calc (records model cap (renderItems items)).map Element.unplaced
      = ((elements recordName.text cap (blankComments (renderItems items))).map
          Element.unplaced).filter test := by
        rw [List.filter_map]
        rfl
    _ = ((recordsIn items).map fun r => r.node.element cap).filter test := by
        rw [map_unplaced_itemElements Item.text_recordPiece, hnodes, List.map_map]
        rfl
    _ = _ := by
        rw [List.filter_map]
        simp only [Function.comp_def, htest]

/-- The menu entries that are found in a data file are those written in it. -/
theorem map_unplaced_menus (items : List Item) :
    (selfClosingElements "menuitem".toList (renderItems items)).map Element.unplaced =
      (menusIn items).map fun head => (⟨head, none⟩ : Node menuName).element bodyLimit := by
  have hnodes : (items.filterMap fun item => item.menuPiece.node?) =
      (menusIn items).map fun head => ⟨head, none⟩ := by
    rw [menusIn, List.map_filterMap]
    congr 1
    funext item
    cases item <;> rfl
  calc (selfClosingElements "menuitem".toList (renderItems items)).map Element.unplaced
      = ((elements menuName.text bodyLimit (blankComments (renderItems items))).map
          Element.unplaced).filter (·.selfClosing) := by
        rw [List.filter_map]
        rfl
    _ = ((menusIn items).map fun head =>
          (⟨head, none⟩ : Node menuName).element bodyLimit).filter (·.selfClosing) := by
        rw [map_unplaced_itemElements Item.text_menuPiece, hnodes, List.map_map]
        rfl
    _ = _ := by
        rw [List.filter_map]
        simp [Function.comp_def, Node.element]

/-- What is told by the found records without their places is told by the written ones. -/
theorem map_records {β : Type} {read : Element → β} (hread : ∀ e, read e.unplaced = read e)
    (model : String) (cap : Nat) (items : List Item) :
    (records model cap (renderItems items)).map read =
      ((recordsIn items).filter fun r => r.head.attr "model" == model).map
        fun r => read (r.node.element cap) := by
  have hplace : read = read ∘ Element.unplaced := funext fun e => (hread e).symm
  rw [hplace, ← List.map_map, map_unplaced_records, List.map_map]
  simp only [Function.comp_def, hread]

/-- A record is no longer than the file that it stands in. -/
theorem length_body_le {items : List Item} {r : WrittenRecord} (hr : r ∈ recordsIn items) :
    r.body.render.length ≤ (renderItems items).length := by
  obtain ⟨item, hitem, hrecord⟩ := List.mem_filterMap.1 hr
  obtain rfl : item = .record r := by
    cases item <;> simp_all [Item.record?]
  obtain ⟨before, after, rfl⟩ := List.append_of_mem hitem
  simp only [renderItems, List.flatMap_append, List.flatMap_cons, Item.written, WrittenRecord.text,
    List.length_append]
  omega

end AddonAtlas.Markup
