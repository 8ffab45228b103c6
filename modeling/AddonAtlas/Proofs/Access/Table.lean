import AddonAtlas.Access.Entry
import AddonAtlas.Proofs.Csv.Row
import AddonAtlas.Proofs.Text.Blank

/-!
# Written access tables

A `Sheet` is an access table as it is written: lines with spaces and tabs around them, some of
which are blank and the others rows of quoted cells.  `Describes` says what an entry tells about a
row: each field is the cell under the first column with the field's name, or else with its other
name.  A table that starts with a header row has one entry for every other row, in order, and the
diagnostics grow by the number of rows that are shorter than the header (`parseInto_render`).
-/

namespace AddonAtlas.Access

open Text

/-! ## Sheets -/

/-- A row of cells that stands on one line. -/
structure Row where
  cells : List (List Char)
  ne_nil : cells ≠ []
  onOneLine : ∀ cell ∈ cells, ∀ c ∈ cell, isLineEnd c = false
  within_limit : ∀ cell ∈ cells, cell.length ≤ Csv.cellLimit

/-- A row from cells that pass the test. -/
def Row.of (cells : List (List Char)) (ne_nil : cells ≠ [])
    (h : cells.all (fun cell => cell.all (!isLineEnd ·) && cell.length ≤ Csv.cellLimit) = true) :
    Row where
  cells := cells
  ne_nil := ne_nil
  onOneLine cell hcell c hc := by
    have hcell := List.all_eq_true.1 h cell hcell
    rw [Bool.and_eq_true, List.all_eq_true] at hcell
    simpa using hcell.1 c hc
  within_limit cell hcell := by
    have hcell := List.all_eq_true.1 h cell hcell
    rw [Bool.and_eq_true] at hcell
    simpa using hcell.2

/-- A line of a sheet. -/
inductive SheetLine
  /-- Spaces and tabs only. -/
  | blank (pads : Pads)
  /-- A row with spaces and tabs around it. -/
  | filled (before : Pads) (row : Row) (after : Pads)

namespace SheetLine

/-- The text of a line. -/
def text : SheetLine → List Char
  | blank pads => pads.text
  | filled before row after => before.text ++ (Csv.writeRow row.cells ++ after.text)

/-- The row on a line. -/
def row? : SheetLine → Option Row
  | blank _ => none
  | filled _ row _ => some row

end SheetLine

/-- An access table as it is written: lines with their ends, and a last line without one. -/
structure Sheet where
  lines : List (SheetLine × LineEnd)
  last : SheetLine

namespace Sheet

/-- The text of a sheet. -/
def render (s : Sheet) : List Char :=
  joinLines s.last.text (s.lines.map fun (line, stop) => (line.text, stop))

/-- The rows of a sheet in order. -/
def rows (s : Sheet) : List Row :=
  (s.lines.map Prod.fst ++ [s.last]).filterMap SheetLine.row?

end Sheet

/-! ## What an entry tells about a row -/

/-- Column `i` is the first one with this name. -/
def Heads (header : Row) (name : String) (i : Nat) : Prop :=
  (∃ cell, header.cells[i]? = some cell ∧ Csv.columnName (.ofList cell) = name) ∧
    ∀ j < i, ∀ cell, header.cells[j]? = some cell → Csv.columnName (.ofList cell) ≠ name

/-- The text of a row under the first of these names that heads a column, empty if there is no such
column or the row ends before it. -/
def Under (header row : Row) : (names : List String) → (text : String) → Prop
  | [], text => text = ""
  | name :: names, text =>
    (∃ i, Heads header name i ∧ text = .ofList (strip (row.cells.getD i []))) ∨
      (∀ i, ¬ Heads header name i) ∧ Under header row names text

/-- The row grants the permission with this name. -/
def Grants (header row : Row) (name : String) : Prop :=
  ∃ text, Under header row [name] text ∧ lowerString text ∈ ["1", "true", "yes"]

/-- The entry tells what the row says under this header. -/
structure Describes (module : String) (header row : Row) (e : Entry) : Prop where
  module_eq : e.module = module
  id : Under header row ["id"] e.id
  modelRef : Under header row ["model_id:id", "model_id/id"] e.modelRef
  groupRef : Under header row ["group_id:id", "group_id/id"] e.groupRef
  mayRead : e.mayRead = true ↔ Grants header row "perm_read"
  mayWrite : e.mayWrite = true ↔ Grants header row "perm_write"
  mayCreate : e.mayCreate = true ↔ Grants header row "perm_create"
  mayUnlink : e.mayUnlink = true ↔ Grants header row "perm_unlink"

/-- The cells of a row as strings. -/
def Row.strings (row : Row) : List String :=
  row.cells.map String.ofList

theorem column?_eq_some_iff {header : Row} {name : String} {i : Nat} :
    Csv.column? header.strings name = some i ↔ Heads header name i := by
  simp only [Csv.column?, Row.strings, List.findIdx?_map, Heads]
  rw [List.findIdx?_eq_some_iff_getElem]
  constructor
  · rintro ⟨hi, hname, hbefore⟩
    refine ⟨⟨header.cells[i], List.getElem?_eq_getElem hi, ?_⟩, ?_⟩
    · simpa using hname
    · intro j hj cell hcell hcolumn
      have hlt : j < header.cells.length := by omega
      rw [List.getElem?_eq_getElem hlt, Option.some.injEq] at hcell
      exact hbefore j hj (by simp [hcell, hcolumn])
  · rintro ⟨⟨cell, hcell, hcolumn⟩, hbefore⟩
    obtain ⟨hi, rfl⟩ := List.getElem?_eq_some_iff.1 hcell
    refine ⟨hi, by simp [hcolumn], fun j hj => ?_⟩
    have hlt : j < header.cells.length := by omega
    simpa using hbefore j hj _ (List.getElem?_eq_getElem hlt)

theorem column?_eq_none_iff {header : Row} {name : String} :
    Csv.column? header.strings name = none ↔ ∀ i, ¬ Heads header name i := by
  simp only [← column?_eq_some_iff]
  exact Option.eq_none_iff_forall_ne_some

theorem cell_cons (header row : List String) (name : String) (names : List String) :
    cell header row (name :: names) =
      match Csv.column? header name with
      | some i => stripString (row.getD i "")
      | none => cell header row names := by
  cases hcolumn : Csv.column? header name <;> simp [cell, position?, hcolumn]

theorem stripString_getD (row : Row) (i : Nat) :
    stripString (row.strings.getD i "") = .ofList (strip (row.cells.getD i [])) := by
  have hget : row.strings.getD i "" = .ofList (row.cells.getD i []) :=
    List.getD_map _ [] String.ofList
  rw [hget, stripString, String.toList_ofList]

/-- The reader finds the text that stands under the names. -/
theorem under_cell (header row : Row) (names : List String) :
    Under header row names (cell header.strings row.strings names) := by
  induction names with
  | nil => rfl
  | cons name names ih =>
    rw [cell_cons]
    cases hcolumn : Csv.column? header.strings name with
    | some i => exact .inl ⟨i, column?_eq_some_iff.1 hcolumn, stripString_getD row i⟩
    | none => exact .inr ⟨column?_eq_none_iff.1 hcolumn, ih⟩

theorem Heads.unique {header : Row} {name : String} {i j : Nat} (hi : Heads header name i)
    (hj : Heads header name j) : i = j := by
  have h := column?_eq_some_iff.2 hi
  rw [column?_eq_some_iff.2 hj] at h
  exact (Option.some.inj h).symm

theorem Under.unique {header row : Row} {names : List String} {a b : String}
    (ha : Under header row names a) (hb : Under header row names b) : a = b := by
  induction names with
  | nil => exact ha.trans hb.symm
  | cons name names ih =>
    rcases ha with ⟨i, hi, rfl⟩ | ⟨hnone, ha⟩ <;> rcases hb with ⟨j, hj, rfl⟩ | ⟨hnone', hb⟩
    · rw [hi.unique hj]
    · exact absurd hi (hnone' i)
    · exact absurd hj (hnone j)
    · exact ih ha hb

theorem stripString_cell (header row names : List String) :
    stripString (cell header row names) = cell header row names := by
  unfold cell
  cases position? header names with
  | none => rfl
  | some i => exact stripString_stripString _

theorem grants_cell_iff {header row : Row} {name : String} :
    grants (cell header.strings row.strings [name]) = true ↔ Grants header row name := by
  have hcell := under_cell header row [name]
  rw [grants, stripString_cell, List.contains_iff_mem]
  constructor
  · intro h
    exact ⟨_, hcell, h⟩
  · rintro ⟨text, htext, h⟩
    rwa [hcell.unique htext]

theorem describes_ofRow (module : String) (header row : Row) :
    Describes module header row (.ofRow module header.strings row.strings) := by
  constructor <;> simp only [Entry.ofRow]
  · exact under_cell header row _
  · exact under_cell header row _
  · exact under_cell header row _
  · exact grants_cell_iff
  · exact grants_cell_iff
  · exact grants_cell_iff
  · exact grants_cell_iff

/-! ## Reading a sheet -/

theorem SheetLine.onOneLine (line : SheetLine) : ∀ c ∈ line.text, isLineEnd c = false := by
  intro c hc
  cases line with
  | blank pads => exact isLineEnd_eq_false_of_isPad (pads.pad c hc)
  | filled before row after =>
    simp only [SheetLine.text, List.mem_append] at hc
    rcases hc with hc | hc | hc
    · exact isLineEnd_eq_false_of_isPad (before.pad c hc)
    · rcases Csv.mem_writeRow hc with rfl | rfl | ⟨cell, hcell, hc⟩
      · decide
      · decide
      · exact row.onOneLine cell hcell c hc
    · exact isLineEnd_eq_false_of_isPad (after.pad c hc)

theorem SheetLine.strip_text (line : SheetLine) :
    strip line.text = (line.row?.map fun row => Csv.writeRow row.cells).getD [] := by
  cases line with
  | blank pads => exact trimBoth_of_forall fun c hc => isBlank_of_isPad (pads.pad c hc)
  | filled before row after =>
    have hhead := Csv.head?_writeRow row.ne_nil
    have hlast := Csv.getLast?_writeRow row.ne_nil
    refine trimBoth_append (fun c hc => isBlank_of_isPad (before.pad c hc))
      (fun c hc => isBlank_of_isPad (after.pad c hc)) ?_ ?_ ?_
    · rintro h
      simp [h] at hhead
    · rw [hhead]
      simp only [Option.mem_some_iff, forall_eq']
      decide
    · rw [hlast]
      simp only [Option.mem_some_iff, forall_eq']
      decide

theorem filter_strip (lines : List SheetLine) :
    ((lines.map SheetLine.text).map strip).filter (!·.isEmpty) =
      (lines.filterMap SheetLine.row?).map fun row => Csv.writeRow row.cells := by
  induction lines with
  | nil => rfl
  | cons line lines ih =>
    rw [List.map_cons, List.map_cons, List.filter_cons, ih, line.strip_text]
    cases line with
    | blank pads => rfl
    | filled before row after =>
      have hne : Csv.writeRow row.cells ≠ [] := fun h => by
        have := Csv.head?_writeRow row.ne_nil
        simp [h] at this
      simp [SheetLine.row?, hne]

theorem tableLines_render (sheet : Sheet) :
    tableLines sheet.render = sheet.rows.map fun row => Csv.writeRow row.cells := by
  have hlines : Text.lines sheet.render = (sheet.lines.map Prod.fst).map SheetLine.text ++
      (if sheet.last.text = [] then [] else [sheet.last.text]) := by
    rw [Sheet.render, lines_joinLines sheet.last.onOneLine]
    · simp [Function.comp_def]
    · rintro l hl
      obtain ⟨line, -, rfl⟩ := List.mem_map.1 hl
      exact line.1.onOneLine
  rw [tableLines, hlines, Sheet.rows, ← filter_strip]
  by_cases hlast : sheet.last.text = []
  · have hstrip : strip [] = [] := rfl
    simp [hlast, hstrip]
  · simp [hlast]

theorem rowOf_writeRow (row : Row) : rowOf (Csv.writeRow row.cells) = row.strings := by
  rw [rowOf, Csv.cells_writeRow row.ne_nil row.within_limit, Row.strings]

theorem length_strings (row : Row) : row.strings.length = row.cells.length := by
  simp [Row.strings]

theorem parse_render (module : String) {sheet : Sheet} {header : Row} {rows : List Row}
    (h : sheet.rows = header :: rows) :
    parse module sheet.render =
      (rows.map fun row => .ofRow module header.strings row.strings,
        rows.countP fun row => row.cells.length < header.cells.length) := by
  rw [parse, tableLines_render, h, List.map_cons]
  simp only [List.map_map, Function.comp_def, rowOf_writeRow, Prod.mk.injEq, true_and]
  rw [List.countP_eq_length_filter, List.filter_map, List.length_map]
  simp [Function.comp_def, length_strings]

/-- A table that starts with a header row has one entry for every other row, in order, which tells
what the row says, and the rows that are shorter than the header are counted. -/
theorem parseInto_render (module : String) (sheet : Sheet) (header : Row) (rows : List Row)
    (h : sheet.rows = header :: rows) (d : Diagnostics) :
    ∃ entries,
      parseInto module sheet.render d =
        (entries, { d with
          shortRows := d.shortRows +
            rows.countP fun row => row.cells.length < header.cells.length }) ∧
      List.Forall₂ (Describes module header) rows entries := by
  refine ⟨rows.map fun row => .ofRow module header.strings row.strings, ?_, ?_⟩
  · rw [parseInto, parse_render module h]
  · rw [List.forall₂_map_right_iff, List.forall₂_same]
    exact fun row _ => describes_ofRow module header row

/-- A header with a byte-order mark, a repeated column and the other name of the group's column. -/
def sampleHeader : Row :=
  .of ["\uFEFFid".toList, "group_id/id".toList, " perm_write ".toList, "id".toList] (by simp) rfl

/-- A row with a quote in a cell. -/
def sampleRow : Row :=
  .of ["a\"b".toList, " base.user ".toList, " YES".toList, "c".toList, "d".toList] (by simp) rfl

/-- A row that ends before the header does. -/
def sampleShortRow : Row :=
  .of ["short".toList] (by simp) rfl

/-- A sheet with a blank line, pads and both line ends. -/
def sampleSheet : Sheet where
  lines := [(.filled .none sampleHeader .space, .crlf), (.blank .tab, .lf),
    (.filled (.of [' ', '\t'] rfl) sampleRow .none, .lf)]
  last := .filled .none sampleShortRow .none

theorem parseInto_render_sample :
    sampleSheet.rows = [sampleHeader, sampleRow, sampleShortRow] ∧
      ∃ entries, parseInto "sale" sampleSheet.render {} = (entries, { shortRows := 1 }) ∧
        List.Forall₂ (Describes "sale" sampleHeader) [sampleRow, sampleShortRow] entries :=
  ⟨rfl, parseInto_render "sale" sampleSheet sampleHeader [sampleRow, sampleShortRow] rfl {}⟩

end AddonAtlas.Access
