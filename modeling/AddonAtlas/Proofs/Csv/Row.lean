import Mathlib
import AddonAtlas.Csv.Row

/-!
# Written rows

A `Cell` is written between double quotes, with every double quote inside it written twice, or bare,
if it has no comma and no line end in it and does not start with a double quote.  A row is its cells
with commas between them.  Reading a written row gives back its cells, as long as none is longer than
the reader allows (`cells_writeCells`).
-/

namespace AddonAtlas.Csv

/-- The cell with every double quote twice. -/
def doubled (cell : List Char) : List Char :=
  cell.flatMap fun c => if c = '"' then ['"', '"'] else [c]

/-- The cell between double quotes. -/
def quoteCell (cell : List Char) : List Char :=
  '"' :: (doubled cell ++ ['"'])

/-- The cells of a row between double quotes, with commas between them. -/
def writeRow (row : List (List Char)) : List Char :=
  [','].intercalate (row.map quoteCell)

theorem writeRow_cons_cons (cell next : List Char) (row : List (List Char)) :
    writeRow (cell :: next :: row) = quoteCell cell ++ ',' :: writeRow (next :: row) := by
  simp [writeRow, List.intercalate_cons_cons]

theorem writeRow_singleton (cell : List Char) : writeRow [cell] = quoteCell cell := by
  simp [writeRow]

theorem mem_quoteCell {c : Char} {cell : List Char} (h : c ∈ quoteCell cell) :
    c = '"' ∨ c ∈ cell := by
  simp only [quoteCell, doubled, List.mem_cons, List.mem_append, List.mem_flatMap,
    List.not_mem_nil, or_false] at h
  rcases h with h | ⟨d, hd, h⟩ | h
  · exact .inl h
  · split_ifs at h with hquote
    · exact .inl (by simpa using h)
    · rw [List.mem_singleton.1 h]
      exact .inr hd
  · exact .inl h

theorem mem_writeRow {c : Char} {row : List (List Char)} (h : c ∈ writeRow row) :
    c = '"' ∨ c = ',' ∨ ∃ cell ∈ row, c ∈ cell := by
  induction row with
  | nil => simp [writeRow] at h
  | cons cell row ih =>
    cases row with
    | nil =>
      rw [writeRow_singleton] at h
      exact (mem_quoteCell h).imp_right fun hc => .inr ⟨cell, by simp, hc⟩
    | cons next row =>
      rw [writeRow_cons_cons, List.mem_append, List.mem_cons] at h
      rcases h with h | h | h
      · exact (mem_quoteCell h).imp_right fun hc => .inr ⟨cell, by simp, hc⟩
      · exact .inr (.inl h)
      · rcases ih h with h | h | ⟨d, hd, hc⟩
        · exact .inl h
        · exact .inr (.inl h)
        · exact .inr (.inr ⟨d, List.mem_cons_of_mem _ hd, hc⟩)

theorem head?_writeRow {row : List (List Char)} (hne : row ≠ []) :
    (writeRow row).head? = some '"' := by
  cases row with
  | nil => exact absurd rfl hne
  | cons cell row =>
    cases row with
    | nil => simp [writeRow_singleton, quoteCell]
    | cons next row => simp [writeRow_cons_cons, quoteCell]

theorem getLast?_writeRow {row : List (List Char)} (hne : row ≠ []) :
    (writeRow row).getLast? = some '"' := by
  induction row with
  | nil => exact absurd rfl hne
  | cons cell row ih =>
    cases row with
    | nil => simp [writeRow_singleton, quoteCell, List.getLast?_cons]
    | cons next row =>
      rw [writeRow_cons_cons, List.getLast?_append, List.getLast?_cons, ih (by simp)]
      rfl

/-! ## Rows of quoted and bare cells -/

/-- Text that may stand in a row as it is. -/
structure IsBare (text : List Char) : Prop where
  plain : ∀ c ∈ text, c ≠ ',' ∧ c ≠ '\n' ∧ c ≠ '\r'
  unquoted : text.head? ≠ some '"'

/-- A cell and how it is written. -/
inductive Cell
  /-- Between double quotes. -/
  | quoted (text : List Char)
  /-- As it is. -/
  | bare (text : List Char) (h : IsBare text)

namespace Cell

/-- What the cell says. -/
def text : Cell → List Char
  | quoted text => text
  | bare text _ => text

/-- The cell as it is written. -/
def render : Cell → List Char
  | quoted text => quoteCell text
  | bare text _ => text

/-- Where the reader stands behind the cell, having stood at `place` before it. -/
def placeBehind (place : Place) : Cell → Place
  | quoted _ => .quoteSeen
  | bare [] _ => place
  | bare (_ :: _) _ => .bare

theorem placeBehind_ne (cell : Cell) {place other : Place} (hplace : place ≠ other)
    (hseen : other ≠ .quoteSeen) (hbare : other ≠ .bare) : cell.placeBehind place ≠ other := by
  rcases cell with _ | ⟨_ | _, _⟩
  · exact hseen.symm
  · exact hplace
  · exact hbare.symm

/-- A cell that is written with nothing leaves the reader where it stood. -/
theorem placeBehind_ne_rowStart {cell : Cell} {place : Place}
    (h : place = .rowStart → cell.render ≠ []) : cell.placeBehind place ≠ .rowStart := by
  rcases cell with _ | ⟨_ | _, _⟩
  · simp [placeBehind]
  · exact fun hplace => h hplace rfl
  · simp [placeBehind]

end Cell

/-- The cells of a row as they are written, with commas between them. -/
def writeCells (row : List Cell) : List Char :=
  [','].intercalate (row.map Cell.render)

theorem writeCells_singleton (cell : Cell) : writeCells [cell] = cell.render := by
  simp [writeCells]

theorem writeCells_cons_cons (cell next : Cell) (row : List Cell) :
    writeCells (cell :: next :: row) = cell.render ++ ',' :: writeCells (next :: row) := by
  simp [writeCells, List.intercalate_cons_cons]

theorem writeCells_quoted (row : List (List Char)) :
    writeCells (row.map .quoted) = writeRow row := by
  simp [writeCells, writeRow, Function.comp_def, Cell.render]

/-! ## The reader of a row -/

namespace Reader

theorem read_cons {r r' : Reader} {c : Char} (h : r.step c = some r') (rest : List Char) :
    r.read (c :: rest) = r'.read rest := by
  rw [read, h]

/-- Inside a quoted cell the reader takes the text of the cell, quotes undoubled. -/
theorem read_doubled (cell taken : List Char) (size : Nat) (done : List (List Char))
    (hsize : size + cell.length ≤ cellLimit) (rest : List Char) :
    read ⟨.quoted, taken, size, done⟩ (doubled cell ++ '"' :: rest) =
      read ⟨.quoteSeen, cell.reverse ++ taken, size + cell.length, done⟩ rest := by
  induction cell generalizing taken size with
  | nil => exact read_cons rfl rest
  | cons c cell ih =>
    rw [List.length_cons] at hsize
    have hroom : size < cellLimit := by omega
    have hcell := ih (c :: taken) (size + 1) (by omega)
    have hsum : size + 1 + cell.length = size + (cell.length + 1) := by omega
    by_cases hc : c = '"'
    · subst hc
      have hadd : step ⟨.quoteSeen, taken, size, done⟩ '"' =
          some ⟨.quoted, '"' :: taken, size + 1, done⟩ := by
        simp [step, add, hroom]
      simp only [doubled, List.flatMap_cons, if_true, List.cons_append, List.nil_append]
      rw [read_cons rfl, read_cons hadd]
      simpa [doubled, hsum] using hcell
    · have hadd : step ⟨.quoted, taken, size, done⟩ c =
          some ⟨.quoted, c :: taken, size + 1, done⟩ := by
        simp [step, add, hroom, hc]
      simp only [doubled, List.flatMap_cons, if_neg hc, List.cons_append, List.nil_append]
      rw [read_cons hadd]
      simpa [doubled, hsum] using hcell

/-- A quoted cell is taken whole at the start of a row and behind a comma. -/
theorem read_quoteCell {place : Place} (hplace : place = .rowStart ∨ place = .cellStart)
    {cell : List Char} (hcell : cell.length ≤ cellLimit) (done : List (List Char))
    (rest : List Char) :
    read ⟨place, [], 0, done⟩ (quoteCell cell ++ rest) =
      read ⟨.quoteSeen, cell.reverse, cell.length, done⟩ rest := by
  have hopen : step ⟨place, [], 0, done⟩ '"' = some ⟨.quoted, [], 0, done⟩ := by
    rcases hplace with rfl | rfl <;> rfl
  have hread := read_doubled cell [] 0 done (by omega) rest
  rw [List.append_nil, Nat.zero_add] at hread
  rw [quoteCell, List.cons_append, List.append_assoc, List.singleton_append, read_cons hopen, hread]

/-- Inside a bare cell the reader takes everything up to a comma or a line end, double quotes
included. -/
theorem read_bare {text : List Char} (hplain : ∀ c ∈ text, c ≠ ',' ∧ c ≠ '\n' ∧ c ≠ '\r')
    (taken : List Char) (size : Nat) (done : List (List Char))
    (hsize : size + text.length ≤ cellLimit) (rest : List Char) :
    read ⟨.bare, taken, size, done⟩ (text ++ rest) =
      read ⟨.bare, text.reverse ++ taken, size + text.length, done⟩ rest := by
  induction text generalizing taken size with
  | nil => rfl
  | cons c text ih =>
    obtain ⟨⟨hcomma, hfeed, hreturn⟩, htext⟩ := List.forall_mem_cons.1 hplain
    rw [List.length_cons] at hsize
    have hroom : size < cellLimit := by omega
    have hadd : step ⟨.bare, taken, size, done⟩ c =
        some ⟨.bare, c :: taken, size + 1, done⟩ := by
      simp [step, add, hroom, hcomma, hfeed, hreturn]
    have hsum : size + 1 + text.length = size + (text.length + 1) := by omega
    rw [List.cons_append, read_cons hadd, ih htext (c :: taken) (size + 1) (by omega), hsum]
    simp

/-- A cell is taken whole at the start of a row and behind a comma. -/
theorem read_cell {place : Place} (hplace : place = .rowStart ∨ place = .cellStart) {cell : Cell}
    (hcell : cell.text.length ≤ cellLimit) (done : List (List Char)) (rest : List Char) :
    read ⟨place, [], 0, done⟩ (cell.render ++ rest) =
      read ⟨cell.placeBehind place, cell.text.reverse, cell.text.length, done⟩ rest := by
  rcases cell with text | ⟨_ | ⟨c, text⟩, h⟩
  · exact read_quoteCell hplace hcell done rest
  · rfl
  · obtain ⟨⟨hcomma, hfeed, hreturn⟩, htext⟩ := List.forall_mem_cons.1 h.plain
    have hquote : c ≠ '"' := by simpa using h.unquoted
    have hadd : step ⟨place, [], 0, done⟩ c = some ⟨.bare, [c], 1, done⟩ := by
      rcases hplace with rfl | rfl <;>
        simp [step, stepCellStart, add, cellLimit, hquote, hcomma, hfeed, hreturn]
    have hsize : 1 + text.length ≤ cellLimit := by
      rw [Nat.add_comm]
      exact hcell
    rw [Cell.render, List.cons_append, read_cons hadd, read_bare htext [c] 1 done hsize]
    simp [Cell.text, Cell.placeBehind, Nat.add_comm]

theorem step_comma {place : Place} (hquoted : place ≠ .quoted) (hend : place ≠ .rowEnd)
    (taken : List Char) (size : Nat) (done : List (List Char)) :
    step ⟨place, taken, size, done⟩ ',' = some ⟨.cellStart, [], 0, taken.reverse :: done⟩ := by
  cases place <;> simp_all [step, stepCellStart, save]

theorem finish_eq {place : Place} (hstart : place ≠ .rowStart) (hend : place ≠ .rowEnd)
    (taken : List Char) (size : Nat) (done : List (List Char)) :
    finish ⟨place, taken, size, done⟩ = done.reverse ++ [taken.reverse] := by
  cases place <;> simp_all [finish, save]

/-- A row is read to its end.  A text that is empty from the start on would be no row. -/
theorem read_writeCells {place : Place} (hplace : place = .rowStart ∨ place = .cellStart)
    {row : List Cell} (hne : row ≠ []) (hline : place = .rowStart → writeCells row ≠ [])
    (hrow : ∀ cell ∈ row, cell.text.length ≤ cellLimit) (done : List (List Char)) :
    read ⟨place, [], 0, done⟩ (writeCells row) = some (done.reverse ++ row.map Cell.text) := by
  induction row generalizing place done with
  | nil => exact absurd rfl hne
  | cons cell row ih =>
    have hcell : cell.text.length ≤ cellLimit := hrow cell List.mem_cons_self
    have hend : cell.placeBehind place ≠ .rowEnd := by
      apply cell.placeBehind_ne <;> rcases hplace with rfl | rfl <;> decide
    cases row with
    | nil =>
      have hread := read_cell hplace hcell done []
      rw [List.append_nil] at hread
      rw [writeCells_singleton] at hline ⊢
      rw [hread, read, finish_eq (Cell.placeBehind_ne_rowStart hline) hend, List.reverse_reverse]
      rfl
    | cons next row =>
      have hquoted : cell.placeBehind place ≠ .quoted := by
        apply cell.placeBehind_ne <;> rcases hplace with rfl | rfl <;> decide
      rw [writeCells_cons_cons, read_cell hplace hcell, read_cons (step_comma hquoted hend _ _ _),
        ih (.inr rfl) (List.cons_ne_nil _ _) (by simp)
          fun c hc => hrow c (List.mem_cons_of_mem _ hc)]
      simp

end Reader

/-- Reading a written row gives back its cells. -/
theorem cells_writeRow {row : List (List Char)} (hne : row ≠ [])
    (hrow : ∀ cell ∈ row, cell.length ≤ cellLimit) : cells (writeRow row) = row := by
  have hline : writeCells (row.map .quoted) ≠ [] := by
    intro hnil
    rw [writeCells_quoted] at hnil
    simpa [hnil] using head?_writeRow hne
  have hread := Reader.read_writeCells (.inl rfl) (by simpa using hne) (fun _ => hline)
    (by simpa [Cell.text] using hrow) []
  rw [writeCells_quoted] at hread
  rw [cells, hread]
  simp [Function.comp_def, Cell.text]

/-- Reading a row of quoted and bare cells gives back what the cells say, but for the empty line. -/
theorem cells_writeCells {row : List Cell} (hne : row ≠ [])
    (hrow : ∀ cell ∈ row, cell.text.length ≤ cellLimit) (hline : writeCells row ≠ []) :
    cells (writeCells row) = row.map Cell.text := by
  have hread := Reader.read_writeCells (.inl rfl) hne (fun _ => hline) hrow []
  rw [cells, hread]
  rfl

theorem isBare_nil : IsBare [] :=
  ⟨by simp, by simp⟩

theorem isBare_padded : IsBare " x\"y ".toList :=
  ⟨by simp, by simp⟩

/-- Quoted and bare cells, empty ones and one with blanks and a quote in it among them. -/
def sampleCells : List Cell := [
  .bare [] isBare_nil, .quoted "a,b".toList, .bare " x\"y ".toList isBare_padded,
  .quoted "say \"hi\"".toList, .quoted [], .bare [] isBare_nil]

theorem cells_writeCells_sample :
    cells ",\"a,b\", x\"y ,\"say \"\"hi\"\"\",\"\",".toList =
      [[], "a,b".toList, " x\"y ".toList, "say \"hi\"".toList, [], []] := by
  have hrow : ∀ cell ∈ sampleCells, cell.text.length ≤ cellLimit := by
    simp [sampleCells, Cell.text, cellLimit]
  exact cells_writeCells (List.cons_ne_nil _ _) hrow (List.cons_ne_nil _ _)

end AddonAtlas.Csv
