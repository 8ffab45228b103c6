/-!
# Rows of a comma-separated table

`cells` splits one line of a table at its commas. A cell that starts with a double quote runs to
the closing quote, and two double quotes inside it stand for one. A line that the format refuses,
because a cell is too long or text follows a line end, is split at every comma instead.
-/

namespace AddonAtlas.Csv

/-- Where in a row the reader stands. -/
inductive Place
  /-- Nothing of the row has been read. -/
  | rowStart
  /-- A comma has just been read. -/
  | cellStart
  /-- Inside a bare cell. -/
  | bare
  /-- Inside a quoted cell. -/
  | quoted
  /-- Behind a double quote inside a quoted cell. -/
  | quoteSeen
  /-- Behind the end of the row. -/
  | rowEnd
  deriving DecidableEq, Repr

/-- A partly read row. The text of the current cell and the finished cells are held backwards. -/
structure Reader where
  place : Place := .rowStart
  cell : List Char := []
  size : Nat := 0
  done : List (List Char) := []

/-- The most characters that a cell may hold. -/
def cellLimit : Nat := 131072

namespace Reader

/-- Adds a character to the current cell, unless the cell is full. -/
def add (r : Reader) (place : Place) (c : Char) : Option Reader :=
  if r.size < cellLimit then some { r with place, cell := c :: r.cell, size := r.size + 1 }
  else none

/-- Ends the current cell. -/
def save (r : Reader) (place : Place) : Reader :=
  { place, done := r.cell.reverse :: r.done }

/-- Reads one character at the start of a cell. -/
def stepCellStart (r : Reader) (c : Char) : Option Reader :=
  if c == '\n' || c == '\r' then some (r.save .rowEnd)
  else if c == '"' then some { r with place := .quoted }
  else if c == ',' then some (r.save .cellStart)
  else r.add .bare c

/-- Reads one character. The result is missing when the format refuses the row. -/
def step (r : Reader) (c : Char) : Option Reader :=
  match r.place with
  | .rowStart =>
    if c == '\n' || c == '\r' then some { r with place := .rowEnd } else r.stepCellStart c
  | .cellStart => r.stepCellStart c
  | .bare =>
    if c == '\n' || c == '\r' then some (r.save .rowEnd)
    else if c == ',' then some (r.save .cellStart)
    else r.add .bare c
  | .quoted => if c == '"' then some { r with place := .quoteSeen } else r.add .quoted c
  | .quoteSeen =>
    if c == '"' then r.add .quoted c
    else if c == ',' then some (r.save .cellStart)
    else if c == '\n' || c == '\r' then some (r.save .rowEnd)
    else r.add .bare c
  | .rowEnd => if c == '\n' || c == '\r' then some r else none

/-- The cells of a row that has been read to its end. -/
def finish (r : Reader) : List (List Char) :=
  match r.place with
  | .rowStart | .rowEnd => r.done.reverse
  | .cellStart | .bare | .quoted | .quoteSeen => (r.save .rowEnd).done.reverse

/-- Reads a whole text. -/
def read (r : Reader) : List Char → Option (List (List Char))
  | [] => some r.finish
  | c :: rest =>
    match r.step c with
    | some r => r.read rest
    | none => none

end Reader

/-- `splitCommas` with the current piece and the pieces before it, both held backwards. -/
def splitCommasFrom (piece : List Char) (done : List (List Char)) : List Char → List (List Char)
  | [] => (piece.reverse :: done).reverse
  | c :: rest =>
    if c == ',' then splitCommasFrom [] (piece.reverse :: done) rest
    else splitCommasFrom (c :: piece) done rest

/-- The text cut at every comma. -/
def splitCommas (text : List Char) : List (List Char) :=
  splitCommasFrom [] [] text

/-- The cells of one line of a table. -/
def cells (line : List Char) : List (List Char) :=
  match Reader.read {} line with
  | some row => row
  | none => splitCommas line

end AddonAtlas.Csv
