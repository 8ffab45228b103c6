import AddonAtlas.Csv.Header
import AddonAtlas.Diagnostics
import AddonAtlas.Text.Case

/-!
# Access entries

The rows of a module's access table: who may read, write, create and delete the records of a model.
Columns are found by their headers. A cell that a row lacks reads as empty.
-/

namespace AddonAtlas.Access

open Text Document

/-- A row of an access table. -/
structure Entry where
  module : String
  id : String
  modelRef : String
  groupRef : String
  mayRead : Bool := false
  mayWrite : Bool := false
  mayCreate : Bool := false
  mayUnlink : Bool := false
  deriving DecidableEq, Repr

/-- Does the entry let everybody change records? -/
def Entry.isRisky (e : Entry) : Bool :=
  e.groupRef == "" && (e.mayWrite || e.mayCreate || e.mayUnlink)

/-- The entry as it is reported. -/
def Entry.value (e : Entry) : Value :=
  .object [("module", .text e.module), ("id", .text e.id), ("model_ref", .text e.modelRef),
    ("group_ref", .text e.groupRef), ("perm_read", .bool e.mayRead),
    ("perm_write", .bool e.mayWrite), ("perm_create", .bool e.mayCreate),
    ("perm_unlink", .bool e.mayUnlink)]

/-- Does a cell grant a permission? -/
def grants (cell : String) : Bool :=
  ["1", "true", "yes"].contains (lowerString (stripString cell))

/-- The position of the first of these names that heads a column. -/
def position? (headers names : List String) : Option Nat :=
  names.findSome? (Csv.column? headers)

/-- The cell of a row under the first of these names that heads a column, without the blanks around
it. -/
def cell (headers row names : List String) : String :=
  match position? headers names with
  | some position => stripString (row.getD position "")
  | none => ""

/-- The entry of a row. -/
def Entry.ofRow (module : String) (headers row : List String) : Entry where
  module
  id := cell headers row ["id"]
  modelRef := cell headers row ["model_id:id", "model_id/id"]
  groupRef := cell headers row ["group_id:id", "group_id/id"]
  mayRead := grants (cell headers row ["perm_read"])
  mayWrite := grants (cell headers row ["perm_write"])
  mayCreate := grants (cell headers row ["perm_create"])
  mayUnlink := grants (cell headers row ["perm_unlink"])

/-- The cells of a line as strings. -/
def rowOf (line : List Char) : List String :=
  (Csv.cells line).map String.ofList

/-- The lines of a table without the blanks around them and without blank lines. -/
def tableLines (content : List Char) : List (List Char) :=
  ((lines content).map strip).filter (!·.isEmpty)

/-- The entries of a table, and the number of rows with fewer cells than the header. -/
def parse (module : String) (content : List Char) : List Entry × Nat :=
  match tableLines content with
  | [] => ([], 0)
  | first :: rest =>
    let headers := rowOf first
    let rows := rest.map rowOf
    (rows.map (Entry.ofRow module headers),
      (rows.filter fun row => decide (row.length < headers.length)).length)

/-- The entries of a table, and the diagnostics with its short rows counted. -/
def parseInto (module : String) (content : List Char) (diagnostics : Diagnostics) :
    List Entry × Diagnostics :=
  let (entries, short) := parse module content
  (entries, { diagnostics with shortRows := diagnostics.shortRows + short })

end AddonAtlas.Access
