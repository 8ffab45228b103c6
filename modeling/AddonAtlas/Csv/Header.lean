import AddonAtlas.Csv.Row
import AddonAtlas.Text.Blank

/-!
# Column headers

Which column a header names. Byte-order marks before a name and blanks around it do not count, and
of two columns with one name the first is meant.
-/

namespace AddonAtlas.Csv

/-- The name that a header cell gives to its column. -/
def columnName (header : String) : String :=
  .ofList (Text.strip (header.toList.dropWhile (· == '\uFEFF')))

/-- `columns` from a position on, without the names in `known`. -/
def columnsFrom (known : List String) (position : Nat) : List String → List (String × Nat)
  | [] => []
  | header :: rest =>
    let name := columnName header
    if known.contains name then columnsFrom known (position + 1) rest
    else (name, position) :: columnsFrom (name :: known) (position + 1) rest

/-- The names of the columns with their positions, in order of appearance. -/
def columns (headers : List String) : List (String × Nat) :=
  columnsFrom [] 0 headers

/-- The position of the first column that has this name. -/
def column? (headers : List String) (name : String) : Option Nat :=
  headers.findIdx? (columnName · == name)

end AddonAtlas.Csv
