import AddonAtlas.Number.Shortest

/-!
# Document values

The values that a document is made of. An object keeps its fields in the order in which they were
put.
-/

namespace AddonAtlas.Document

open Number

/-- A value of a document. -/
inductive Value
  | null
  | bool (b : Bool)
  | int (n : Int)
  | float (x : Binary64)
  | text (s : String)
  | list (items : List Value)
  | object (fields : List (String × Value))
  deriving Inhabited, Repr

/-- The fields of an object. -/
abbrev Fields := List (String × Value)

namespace Fields

/-- The value of a field. -/
def get? (fields : Fields) (name : String) : Option Value :=
  fields.lookup name

/-- The value of a field, or `default`. -/
def getD (fields : Fields) (name : String) (default : Value) : Value :=
  (fields.get? name).getD default

/-- Sets a field: in place if it is there, else at the end. -/
def put (fields : Fields) (name : String) (value : Value) : Fields :=
  if (fields.get? name).isSome then
    fields.map fun (n, v) => if n == name then (n, value) else (n, v)
  else fields ++ [(name, value)]

end Fields

namespace Value

/-- A list of texts. -/
def texts (items : List String) : Value :=
  .list (items.map .text)

/-- The size of a list. -/
def count {α : Type} (items : List α) : Value :=
  .int items.length

/-- Does the value count as true? Nothing, zero and what is empty do not. -/
def isTrue : Value → Bool
  | .null => false
  | .bool b => b
  | .int n => n != 0
  | .float x => !x.isZero
  | .text s => s != ""
  | .list items => !items.isEmpty
  | .object fields => !fields.isEmpty

end Value

end AddonAtlas.Document
