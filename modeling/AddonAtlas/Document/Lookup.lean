import AddonAtlas.Document.Plain

/-!
# Looking into a document

A document may lack a field or hold a value of an unexpected kind. The operations here look into
one and tell what is wrong.
-/

namespace AddonAtlas.Document

/-- The name of the kind of a value. -/
def Value.kind : Value → String
  | .null => "NoneType"
  | .bool _ => "bool"
  | .int _ => "int"
  | .float _ => "float"
  | .text _ => "str"
  | .list _ => "list"
  | .object _ => "dict"

/-- What is wrong with a value. -/
inductive Fault
  /-- An object lacks a field. -/
  | missing (name : String)
  /-- A text, a list or a scalar has no fields to index. -/
  | noFields (value : Value)
  /-- A value that is not an object has no operation on fields. -/
  | noOperation (value : Value) (operation : String)
  /-- A scalar has no items. -/
  | noItems (value : Value)
  /-- A value cannot be cut. -/
  | noSlice (value : Value)
  /-- A scalar has no size. -/
  | noSize (value : Value)
  /-- A scalar cannot be joined. -/
  | notJoinable
  /-- An item to be joined is no text. -/
  | notText (position : Nat) (value : Value)

/-- The wording of a fault. -/
def Fault.message : Fault → String
  | .missing name => Text.quoted name
  | .noFields (.text _) => "string indices must be integers, not 'str'"
  | .noFields (.list _) => "list indices must be integers or slices, not str"
  | .noFields value => "'" ++ value.kind ++ "' object is not subscriptable"
  | .noOperation value operation =>
    "'" ++ value.kind ++ "' object has no attribute '" ++ operation ++ "'"
  | .noItems value => "'" ++ value.kind ++ "' object is not iterable"
  | .noSlice (.object _) => "unhashable type: 'slice'"
  | .noSlice value => "'" ++ value.kind ++ "' object is not subscriptable"
  | .noSize value => "object of type '" ++ value.kind ++ "' has no len()"
  | .notJoinable => "can only join an iterable"
  | .notText position value =>
    "sequence item " ++ toString position ++ ": expected str instance, " ++ value.kind ++ " found"

namespace Value

/-- The characters of a text as texts. -/
def characters (s : String) : List Value :=
  s.toList.map fun c => .text (.ofList [c])

/-- A field that has to be there. -/
def need (value : Value) (name : String) : Except Fault Value :=
  match value with
  | .object fields =>
    match Fields.get? fields name with
    | some v => .ok v
    | none => .error (.missing name)
  | value => .error (.noFields value)

/-- A field of an object, or `default`. -/
def fieldD (value : Value) (name : String) (default : Value) : Except Fault Value :=
  match value with
  | .object fields => .ok (Fields.getD fields name default)
  | value => .error (.noOperation value "get")

/-- The fields of an object. -/
def fields (value : Value) : Except Fault Fields :=
  match value with
  | .object fields => .ok fields
  | value => .error (.noOperation value "items")

/-- The items of a list, the characters of a text or the names of an object's fields. -/
def items (value : Value) : Except Fault (List Value) :=
  match value with
  | .list items => .ok items
  | .text s => .ok (characters s)
  | .object fields => .ok (fields.map fun (name, _) => .text name)
  | value => .error (.noItems value)

/-- The first items of a list or characters of a text. -/
def firstItems (limit : Nat) (value : Value) : Except Fault (List Value) :=
  match value with
  | .list items => .ok (items.take limit)
  | .text s => .ok ((characters s).take limit)
  | value => .error (.noSlice value)

/-- The size of a list, a text or an object. -/
def size (value : Value) : Except Fault Nat :=
  match value with
  | .list items => .ok items.length
  | .text s => .ok s.length
  | .object fields => .ok fields.length
  | value => .error (.noSize value)

/-- The items, which have to be texts, from a position on. -/
def textsFrom (position : Nat) : List Value → Except Fault (List String)
  | [] => .ok []
  | .text s :: rest => return s :: (← textsFrom (position + 1) rest)
  | value :: _ => .error (.notText position value)

/-- The items, which have to be texts, with a separator between them. -/
def join (separator : String) (value : Value) : Except Fault String :=
  match value.items with
  | .ok items => return joinWith separator (← textsFrom 0 items)
  | .error _ => .error .notJoinable

end Value

end AddonAtlas.Document
