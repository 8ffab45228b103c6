import AddonAtlas.Document.Value
import AddonAtlas.Text.Quoted

/-!
# Documents as JSON text

A document is written with two spaces of indentation a level, with the fields of every object in
the order of their names, and in plain ASCII: every other character is written by its UTF-16 units.
-/

namespace AddonAtlas.Document

open Number Text

/-! ## Scalars -/

/-- A UTF-16 unit as an escape. -/
def unitEscape (n : Nat) : List Char :=
  '\\' :: 'u' :: hexDigits 4 n

/-- One character of a JSON string. -/
def jsonChar (c : Char) : List Char :=
  if c == '"' then ['\\', '"']
  else if c == '\\' then ['\\', '\\']
  else if c == '\n' then ['\\', 'n']
  else if c == '\r' then ['\\', 'r']
  else if c == '\t' then ['\\', 't']
  else if c.toNat = 0x8 then ['\\', 'b']
  else if c.toNat = 0xC then ['\\', 'f']
  else if 0x20 ≤ c.toNat && c.toNat ≤ 0x7E then [c]
  else if c.toNat < 0x10000 then unitEscape c.toNat
  else
    let n := c.toNat - 0x10000
    unitEscape (0xD800 + n / 0x400) ++ unitEscape (0xDC00 + n % 0x400)

/-- A JSON string. -/
def jsonString (s : String) : List Char :=
  '"' :: s.toList.flatMap jsonChar ++ ['"']

/-- The layout of floating-point numbers in JSON text. -/
def jsonLayout : Layout :=
  { Layout.plain with nan := "NaN", infinity := "Infinity" }

/-! ## Order of fields -/

mutual

/-- The value with the fields of every object in the order of their names. -/
def Value.sorted : Value → Value
  | .list items => .list (sortedItems items)
  | .object fields => .object ((sortedFields fields).mergeSort fun a b => decide (a.1 ≤ b.1))
  | value => value

/-- `Value.sorted` on every item. -/
def sortedItems : List Value → List Value
  | [] => []
  | item :: items => item.sorted :: sortedItems items

/-- `Value.sorted` on every field. -/
def sortedFields : List (String × Value) → List (String × Value)
  | [] => []
  | (name, value) :: fields => (name, value.sorted) :: sortedFields fields

end

/-! ## Layout -/

/-- A line end and the indentation of a level. -/
def newLine (depth : Nat) : List Char :=
  '\n' :: List.replicate (2 * depth) ' '

mutual

/-- The JSON text of a value at a level, with the fields of objects as they stand. -/
def Value.layOut (depth : Nat) : Value → List Char
  | .null => "null".toList
  | .bool true => "true".toList
  | .bool false => "false".toList
  | .int n => (intText n).toList
  | .float x => (x.textIn jsonLayout).toList
  | .text s => jsonString s
  | .list [] => ['[', ']']
  | .list (item :: items) =>
    '[' :: newLine (depth + 1) ++ item.layOut (depth + 1) ++ layOutItems (depth + 1) items ++
      newLine depth ++ [']']
  | .object [] => ['{', '}']
  | .object ((name, value) :: fields) =>
    '{' :: newLine (depth + 1) ++ jsonString name ++ ':' :: ' ' :: value.layOut (depth + 1) ++
      layOutFields (depth + 1) fields ++ newLine depth ++ ['}']

/-- The items after the first one. -/
def layOutItems (depth : Nat) : List Value → List Char
  | [] => []
  | item :: items => ',' :: newLine depth ++ item.layOut depth ++ layOutItems depth items

/-- The fields after the first one. -/
def layOutFields (depth : Nat) : List (String × Value) → List Char
  | [] => []
  | (name, value) :: fields =>
    ',' :: newLine depth ++ jsonString name ++ ':' :: ' ' :: value.layOut depth ++
      layOutFields depth fields

end

/-- The JSON text of a document, with a line end behind it. -/
def Value.json (value : Value) : String :=
  .ofList (value.sorted.layOut 0 ++ ['\n'])

end AddonAtlas.Document
