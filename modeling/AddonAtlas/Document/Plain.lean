import AddonAtlas.Document.Value
import AddonAtlas.Text.Quoted

/-!
# Values as plain text

How a value is shown inside a line of text. A text is shown as it is, but between quotes inside a
list or an object.
-/

namespace AddonAtlas.Document

open Number Text

/-- The texts with a separator between them. -/
def joinWith (separator : String) (texts : List String) : String :=
  separator.intercalate texts

mutual

/-- A value as it is shown inside a list or an object. -/
def Value.inner : Value → String
  | .null => "None"
  | .bool true => "True"
  | .bool false => "False"
  | .int n => intText n
  | .float x => x.text
  | .text s => quoted s
  | .list items => "[" ++ joinWith ", " (innerItems items) ++ "]"
  | .object fields => "\x7b" ++ joinWith ", " (innerFields fields) ++ "\x7d"

/-- `Value.inner` on every item. -/
def innerItems : List Value → List String
  | [] => []
  | item :: items => item.inner :: innerItems items

/-- The fields of an object as they are shown. -/
def innerFields : List (String × Value) → List String
  | [] => []
  | (name, value) :: fields => (quoted name ++ ": " ++ value.inner) :: innerFields fields

end

/-- A value as it is shown on its own. -/
def Value.plain : Value → String
  | .text s => s
  | value => value.inner

end AddonAtlas.Document
