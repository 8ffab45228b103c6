import AddonAtlas.Markup.Comment
import AddonAtlas.Markup.Element

/-!
# Records and their fields

A record is a `<record>` element with an id and a model. Its fields are the `<field>` elements
directly inside it; fields inside a field belong to that field.
-/

namespace AddonAtlas.Markup

open Text

/-- The records of one model, outside of comments, in order. Records without an id and self-closing
ones are left out. -/
def records (model : String) (cap : Nat) (text : List Char) : List Element :=
  (elements "record".toList cap (blankComments text)).filter fun e =>
    e.attr "model" == model && e.attr "id" != "" && !e.selfClosing

/-- The self-closing elements of one name, outside of comments, in order. -/
def selfClosingElements (name text : List Char) : List Element :=
  (elements name bodyLimit (blankComments text)).filter (·.selfClosing)

/-- The fields of a record by name, in order. Of several fields with one name the first counts. -/
abbrev Fields := List (String × Element)

/-- Adds a field, unless it has no name or its name is there already. -/
def Fields.insertNew (fields : Fields) (e : Element) : Fields :=
  let name := e.attr "name"
  if name == "" || (fields.lookup name).isSome then fields else fields ++ [(name, e)]

/-- The fields directly inside a record with this body. -/
def fields (body : List Char) : Fields :=
  (outermost (elements "field".toList bodyLimit body)).foldl Fields.insertNew []

namespace Fields

/-- The text of a field, empty if the field is missing or self-closing. -/
def text (fields : Fields) (name : String) : String :=
  match fields.lookup name with
  | some e => if e.selfClosing then "" else e.text
  | none => ""

/-- The `ref` of a field, empty if there is none. -/
def ref (fields : Fields) (name : String) : String :=
  match fields.lookup name with
  | some e => e.attr "ref"
  | none => ""

/-- The `eval` of a field without the blanks around it, empty if there is none. -/
def eval (fields : Fields) (name : String) : String :=
  match fields.lookup name with
  | some e => stripString (e.attr "eval")
  | none => ""

end Fields

/-- A call `ref('target')`, with blanks around the quoted target. -/
def refCall? : Recogniser String := fun _ text => do
  let rest ← after? "ref(".toList text
  let (gap, rest) := rest.span isBlank
  let (target, rest) ← betweenQuotes? rest
  let (gap', rest) := rest.span isBlank
  let _ ← after? [')'] rest
  return (.ofList target, 4 + gap.length + (target.length + 2) + gap'.length + 1)

/-- The targets of the `ref('target')` calls of a text in order. -/
def refTargets (text : List Char) : List String :=
  (findAll refCall? text).map (·.value)

end AddonAtlas.Markup
