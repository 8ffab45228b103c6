import AddonAtlas.Text.Scan

/-!
# Attributes

The attributes of a tag are name and value pairs, the value between two like quotes. Of several
attributes with one name the first counts.
-/

namespace AddonAtlas.Markup

open Text

/-- An attribute name and its value. -/
abbrev Attributes := List (String × String)

/-- May an attribute name start with this character? -/
def isNameStart (c : Char) : Bool :=
  c.isAlpha || c == '_'

/-- May an attribute name go on with this character? -/
def isNamePart (c : Char) : Bool :=
  isWord c || c == '.' || c == ':' || c == '-'

/-- A value between two like quotes, and how many characters it takes with them. -/
def quotedValue? : List Char → Option (List Char × Nat)
  | [] => none
  | quote :: rest =>
    if isQuote quote then
      match rest.span (· != quote) with
      | (_, []) => none
      | (value, _ :: _) => some (value, value.length + 2)
    else none

/-- An attribute: a name, an equals sign with blanks around it, and a quoted value. -/
def attributeAt? : Recogniser (String × String) := fun _ text => do
  match text with
  | [] => none
  | c :: rest =>
    guard (isNameStart c)
    let (name, rest) := rest.span isNamePart
    let (gap, rest) := rest.span isBlank
    let rest ← after? ['='] rest
    let (gap', rest) := rest.span isBlank
    let (value, size) ← quotedValue? rest
    return ((.ofList (c :: name), .ofList value),
      1 + name.length + gap.length + 1 + gap'.length + size)

/-- Adds an attribute, unless its name is there already. -/
def Attributes.insertNew (attributes : Attributes) (entry : String × String) : Attributes :=
  if (attributes.lookup entry.1).isSome then attributes else attributes ++ [entry]

/-- The attributes written in the text of a tag. -/
def attributes (text : List Char) : Attributes :=
  (findAll attributeAt? text).foldl (fun known found => known.insertNew found.value) []

end AddonAtlas.Markup
