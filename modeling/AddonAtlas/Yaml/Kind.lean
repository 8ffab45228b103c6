import AddonAtlas.Yaml.Moment

/-!
# Kinds of nodes

The kind of a node is named by its tag. A plain scalar without a tag has the kind that its text
looks like.
-/

namespace AddonAtlas.Yaml

/-- The kinds of nodes. -/
inductive Kind
  | null
  | bool
  | int
  | float
  | binary
  | moment
  | text
  | orderedMap
  | pairs
  | set
  | sequence
  | mapping
  /-- A key whose value is merged into its mapping. -/
  | merge
  /-- A key whose value stands for its mapping. -/
  | standIn
  | unknown
  deriving DecidableEq, Repr

/-- What the tags of the known kinds start with. -/
def tagRoot : String := "tag:yaml.org,2002:"

/-- The names of the known kinds. -/
def kindNames : List (String × Kind) := [
  ("null", .null), ("bool", .bool), ("int", .int), ("float", .float), ("binary", .binary),
  ("timestamp", .moment), ("str", .text), ("omap", .orderedMap), ("pairs", .pairs), ("set", .set),
  ("seq", .sequence), ("map", .mapping), ("merge", .merge), ("value", .standIn)]

/-- The kind with a tag. -/
def Kind.ofTag (tag : String) : Kind :=
  ((kindNames.find? fun (name, _) => tagRoot ++ name == tag).map (·.2)).getD .unknown

/-! ## Plain scalars -/

/-- Drops a sign. -/
def dropSign : List Char → List Char
  | '-' :: rest | '+' :: rest => rest
  | text => text

/-- Is the character a digit or an underscore? -/
def isDigitPart (c : Char) : Bool :=
  c.isDigit || c == '_'

/-- Is the character a digit of a base up to ten, or an underscore? -/
def isDigitBelow (base : Nat) (c : Char) : Bool :=
  c == '_' || (c.isDigit && c.toNat < '0'.toNat + base)

/-- Is the character a hexadecimal digit or an underscore? -/
def isHexPart (c : Char) : Bool :=
  isDigitPart c || ('a' ≤ c && c ≤ 'f') || ('A' ≤ c && c ≤ 'F')

/-- Drops one group `:D` or `:DD` below sixty. -/
def sexagesimal? : List Char → Option (List Char)
  | ':' :: a :: b :: rest =>
    if a.isDigit && b.isDigit then if a ≤ '5' then some rest else none
    else if a.isDigit then some (b :: rest)
    else none
  | [':', a] => if a.isDigit then some [] else none
  | _ => none

/-- Drops the groups `:D` or `:DD` at the head of a text, with at most `fuel` of them. -/
def dropSexagesimals : (fuel : Nat) → List Char → List Char
  | 0, text => text
  | fuel + 1, text =>
    match sexagesimal? text with
    | some rest => dropSexagesimals fuel rest
    | none => text

/-- Does the text look like a whole number? -/
def looksLikeInt (text : List Char) : Bool :=
  match dropSign text with
  | '0' :: 'b' :: digits => !digits.isEmpty && digits.all (isDigitBelow 2)
  | '0' :: 'x' :: digits => !digits.isEmpty && digits.all isHexPart
  | '0' :: digits => digits.all (isDigitBelow 8)
  | c :: rest =>
    c.isDigit && (dropSexagesimals rest.length (rest.dropWhile isDigitPart)).isEmpty
  | [] => false

/-- Is the text an exponent with a sign, or empty? -/
def isExponent : List Char → Bool
  | [] => true
  | e :: sign :: digits =>
    (e == 'e' || e == 'E') && (sign == '-' || sign == '+') && !digits.isEmpty &&
      digits.all Char.isDigit
  | _ => false

/-- Does the text look like a floating-point number with digits before its point? -/
def looksLikePointed (text : List Char) : Bool :=
  match dropSign text with
  | c :: rest =>
    let rest' := rest.dropWhile isDigitPart
    c.isDigit &&
      match rest' with
      | '.' :: part => isExponent (part.dropWhile isDigitPart)
      | rest' =>
        match dropSexagesimals rest'.length rest' with
        | '.' :: part => part.all isDigitPart && rest'.head? == some ':'
        | _ => false
  | [] => false

/-- Does the text look like a floating-point number? -/
def looksLikeFloat (text : List Char) : Bool :=
  looksLikePointed text ||
    (match text with
    | '.' :: c :: rest => c.isDigit && isExponent (rest.dropWhile isDigitPart)
    | _ => false) ||
    [".inf", ".Inf", ".INF"].contains (String.ofList (dropSign text)) ||
    [".nan", ".NaN", ".NAN"].contains (String.ofList text)

/-- The words for truth values, in the three spellings that a plain scalar may have. -/
def boolWords : List String :=
  ["yes", "Yes", "YES", "no", "No", "NO", "true", "True", "TRUE", "false", "False", "FALSE", "on",
    "On", "ON", "off", "Off", "OFF"]

/-- The words for nothing. -/
def nullWords : List String :=
  ["~", "null", "Null", "NULL", ""]

/-- The text without one line end at its end. -/
def dropLastBreak (text : List Char) : List Char :=
  if text.getLast? == some '\n' then text.dropLast else text

/-- The kind that the text of a plain scalar looks like. -/
def Kind.ofText (text : String) : Kind :=
  let body := dropLastBreak text.toList
  let word := String.ofList body
  if text == "\n" then .text
  else if boolWords.contains word then .bool
  else if looksLikeFloat body then .float
  else if looksLikeInt body then .int
  else if word == "<<" then .merge
  else if nullWords.contains word then .null
  else if looksLikeMoment body then .moment
  else if word == "=" then .standIn
  else .text

end AddonAtlas.Yaml
