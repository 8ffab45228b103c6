import AddonAtlas.Document.Value
import AddonAtlas.Number.Reading

/-!
# Reading JSON text

A text is read as one document, with blanks around it. Fields that are given twice keep their first
place and their last value. A fault tells where reading stopped.
-/

namespace AddonAtlas.Document

open Number

/-- Why a text is not read. -/
inductive ReadFault
  /-- The text is malformed at a place; `left` characters stand there and after it. -/
  | malformed (left : Nat)
  /-- A whole number has too many digits. -/
  | numberTooLong
  deriving DecidableEq, Repr

/-- Reading stops at this place. -/
def stopAt {α : Type} (rest : List Char) : Except ReadFault α :=
  .error (.malformed rest.length)

/-- Is the character a blank between the parts of a document? -/
def isGap (c : Char) : Bool :=
  c == ' ' || c == '\t' || c == '\n' || c == '\r'

/-- The text after its blanks. -/
def skipGap (text : List Char) : List Char :=
  text.dropWhile isGap

/-! ## Strings -/

/-- The value of a hexadecimal digit. -/
def hexValue? (c : Char) : Option Nat :=
  if c.isDigit then some (c.toNat - '0'.toNat)
  else if 'a' ≤ c && c ≤ 'f' then some (c.toNat - 'a'.toNat + 10)
  else if 'A' ≤ c && c ≤ 'F' then some (c.toNat - 'A'.toNat + 10)
  else none

/-- The value of four hexadecimal digits. -/
def unitValue? (a b c d : Char) : Option Nat := do
  return (((← hexValue? a) * 16 + (← hexValue? b)) * 16 + (← hexValue? c)) * 16 + (← hexValue? d)

/-- What a character after a backslash stands for. -/
def escaped? (c : Char) : Option Nat :=
  if c == '"' || c == '\\' || c == '/' then some c.toNat
  else if c == 'b' then some 0x8
  else if c == 'f' then some 0xC
  else if c == 'n' then some 0xA
  else if c == 'r' then some 0xD
  else if c == 't' then some 0x9
  else none

/-- The code points and UTF-16 units of a string up to its closing quote; `read` are those before,
last one first, and `start` is the text from its opening quote on. -/
def readUnits (start : List Char) (read : List Nat) :
    List Char → Except ReadFault (List Nat × List Char)
  | [] => stopAt start
  | '"' :: rest => .ok (read.reverse, rest)
  | ['\\'] => stopAt start
  | '\\' :: 'u' :: a :: b :: c :: d :: e :: rest =>
    match unitValue? a b c d with
    | some n => readUnits start (n :: read) (e :: rest)
    | none => stopAt ('u' :: a :: b :: c :: d :: e :: rest)
  | '\\' :: 'u' :: rest => stopAt ('u' :: rest)
  | '\\' :: c :: rest =>
    match escaped? c with
    | some n => readUnits start (n :: read) rest
    | none => stopAt ('\\' :: c :: rest)
  | c :: rest =>
    if c.toNat < 0x20 then stopAt (c :: rest) else readUnits start (c.toNat :: read) rest

/-- The characters of code points and UTF-16 units; a unit without its partner gives a replacement
character. `read` are the characters before, last one first. -/
def joinUnits (read : List Char) : List Nat → List Char
  | [] => read.reverse
  | [n] => (joinOne n :: read).reverse
  | n :: m :: rest =>
    if 0xD800 ≤ n && n < 0xDC00 && 0xDC00 ≤ m && m < 0xE000 then
      joinUnits (Char.ofNat (0x10000 + (n - 0xD800) * 0x400 + (m - 0xDC00)) :: read) rest
    else joinUnits (joinOne n :: read) (m :: rest)
where
  /-- The character of one code point. -/
  joinOne (n : Nat) : Char :=
    if 0xD800 ≤ n && n < 0xE000 then '\uFFFD' else Char.ofNat n

/-- The string whose opening quote stands before `text`. -/
def readString (text : List Char) : Except ReadFault (String × List Char) := do
  let (units, rest) ← readUnits ('"' :: text) [] text
  return (.ofList (joinUnits [] units), rest)

/-! ## Numbers -/

/-- The digits at the start of a text, of which there must be one. -/
def digits? (text : List Char) : Option (List Char × List Char) :=
  match text.span Char.isDigit with
  | ([], _) => none
  | found => some found

/-- A whole part: digits without a zero before others. -/
def wholePart? : List Char → Option (List Char × List Char)
  | '0' :: rest => some (['0'], rest)
  | text => digits? text

/-- A point with digits, or nothing. -/
def fraction : List Char → List Char × List Char
  | '.' :: rest =>
    match digits? rest with
    | some (found, rest) => ('.' :: found, rest)
    | none => ([], '.' :: rest)
  | text => ([], text)

/-- An exponent, or nothing. -/
def exponent (text : List Char) : List Char × List Char :=
  match text with
  | c :: rest =>
    if c == 'e' || c == 'E' then
      let (sign, rest) := match rest with
        | '+' :: rest => (['+'], rest)
        | '-' :: rest => (['-'], rest)
        | rest => ([], rest)
      match digits? rest with
      | some (found, rest) => (c :: sign ++ found, rest)
      | none => ([], text)
    else ([], text)
  | [] => ([], [])

/-- The number at the start of a text, whose sign has been taken off. -/
def readNumber (negative : Bool) (text : List Char) :
    Option (Except ReadFault Value × List Char) := do
  let (whole, rest) ← wholePart? text
  let (part, rest) := fraction rest
  let (power, rest) := exponent rest
  if part.isEmpty && power.isEmpty then
    if digitLimit < whole.length then return (.error .numberTooLong, rest)
    else return (.ok (.int (Binary64.signed negative (natOfDigits whole))), rest)
  else return (.ok (.float (← unsigned? negative (whole ++ part ++ power))), rest)

/-! ## Documents -/

/-- The words that are values. -/
def words : List (List Char × Value) := [
  ("null".toList, .null), ("true".toList, .bool true), ("false".toList, .bool false),
  ("NaN".toList, .float .nan), ("Infinity".toList, .float (.infinity false)),
  ("-Infinity".toList, .float (.infinity true))]

/-- A word or a number at the start of a text. -/
def readSimple (text : List Char) : Except ReadFault (Value × List Char) :=
  match words.find? fun (word, _) => word.isPrefixOf text with
  | some (word, value) => .ok (value, text.drop word.length)
  | none =>
    let number := match text with
      | '-' :: rest => readNumber true rest
      | text => readNumber false text
    match number with
    | some (.ok value, rest) => .ok (value, rest)
    | some (.error fault, _) => .error fault
    | none => stopAt text

mutual

/-- The value at the start of a text. -/
def readValue : (fuel : Nat) → List Char → Except ReadFault (Value × List Char)
  | 0, text => stopAt text
  | fuel + 1, text =>
    match text with
    | '"' :: rest => do
      let (s, rest) ← readString rest
      return (.text s, rest)
    | '[' :: rest =>
      match skipGap rest with
      | ']' :: rest => .ok (.list [], rest)
      | rest => readItems fuel [] rest
    | '{' :: rest =>
      match skipGap rest with
      | '}' :: rest => .ok (.object [], rest)
      | rest => readFields fuel [] rest
    | text => readSimple text

/-- The items of a list up to its end; `read` are those before, last one first. -/
def readItems : (fuel : Nat) → List Value → List Char → Except ReadFault (Value × List Char)
  | 0, _, text => stopAt text
  | fuel + 1, read, text => do
    let (item, rest) ← readValue fuel text
    match skipGap rest with
    | ']' :: rest => return (.list (item :: read).reverse, rest)
    | ',' :: rest => readItems fuel (item :: read) (skipGap rest)
    | rest => stopAt rest

/-- The fields of an object up to its end; `read` are those before. -/
def readFields : (fuel : Nat) → Fields → List Char → Except ReadFault (Value × List Char)
  | 0, _, text => stopAt text
  | fuel + 1, read, text =>
    match text with
    | '"' :: rest => do
      let (name, rest) ← readString rest
      match skipGap rest with
      | ':' :: rest =>
        let (value, rest) ← readValue fuel (skipGap rest)
        let read := read.put name value
        match skipGap rest with
        | '}' :: rest => return (.object read, rest)
        | ',' :: rest => readFields fuel read (skipGap rest)
        | rest => stopAt rest
      | rest => stopAt rest
    | text => stopAt text

end

/-- The document that a text holds. -/
def ofJson (text : List Char) : Except ReadFault Value := do
  let (value, rest) ← readValue (2 * text.length + 2) (skipGap text)
  match skipGap rest with
  | [] => return value
  | rest => stopAt rest

end AddonAtlas.Document
