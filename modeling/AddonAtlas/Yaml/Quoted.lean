import AddonAtlas.Yaml.Cursor
import AddonAtlas.Yaml.Fault

/-!
# Quoted scalars

A quoted scalar may run over several lines. A line end inside it stands for a space, and blank lines
stand for line ends. Between single quotes a quote is written twice; between double quotes a
backslash opens an escape.
-/

namespace AddonAtlas.Yaml

/-- What a line end and the blank lines after it stand for. -/
def fold (first : Char) (more : List Char) : List Char :=
  if first != '\n' then first :: more else if more.isEmpty then [' '] else more

/-- The line ends of the blank lines at a cursor, and the cursor behind the margin after them. -/
def blankLines : (fuel : Nat) → Cursor → (done : List Char) → Except Fault (List Char × Cursor)
  | 0, _, _ => .error .malformed
  | fuel + 1, c, done =>
    if atSeparator c.rest then .error .malformed
    else
      let c := (c.run isPad).2
      match c.rest with
      | ch :: _ =>
        if isBreak ch then blankLines fuel c.step (breakChar ch :: done)
        else .ok (done.reverse, c)
      | [] => .ok (done.reverse, c)

/-- The characters that stand for one character after a backslash. -/
def escapes : List (Char × Nat) := [
  ('0', 0x0), ('a', 0x7), ('b', 0x8), ('t', 0x9), ('\t', 0x9), ('n', 0xA), ('v', 0xB), ('f', 0xC),
  ('r', 0xD), ('e', 0x1B), (' ', 0x20), ('"', 0x22), ('\\', 0x5C), ('/', 0x2F), ('N', 0x85),
  ('_', 0xA0), ('L', 0x2028), ('P', 0x2029)]

/-- The number of digits after a letter that opens a numeric escape. -/
def escapeSize? : Char → Option Nat
  | 'x' => some 2
  | 'u' => some 4
  | 'U' => some 8
  | _ => none

/-- The value of a hexadecimal digit. -/
def hexValue? (c : Char) : Option Nat :=
  if c.isDigit then some (c.toNat - '0'.toNat)
  else if 'a' ≤ c ∧ c ≤ 'f' then some (c.toNat - 'a'.toNat + 10)
  else if 'A' ≤ c ∧ c ≤ 'F' then some (c.toNat - 'A'.toNat + 10)
  else none

/-- The value of a row of hexadecimal digits. -/
def hexNumber? (digits : List Char) : Option Nat :=
  digits.foldlM (fun n c => return 16 * n + (← hexValue? c)) 0

/-- The character with a code. Half of a surrogate pair becomes a replacement character. -/
def charOf (code : Nat) : Except Fault Char :=
  if 0x7FFFFFFF < code then .error .codeTooLarge
  else if 0x10FFFF < code then .error .noCharacter
  else if 0xD800 ≤ code && code ≤ 0xDFFF then .ok '\uFFFD'
  else .ok (Char.ofNat code)

/-- What the escape at a cursor stands for, where the backslash has been passed. -/
def escape (c : Cursor) : Except Fault (List Char × Cursor) :=
  match c.rest with
  | [] => .error .malformed
  | ch :: rest =>
    match escapes.lookup ch with
    | some code => .ok ([Char.ofNat code], c.step)
    | none =>
      match escapeSize? ch with
      | some size =>
        let digits := rest.take size
        match hexNumber? digits with
        | some code =>
          if digits.length = size then do return ([← charOf code], c.skip (size + 1))
          else .error .malformed
        | none => .error .malformed
      | none =>
        if isBreak ch then blankLines (rest.length + 1) c.step []
        else .error .malformed

/-- The rest of a quoted scalar, with its text so far, held backwards. -/
def quotedFrom (quote : Char) :
    (fuel : Nat) → Cursor → (done : List Char) → Except Fault (List Char × Cursor)
  | 0, _, _ => .error .malformed
  | fuel + 1, c, done =>
    match c.rest with
    | [] => .error .malformed
    | ch :: rest =>
      if ch == quote then
        if ch == '\'' && rest.head? == some '\'' then
          quotedFrom quote fuel (c.skip 2) ('\'' :: done)
        else .ok (done.reverse, c.step)
      else if isPad ch || isBreak ch then
        let (pads, c) := c.run isPad
        match c.rest with
        | [] => .error .malformed
        | ch :: rest =>
          if isBreak ch then
            match blankLines (rest.length + 1) c.step [] with
            | .ok (more, c) =>
              quotedFrom quote fuel c ((fold (breakChar ch) more).reverse ++ done)
            | .error f => .error f
          else quotedFrom quote fuel c (pads.reverse ++ done)
      else if ch == '\\' && quote == '"' then
        match escape c.step with
        | .ok (text, c) => quotedFrom quote fuel c (text.reverse ++ done)
        | .error f => .error f
      else quotedFrom quote fuel c.step (ch :: done)

/-- The quoted scalar at a cursor that stands before its quote. -/
def quotedScalar (quote : Char) (c : Cursor) : Except Fault (List Char × Cursor) :=
  quotedFrom quote (c.rest.length + 1) c.step []

end AddonAtlas.Yaml
