/-!
# Reading YAML text

A cursor is a place in a YAML text: the text from there on, and where it stands. Lines end at line
feeds, next-line characters and line or paragraph separators; carriage returns have been turned into
line feeds before.
-/

namespace AddonAtlas.Yaml

/-- Does the character end a line? -/
def isBreak (c : Char) : Bool :=
  c == '\n' || c.toNat == 0x85 || c.toNat == 0x2028 || c.toNat == 0x2029

/-- What a line end stands for inside a scalar. -/
def breakChar (c : Char) : Char :=
  if c.toNat == 0x85 then '\n' else c

/-- Is the character a space or a tab? -/
def isPad (c : Char) : Bool :=
  c == ' ' || c == '\t'

/-- Does the text or a line end here? -/
def atLineEnd : List Char → Bool
  | [] => true
  | c :: _ => isBreak c

/-- Does the text, a line or a word end here? Tabs do not count. -/
def atSpace : List Char → Bool
  | [] => true
  | c :: _ => c == ' ' || isBreak c

/-- Does the text, a line or a word end here? -/
def atGap : List Char → Bool
  | [] => true
  | c :: _ => isPad c || isBreak c

/-- Is there a line here that starts or ends a document? -/
def atSeparator : List Char → Bool
  | '-' :: '-' :: '-' :: rest => atGap rest
  | '.' :: '.' :: '.' :: rest => atGap rest
  | _ => false

/-- May the character stand in a YAML text? -/
def isAllowed (c : Char) : Bool :=
  let n := c.toNat
  n == 0x9 || n == 0xA || n == 0xD || (0x20 ≤ n && n ≤ 0x7E) || n == 0x85 ||
    (0xA0 ≤ n && n ≤ 0xFFFD) || 0x10000 ≤ n

/-- May the character stand in the name of an anchor, a directive or a tag handle? -/
def isNamePart (c : Char) : Bool :=
  c.isAlphanum || c == '-' || c == '_'

/-- The mark that may open a text. -/
def byteOrderMark : Char := '\uFEFF'

/-- A place in a text. -/
structure Cursor where
  rest : List Char
  index : Nat := 0
  line : Nat := 0
  column : Nat := 0

namespace Cursor

/-- Passes one character. -/
def step (c : Cursor) : Cursor :=
  match c.rest with
  | [] => c
  | ch :: rest =>
    if isBreak ch then ⟨rest, c.index + 1, c.line + 1, 0⟩
    else ⟨rest, c.index + 1, c.line, if ch == byteOrderMark then c.column else c.column + 1⟩

/-- Passes some characters. -/
def skip : Nat → Cursor → Cursor
  | 0, c => c
  | n + 1, c => skip n c.step

/-- Passes a run of characters and gives it. -/
def run (p : Char → Bool) (c : Cursor) : List Char × Cursor :=
  let taken := c.rest.takeWhile p
  (taken, c.skip taken.length)

/-- Passes spaces. -/
def skipSpaces (c : Cursor) : Cursor :=
  (c.run (· == ' ')).2

/-- Passes spaces and a comment. -/
def skipComment (c : Cursor) : Cursor :=
  let c := c.skipSpaces
  if c.rest.head? == some '#' then (c.run (!isBreak ·)).2 else c

end Cursor

end AddonAtlas.Yaml
