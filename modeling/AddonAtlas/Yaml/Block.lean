import AddonAtlas.Yaml.Cursor
import AddonAtlas.Yaml.Fault

/-!
# Block scalars

A block scalar is a run of indented lines, taken as they stand or folded into paragraphs. Its header
says which, how far it is indented and what becomes of the line ends at its end.
-/

namespace AddonAtlas.Yaml

/-- What becomes of the line ends at the end of a block scalar. -/
inductive Chomping
  | clip
  | strip
  | keep
  deriving DecidableEq, Repr

/-- The indicators of a header. -/
structure BlockHeader where
  chomping : Chomping := .clip
  increment : Option Nat := none
  deriving DecidableEq, Repr

/-- The chomping that a character stands for. -/
def chomping? : Char → Option Chomping
  | '+' => some .keep
  | '-' => some .strip
  | _ => none

/-- The indentation that a digit stands for, which is not zero. -/
def increment? (c : Char) : Except Fault (Option Nat) :=
  if c == '0' then .error .malformed
  else if c.isDigit then .ok (some (c.toNat - '0'.toNat))
  else .ok none

/-- The indicators at the head of a text, in either order, and how many there are. -/
def blockIndicators (text : List Char) : Except Fault (BlockHeader × Nat) :=
  match text with
  | [] => .ok ({}, 0)
  | c :: rest => do
    match chomping? c with
    | some chomping =>
      match rest with
      | [] => return ({ chomping }, 1)
      | d :: _ =>
        match ← increment? d with
        | some n => return ({ chomping, increment := some n }, 2)
        | none => return ({ chomping }, 1)
    | none =>
      match ← increment? c with
      | none => return ({}, 0)
      | some n =>
        match rest.head?.bind chomping? with
        | some chomping => return ({ chomping, increment := some n }, 2)
        | none => return ({ increment := some n }, 1)

/-- Passes the header and its line. -/
def blockHeader (c : Cursor) : Except Fault (BlockHeader × Cursor) := do
  let (header, size) ← blockIndicators c.rest
  let c := c.skip size
  unless atSpace c.rest do throw .malformed
  let c := c.skipComment
  unless atLineEnd c.rest do throw .malformed
  return (header, c.step)

/-- The line ends of the blank lines at a cursor, the largest margin among them, and the cursor
behind them. -/
def blockMargin : (fuel : Nat) → Cursor → (done : List Char) → (widest : Nat) →
    List Char × Nat × Cursor
  | 0, c, done, widest => (done.reverse, widest, c)
  | fuel + 1, c, done, widest =>
    let c := c.skipSpaces
    let widest := max widest c.column
    match c.rest with
    | ch :: _ =>
      if isBreak ch then blockMargin fuel c.step (breakChar ch :: done) widest
      else (done.reverse, widest, c)
    | [] => (done.reverse, widest, c)

/-- Passes spaces up to a column. -/
def skipMargin (indent : Nat) (c : Cursor) : Cursor :=
  c.skip ((c.rest.take (indent - c.column)).takeWhile (· == ' ')).length

/-- The line ends of the blank lines at a cursor, and the cursor behind the margin after them. -/
def blockBreaks (indent : Nat) : (fuel : Nat) → Cursor → (done : List Char) → List Char × Cursor
  | 0, c, done => (done.reverse, c)
  | fuel + 1, c, done =>
    let c := skipMargin indent c
    match c.rest with
    | ch :: _ =>
      if isBreak ch then blockBreaks indent fuel c.step (breakChar ch :: done)
      else (done.reverse, c)
    | [] => (done.reverse, c)

/-- What the end of a block scalar adds to it. -/
def Chomping.tail (chomping : Chomping) (lineBreak breaks : List Char) : List Char :=
  match chomping with
  | .clip => lineBreak
  | .strip => []
  | .keep => lineBreak ++ breaks

/-- Does a line of the scalar start here? -/
def atBlockLine (indent : Nat) (c : Cursor) : Bool :=
  c.column == indent && !c.rest.isEmpty

/-- The lines of a block scalar from a cursor on. `breaks` are the line ends passed since the last
line, and `done` is the text so far, held backwards. -/
def blockLines (folded : Bool) (chomping : Chomping) (indent : Nat) :
    (fuel : Nat) → Cursor → (breaks done : List Char) → List Char × Cursor
  | 0, c, _, done => (done.reverse, c)
  | fuel + 1, c, breaks, done =>
    let flush := !c.rest.head?.any isPad
    let (line, c) := c.run (!isBreak ·)
    let done := line.reverse ++ (breaks.reverse ++ done)
    let lineBreak := c.rest.head?.toList.map breakChar
    let (breaks, c) := blockBreaks indent (c.rest.length + 1) c.step []
    if atBlockLine indent c then
      if folded && lineBreak == ['\n'] && flush && !c.rest.head?.any isPad then
        blockLines folded chomping indent fuel c breaks
          (if breaks.isEmpty then ' ' :: done else done)
      else blockLines folded chomping indent fuel c breaks (lineBreak ++ done)
    else (done.reverse ++ chomping.tail lineBreak breaks, c)

/-- The block scalar at a cursor that stands before its indicator, where `indent` is the indentation
of what encloses it. -/
def blockScalar (folded : Bool) (indent : Int) (c : Cursor) :
    Except Fault (List Char × Cursor) := do
  let (header, c) ← blockHeader c.step
  let least := max 1 (indent + 1).toNat
  let fuel := c.rest.length + 1
  let (breaks, indent, c) := match header.increment with
    | none =>
      let (breaks, widest, c) := blockMargin fuel c [] 0
      (breaks, max least widest, c)
    | some n =>
      let indent := least + n - 1
      let (breaks, c) := blockBreaks indent fuel c []
      (breaks, indent, c)
  if atBlockLine indent c then
    return blockLines folded header.chomping indent fuel c breaks []
  else return (header.chomping.tail [] breaks, c)

end AddonAtlas.Yaml
