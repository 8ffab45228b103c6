import AddonAtlas.Number.Shortest
import AddonAtlas.Text.Quoted

/-!
# Bytes as text

Text is stored in UTF-8. Bytes that do not encode a character are cut into the longest pieces that
could have started one; `decodeLossy` puts a replacement character for each piece, and `decode`
refuses the text at the first one. Line ends of all kinds become line feeds.
-/

namespace AddonAtlas.Text

/-- Why bytes do not encode a character. -/
inductive Utf8Reason
  | start
  | continuation
  | ending
  deriving DecidableEq, Repr

/-- Bytes that do not encode a character: where they start, the first one, and their number. -/
structure Utf8Fault where
  position : Nat
  first : Nat
  size : Nat
  reason : Utf8Reason
  deriving DecidableEq, Repr

/-- The wording of a reason. -/
def Utf8Reason.text : Utf8Reason → String
  | .start => "invalid start byte"
  | .continuation => "invalid continuation byte"
  | .ending => "unexpected end of data"

/-- The wording of a fault. -/
def Utf8Fault.message (f : Utf8Fault) : String :=
  "'utf-8' codec can't decode " ++
    (if f.size = 1 then
      "byte 0x" ++ .ofList (hexDigits 2 f.first) ++ " in position " ++ toString f.position
    else
      "bytes in position " ++ toString f.position ++ "-" ++ toString (f.position + f.size - 1)) ++
    ": " ++ f.reason.text

/-- A started character: the value of its bits so far, the number of bytes that are missing, the
range of the next one, the first byte and the number of bytes so far. -/
structure Started where
  value : Nat
  missing : Nat
  low : Nat := 0x80
  high : Nat := 0xBF
  first : Nat
  size : Nat := 1

/-- The character that a byte starts, unless the byte is one on its own or starts none. -/
def started? (b : Nat) : Option Started :=
  if 0xC2 ≤ b && b ≤ 0xDF then some { value := b - 0xC0, missing := 1, first := b }
  else if b = 0xE0 then some { value := 0, missing := 2, low := 0xA0, first := b }
  else if b = 0xED then some { value := 0xD, missing := 2, high := 0x9F, first := b }
  else if 0xE1 ≤ b && b ≤ 0xEF then some { value := b - 0xE0, missing := 2, first := b }
  else if b = 0xF0 then some { value := 0, missing := 3, low := 0x90, first := b }
  else if 0xF1 ≤ b && b ≤ 0xF3 then some { value := b - 0xF0, missing := 3, first := b }
  else if b = 0xF4 then some { value := 4, missing := 3, high := 0x8F, first := b }
  else none

/-- A piece of a text: a character, or bytes that encode none. -/
abbrev Piece := Except Utf8Fault Char

/-- What a byte that starts something gives: a started character, or a whole piece. -/
def startByte (position b : Nat) : Option Started × List Piece :=
  if b < 0x80 then (none, [.ok (Char.ofNat b)])
  else
    match started? b with
    | some s => (some s, [])
    | none => (none, [.error ⟨position, b, 1, .start⟩])

/-- The fault of a started character that does not go on. -/
def Started.fault (s : Started) (position : Nat) (reason : Utf8Reason) : Utf8Fault :=
  ⟨position - s.size, s.first, s.size, reason⟩

/-- What one more byte gives: a started character or none, and whole pieces, held backwards. -/
def nextByte (pending : Option Started) (position b : Nat) : Option Started × List Piece :=
  match pending with
  | none => startByte position b
  | some s =>
    if s.low ≤ b && b ≤ s.high then
      let value := 64 * s.value + (b - 0x80)
      if s.missing ≤ 1 then (none, [.ok (Char.ofNat value)])
      else (some { value, missing := s.missing - 1, first := s.first, size := s.size + 1 }, [])
    else
      let (pending, pieces) := startByte position b
      (pending, pieces ++ [.error (s.fault position .continuation)])

/-- The pieces of a text from a position on; `done` are the pieces so far, held backwards. -/
def piecesFrom (pending : Option Started) (position : Nat) (done : List Piece) :
    List UInt8 → List Piece
  | [] =>
    match pending with
    | some s => (Except.error (s.fault position .ending) :: done).reverse
    | none => done.reverse
  | b :: rest =>
    let (pending, pieces) := nextByte pending position b.toNat
    piecesFrom pending (position + 1) (pieces ++ done) rest

/-- The pieces of a text. -/
def pieces (bytes : List UInt8) : List Piece :=
  piecesFrom none 0 [] bytes

/-- What stands for bytes that encode no character. -/
def replacement : Char := '\uFFFD'

/-- The text of some bytes, with a replacement character for what encodes none. -/
def decodeLossy (bytes : List UInt8) : List Char :=
  (pieces bytes).map fun piece =>
    match piece with
    | .ok c => c
    | .error _ => replacement

/-- The text of some bytes, if all of them encode characters. -/
def decode (bytes : List UInt8) : Except Utf8Fault (List Char) :=
  (pieces bytes).mapM id

/-- `unifyLineEnds` with the text so far, held backwards. -/
def unifyFrom (done : List Char) : List Char → List Char
  | [] => done.reverse
  | '\r' :: '\n' :: rest => unifyFrom ('\n' :: done) rest
  | c :: rest => unifyFrom ((if c == '\r' then '\n' else c) :: done) rest

/-- The text with a line feed for every carriage return, with the line feed after it or without. -/
def unifyLineEnds (text : List Char) : List Char :=
  unifyFrom [] text

end AddonAtlas.Text
