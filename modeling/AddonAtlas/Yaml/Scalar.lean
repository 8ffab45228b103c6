import AddonAtlas.Text.Case
import AddonAtlas.Yaml.Fault
import AddonAtlas.Yaml.Kind
import AddonAtlas.Yaml.Value

/-!
# Values of scalars

What the text of a scalar of a given kind stands for.
-/

namespace AddonAtlas.Yaml

open Number Text

/-! ## Truth values -/

/-- Reads a truth value. -/
def readBool (text : String) : Except Fault Bool :=
  let word := lowerString text
  if ["yes", "true", "on"].contains word then .ok true
  else if ["no", "false", "off"].contains word then .ok false
  else .error (.bool word)

/-! ## Whole numbers -/

/-- The value of a digit of any base. -/
def baseDigit? (base : Nat) (c : Char) : Option Nat := do
  let d ← if c.isDigit then some (c.toNat - '0'.toNat)
    else if 'a' ≤ c.toLower ∧ c.toLower ≤ 'z' then some (c.toLower.toNat - 'a'.toNat + 10)
    else none
  guard (d < base)
  return d

/-- The letter that may follow a zero before the digits of a base. -/
def baseLetter : Nat → Char
  | 2 => 'b'
  | 8 => 'o'
  | _ => 'x'

/-- Reads a whole number in base two, eight or sixteen, which may be written with its letter. -/
def readIntIn (base : Nat) (text : List Char) : Except Fault Int :=
  let (negative, body) := splitSign (normalized text)
  let digits := match body with
    | '0' :: c :: d :: rest => if c.toLower == baseLetter base then d :: rest else body
    | body => body
  match digits.foldlM (fun n c => return base * n + (← baseDigit? base c)) 0 with
  | some n =>
    if digits.isEmpty then .error (.int (.malformed base (.ofList text)))
    else .ok (Binary64.signed negative n)
  | none => .error (.int (.malformed base (.ofList text)))

/-- Reads a whole number in base ten. -/
def readDecimal (text : List Char) : Except Fault Int :=
  (readInt (.ofList text)).mapError .int

/-- The parts of a text between colons. -/
def splitColons (text : List Char) : List (List Char) :=
  text.splitOn ':'

/-- Reads a whole number without its sign and underscores. -/
def readUnsigned (text : List Char) : Except Fault Int :=
  match text with
  | [] => .error .emptyNumber
  | ['0'] => .ok 0
  | '0' :: 'b' :: digits => readIntIn 2 digits
  | '0' :: 'x' :: digits => readIntIn 16 digits
  | '0' :: _ => readIntIn 8 text
  | _ =>
    if text.contains ':' then do
      let places ← (splitColons text).mapM readDecimal
      return places.foldl (fun n d => 60 * n + d) 0
    else readDecimal text

/-- Takes the sign off a number that is not empty. -/
def takeSign : List Char → Except Fault (Bool × List Char)
  | [] => .error .emptyNumber
  | text => .ok (splitSign text)

/-- Reads a whole number. -/
def readIntScalar (text : String) : Except Fault Int := do
  let (negative, body) ← takeSign (text.toList.filter (· != '_'))
  let n ← readUnsigned body
  return if negative then -n else n

/-! ## Floating-point numbers -/

/-- Reads a floating-point number without its sign. -/
def readPart (text : List Char) : Except Fault Binary64 :=
  match readFloat? (.ofList text) with
  | some x => .ok x
  | none => .error (.float (.ofList text))

/-- The sum of places in base sixty, lowest first. -/
def sumPlaces (base : Nat) (sum : Binary64) : List Binary64 → Except Fault Binary64
  | [] => .ok sum
  | x :: rest =>
    if (Binary64.ofInt base).isFinite then
      sumPlaces (60 * base) (sum.add (x.mul (.ofInt base))) rest
    else .error .placeTooLarge

/-- Reads a floating-point number. -/
def readFloatScalar (text : String) : Except Fault Binary64 := do
  let (negative, body) ← takeSign (lower (text.toList.filter (· != '_')))
  let x ← match String.ofList body with
    | ".inf" => pure (.infinity false)
    | ".nan" => pure .nan
    | _ =>
      if body.contains ':' then do
        sumPlaces 1 (.zero false) (← (splitColons body).mapM readPart).reverse
      else readPart body
  return if negative then x.neg else x

/-! ## Bytes -/

/-- The value of a character of base sixty-four. -/
def base64Value? (c : Char) : Option Nat :=
  if c.isUpper then some (c.toNat - 'A'.toNat)
  else if c.isLower then some (c.toNat - 'a'.toNat + 26)
  else if c.isDigit then some (c.toNat - '0'.toNat + 52)
  else if c == '+' then some 62
  else if c == '/' then some 63
  else none

/-- The bytes of a text in base sixty-four. `left` holds the characters of the last group so far,
`pads` the number of equals signs since the last of them, and `done` the bytes, held backwards.
Other characters do not count, and a text must not end within a group. -/
def base64From (left : List Nat) (pads : Nat) (done : List Nat) : List Char → Option (List Nat)
  | [] => if left.isEmpty then some done.reverse else none
  | c :: rest =>
    if c == '=' then
      if left.length < 2 then base64From left pads done rest
      else if 4 ≤ left.length + pads + 1 then some done.reverse
      else base64From left (pads + 1) done rest
    else
      match base64Value? c, left with
      | none, _ => base64From left pads done rest
      | some v, [] => base64From [v] 0 done rest
      | some v, [a] => base64From [v, a] 0 ((a * 4 + v / 16) % 256 :: done) rest
      | some v, [b, a] => base64From [v, b, a] 0 ((b * 16 + v / 4) % 256 :: done) rest
      | some v, b :: _ => base64From [] 0 ((b * 64 + v) % 256 :: done) rest

/-- Reads bytes. -/
def readBytes (text : String) : Except Fault (List Nat) :=
  if text.toList.all (·.toNat < 128) then
    match base64From [] 0 [] text.toList with
    | some bytes => .ok bytes
    | none => .error .malformed
  else .error .malformed

/-! ## Moments -/

/-- Reads a moment. -/
def readMoment (text : String) : Except Fault Moment :=
  match Moment.read? (dropLastBreak text.toList) with
  | none => .error .unreadableMoment
  | some m => do
    m.check.mapError .moment
    return m

/-- The value of a scalar of a kind; collections and unknown kinds have none. -/
def Scalar.read (kind : Kind) (text : String) : Except Fault Scalar :=
  match kind with
  | .null => .ok .null
  | .bool => .bool <$> readBool text
  | .int => .int <$> readIntScalar text
  | .float => .float <$> readFloatScalar text
  | .binary => .bytes <$> readBytes text
  | .moment => .moment <$> readMoment text
  | .text => .ok (.text text)
  | _ => .error .malformed

end AddonAtlas.Yaml
