import AddonAtlas.Number.Shortest
import AddonAtlas.Text.Blank
import AddonAtlas.Text.Digit
import AddonAtlas.Text.Quoted

/-!
# Reading numbers

How a text is read as a whole number or as a floating-point number. Blanks around the number do not
count, digits of every script do, and an underscore may stand between two digits.
-/

namespace AddonAtlas.Number

open Text

/-- Is the character a blank that may surround a number? -/
def isMargin (c : Char) : Bool :=
  isBlank c && !(0x1C ≤ c.toNat && c.toNat ≤ 0x1F)

/-- A digit of any script as the plain one. -/
def plainDigit (c : Char) : Char :=
  match digitValue? c with
  | some d => Nat.digitChar d
  | none => c

/-- The text of a number without its margins and with plain digits. -/
def normalized (text : List Char) : List Char :=
  (trimBoth isMargin text).map plainDigit

/-- The text without its underscores, provided that each stands between two digits. `before` is the
character before the text. -/
def joinDigits? (before : Option Char) : List Char → Option (List Char)
  | [] => some []
  | '_' :: rest =>
    if before.any Char.isDigit && rest.head?.any Char.isDigit then joinDigits? (some '_') rest
    else none
  | c :: rest => (joinDigits? (some c) rest).map (c :: ·)

/-- Takes the sign off: is the number negative, and what is left? -/
def splitSign : List Char → Bool × List Char
  | '-' :: rest => (true, rest)
  | '+' :: rest => (false, rest)
  | text => (false, text)

/-- The value of a row of digits. -/
def natOfDigits (digits : List Char) : Nat :=
  digits.foldl (fun n c => 10 * n + (c.toNat - '0'.toNat)) 0

/-- Why a text is not read as a whole number. -/
inductive IntFault
  /-- The text is no number in this base. -/
  | malformed (base : Nat) (text : String)
  /-- The number has too many digits. -/
  | tooLong (digits : Nat)
  deriving DecidableEq, Repr

/-- The most digits of a whole number that is read from or written to decimal text. -/
def digitLimit : Nat := 4300

/-- What is said of the limit on digits. -/
def digitLimitText : String :=
  "Exceeds the limit (4300 digits) for integer string conversion"

/-- What is said about how to lift it. -/
def digitLimitAdvice : String :=
  "; use sys.set_int_max_str_digits() to increase the limit"

/-- The wording of a fault. -/
def IntFault.message : IntFault → String
  | .malformed base text =>
    "invalid literal for int() with base " ++ intText base ++ ": " ++ quoted text
  | .tooLong digits =>
    digitLimitText ++ ": value has " ++ intText digits ++ " digits" ++ digitLimitAdvice

/-- Reads a whole number in decimal digits. -/
def readInt (text : String) : Except IntFault Int :=
  let (negative, body) := splitSign (normalized text.toList)
  match joinDigits? none body with
  | none => .error (.malformed 10 text)
  | some digits =>
    if digits.isEmpty || !digits.all Char.isDigit then .error (.malformed 10 text)
    else if digitLimit < digits.length then .error (.tooLong digits.length)
    else .ok (Binary64.signed negative (natOfDigits digits))

/-- Reads an exponent, sign and digits. -/
def exponent? (text : List Char) : Option Int :=
  let (negative, digits) := splitSign text
  if digits.isEmpty || !digits.all Char.isDigit then none
  else some (Binary64.signed negative (natOfDigits digits))

/-- Reads a number without its sign: digits with at most one point, and an exponent. -/
def unsigned? (negative : Bool) (text : List Char) : Option Binary64 := do
  let (whole, rest) := text.span Char.isDigit
  let (part, rest) := match rest with
    | '.' :: rest => rest.span Char.isDigit
    | rest => ([], rest)
  guard (!(whole.isEmpty && part.isEmpty))
  let power ← match rest with
    | [] => some 0
    | c :: rest => if c == 'e' || c == 'E' then exponent? rest else none
  let digits := (whole ++ part).dropWhile (· == '0')
  return .ofDecimal negative (natOfDigits digits) digits.length (power - part.length)

/-- Reads a floating-point number, `inf`, `infinity` or `nan` with a sign. -/
def readFloat? (text : String) : Option Binary64 := do
  let body ← joinDigits? none (normalized text.toList)
  let (negative, body) := splitSign body
  let word := String.ofList (body.map Char.toLower)
  if word == "inf" || word == "infinity" then return .infinity negative
  else if word == "nan" then return .nan
  else unsigned? negative body

end AddonAtlas.Number
