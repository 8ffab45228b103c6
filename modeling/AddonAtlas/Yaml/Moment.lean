import AddonAtlas.Number.Shortest
import AddonAtlas.Number.Reading

/-!
# Dates and times

A moment is written as a date, or as a date and a time with an optional zone. `Moment.check` tells
whether such a date or time exists.
-/

namespace AddonAtlas.Yaml

open Number

/-- A time of day with its zone, in minutes, if one is given. -/
structure Clock where
  hour : Nat
  minute : Nat
  second : Nat
  zone : Option Int := none
  deriving DecidableEq, Repr

/-- A date as it is written, with a time of day or without. -/
structure Moment where
  year : Nat
  month : Nat
  day : Nat
  clock : Option Clock := none
  deriving DecidableEq, Repr

/-- What is wrong with a moment. -/
inductive MomentFault
  | year (n : Nat)
  | month
  | day
  | hour
  | minute
  | second
  /-- A zone is a day or more away, here in minutes. -/
  | zone (minutes : Int)
  deriving DecidableEq, Repr

/-- A span of minutes in days and seconds. -/
def spanText (minutes : Int) : String :=
  let days := minutes / 1440
  let seconds := minutes % 1440 * 60
  "datetime.timedelta(days=" ++ intText days ++
    (if seconds = 0 then "" else ", seconds=" ++ intText seconds) ++ ")"

/-- The wording of a fault. -/
def MomentFault.message : MomentFault → String
  | .year n => "year " ++ intText n ++ " is out of range"
  | .month => "month must be in 1..12"
  | .day => "day is out of range for month"
  | .hour => "hour must be in 0..23"
  | .minute => "minute must be in 0..59"
  | .second => "second must be in 0..59"
  | .zone minutes => "offset must be a timedelta strictly between -timedelta(hours=24) and " ++
      "timedelta(hours=24), not " ++ spanText minutes ++ "."

/-- Does the year have a leap day? -/
def isLeap (year : Nat) : Bool :=
  year % 4 == 0 && (year % 100 != 0 || year % 400 == 0)

/-- The number of days of a month. -/
def daysOf (year month : Nat) : Nat :=
  if month == 2 then (if isLeap year then 29 else 28)
  else if [4, 6, 9, 11].contains month then 30 else 31

/-- Refuses a moment that does not exist; the zone is looked at first, then from left to right. -/
def Moment.check (m : Moment) : Except MomentFault Unit := do
  if let some zone := m.clock.bind (·.zone) then
    if 1440 ≤ zone.natAbs then throw (.zone zone)
  if m.year == 0 then throw (.year 0)
  if m.month == 0 || 12 < m.month then throw .month
  if m.day == 0 || daysOf m.year m.month < m.day then throw .day
  if let some clock := m.clock then
    if 23 < clock.hour then throw .hour
    if 59 < clock.minute then throw .minute
    if 59 < clock.second then throw .second

/-! ## Reading -/

/-- A number of exactly `least` digits, or of one more if `more` is set. -/
def digits? (least : Nat) (more : Bool) (text : List Char) : Option (Nat × List Char) :=
  let run := (text.take (if more then least + 1 else least)).takeWhile Char.isDigit
  if run.length < least then none else some (natOfDigits run, text.drop run.length)

/-- The text after a character. -/
def char? (c : Char) : List Char → Option (List Char)
  | [] => none
  | d :: rest => if d == c then some rest else none

/-- A zone, in minutes, up to the end of the text. -/
def zone? : List Char → Option Int
  | ['Z'] => some 0
  | sign :: rest => do
    guard (sign == '-' || sign == '+')
    let (hours, rest) ← digits? 1 true rest
    let minutes ← match rest with
      | [] => some 0
      | rest => do
        let (minutes, rest) ← digits? 2 false (← char? ':' rest)
        guard rest.isEmpty
        return minutes
    return Binary64.signed (sign == '-') (60 * hours + minutes)
  | [] => none

/-- A time of day with an optional zone, up to the end of the text. -/
def clock? (text : List Char) : Option Clock := do
  let (hour, rest) ← digits? 1 true text
  let (minute, rest) ← digits? 2 false (← char? ':' rest)
  let (second, rest) ← digits? 2 false (← char? ':' rest)
  let rest := match rest with
    | '.' :: rest => rest.dropWhile Char.isDigit
    | rest => rest
  if rest.isEmpty then return ⟨hour, minute, second, none⟩
  let zone ← zone? (rest.dropWhile fun c => c == ' ' || c == '\t')
  return ⟨hour, minute, second, some zone⟩

/-- The text of a time after what divides it from the date. -/
def clockText? : List Char → Option (List Char)
  | 'T' :: rest | 't' :: rest => some rest
  | c :: rest =>
    if c == ' ' || c == '\t' then some (rest.dropWhile fun c => c == ' ' || c == '\t') else none
  | [] => none

/-- Reads a moment. -/
def Moment.read? (text : List Char) : Option Moment := do
  let (year, rest) ← digits? 4 false text
  let (month, rest) ← digits? 1 true (← char? '-' rest)
  let (day, rest) ← digits? 1 true (← char? '-' rest)
  if rest.isEmpty then return ⟨year, month, day, none⟩
  return ⟨year, month, day, some (← clock? (← clockText? rest))⟩

/-- Does a bare text read as a moment? A date on its own has two digits for month and day. -/
def looksLikeMoment (text : List Char) : Bool :=
  match Moment.read? text with
  | some m => m.clock.isSome || text.length == 10
  | none => false

end AddonAtlas.Yaml
