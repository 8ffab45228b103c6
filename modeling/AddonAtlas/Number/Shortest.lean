import AddonAtlas.Number.Binary64

/-!
# The shortest decimal of a number

`Binary64.shortest` finds, among the decimals that read back as a given number, one with the fewest
digits, and of those the nearest. `Binary64.text` lays it out: in place when the first digit stands
between the fourth place after the point and the sixteenth before it, and with an exponent
otherwise.
-/

namespace AddonAtlas.Number

/-- The decimal digits `digits`, the first of which stands at `10 ^ exponent`. -/
structure Decimal where
  digits : List Char
  exponent : Int
  deriving DecidableEq, Repr

namespace Binary64

/-- The whole numbers next to `num / den`, the nearer one first, and of two as near the even one. -/
def neighbours (num den : Nat) : List Nat :=
  let q := num / den
  if roundDiv num den = q then [q, q + 1] else [q + 1, q]

/-- The decimal of `n * 10 ^ k`. -/
def decimalOf (n : Nat) (k : Int) : Decimal :=
  let digits := Nat.toDigits 10 n
  let kept := (digits.reverse.dropWhile (· == '0')).reverse
  ⟨kept, k + digits.length - 1⟩

/-- Does `n * 10 ^ k` round to the positive number `m * 2 ^ e`? The numbers that do lie around it,
up to halfway to its neighbours; the ends belong to the even mantissa. -/
def readsBack (m : Nat) (e : Int) (n : Nat) (k : Int) : Bool :=
  -- All quantities are taken in quarters of the last binary place.
  let point := 4 * n * pow10 k.toNat * pow2 (-e).toNat
  let unit := pow10 (-k).toNat * pow2 e.toNat
  let low := (4 * m - (if m = pow2 52 ∧ leastExponent < e then 1 else 2)) * unit
  let high := (4 * m + 2) * unit
  if m % 2 = 0 then low ≤ point && point ≤ high else low < point && point < high

/-- The first decimal that reads back, on grids of growing fineness: `10 ^ k`, `10 ^ (k - 1)` and so
on for `grids` steps. -/
def shortestFrom (m : Nat) (e : Int) : (grids : Nat) → (k : Int) → Decimal
  | 0, k => decimalOf (roundDiv (m * pow2 e.toNat * pow10 (-k).toNat)
      (pow2 (-e).toNat * pow10 k.toNat)) k
  | grids + 1, k =>
    let near := neighbours (m * pow2 e.toNat * pow10 (-k).toNat) (pow2 (-e).toNat * pow10 k.toNat)
    match near.find? fun n => readsBack m e n k with
    | some n => decimalOf n k
    | none => shortestFrom m e grids (k - 1)

/-- The decimal place of the first digit of `m * 2 ^ e`, or the one above it. -/
def topPlace (m : Nat) (e : Int) : Int :=
  -- 1233 / 4096 is just above the logarithm of two.
  ((m.log2 : Int) + 1 + e) * 1233 / 4096 + 1

/-- A shortest decimal that reads back as the positive number `m * 2 ^ e`. -/
def shortest (m : Nat) (e : Int) : Decimal :=
  shortestFrom m e 20 (topPlace m e)

end Binary64

/-- The text of a whole number. -/
def intText (n : Int) : String :=
  if n < 0 then .ofList ('-' :: Nat.toDigits 10 n.natAbs) else .ofList (Nat.toDigits 10 n.natAbs)

/-- How the text of a number is laid out. -/
structure Layout where
  /-- The least exponent written in place. -/
  least : Int
  /-- The first exponent no longer written in place. -/
  limit : Int
  /-- The least number of digits of an exponent. -/
  exponentWidth : Nat
  nan : String
  infinity : String

/-- The usual layout: `0.0001` and `1e-05`, `1000000000000000.0` and `1e+16`. -/
def Layout.plain : Layout where
  least := -4
  limit := 16
  exponentWidth := 2
  nan := "nan"
  infinity := "inf"

namespace Decimal

/-- The digits around a point, with at least one digit on each side. -/
def inPlace (d : Decimal) : List Char :=
  if d.exponent < 0 then
    '0' :: '.' :: List.replicate ((-d.exponent).toNat - 1) '0' ++ d.digits
  else
    let whole := d.exponent.toNat + 1
    let digits := d.digits ++ List.replicate (whole + 1 - d.digits.length) '0'
    digits.take whole ++ '.' :: digits.drop whole

/-- The digits with a point after the first one, and an exponent. -/
def scientific (width : Nat) (d : Decimal) : List Char :=
  let head := match d.digits with
    | [] => []
    | [c] => [c]
    | c :: rest => c :: '.' :: rest
  let power := Nat.toDigits 10 d.exponent.natAbs
  head ++ 'e' :: (if d.exponent < 0 then '-' else '+') ::
    List.replicate (width - power.length) '0' ++ power

end Decimal

/-- The text of a number in a layout. -/
def Binary64.textIn (layout : Layout) : Binary64 → String
  | .nan => layout.nan
  | .infinity s => if s then "-" ++ layout.infinity else layout.infinity
  | .finite s m e =>
    let d : Decimal := if m = 0 then ⟨['0'], 0⟩ else Binary64.shortest m e
    let body :=
      if layout.least ≤ d.exponent && d.exponent < layout.limit then d.inPlace
      else d.scientific layout.exponentWidth
    .ofList (if s then '-' :: body else body)

/-- The text of a number. -/
def Binary64.text (x : Binary64) : String :=
  x.textIn .plain

end AddonAtlas.Number
