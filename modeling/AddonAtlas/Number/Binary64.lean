/-!
# Binary numbers with 53 significant bits

`Binary64` is the usual double-precision number, kept as an exact mantissa and exponent. Every
operation computes its exact result and rounds it once to the nearest number, a tie to the even
mantissa, so `ofRatio` is the one place where precision is lost.
-/

namespace AddonAtlas.Number

/-- A power of two. -/
def pow2 (n : Nat) : Nat :=
  Nat.pow 2 n

/-- A power of ten. -/
def pow10 (n : Nat) : Nat :=
  Nat.pow 10 n

/-- The quotient rounded to the nearest whole number, a half to the even one. -/
def roundDiv (num den : Nat) : Nat :=
  let q := num / den
  let r := num % den
  if 2 * r < den then q else if den < 2 * r then q + 1 else q + q % 2

/-- A double-precision number. The value of `finite negative m e` is `m * 2 ^ e` with its sign; it
has `m < 2 ^ 53` and `-1074 ≤ e`, and `e = -1074` unless `2 ^ 52 ≤ m`. -/
inductive Binary64
  | nan
  | infinity (negative : Bool)
  | finite (negative : Bool) (mantissa : Nat) (exponent : Int)
  deriving DecidableEq, Repr

namespace Binary64

/-- The exponent of the smallest numbers. -/
def leastExponent : Int := -1074

/-- The exponent of the largest numbers. -/
def greatestExponent : Int := 971

/-- Zero with a sign. -/
def zero (negative : Bool) : Binary64 :=
  .finite negative 0 leastExponent

/-- The largest `k` with `2 ^ k * den ≤ num`, where neither is zero. -/
def ratioLog2 (num den : Nat) : Int :=
  let k : Int := (num.log2 : Int) - (den.log2 : Int)
  if den * pow2 k.toNat ≤ num * pow2 (-k).toNat then k else k - 1

/-- The number nearest to `num / den` with a sign, a tie to the even mantissa. What is too large
becomes infinite. -/
def ofRatio (negative : Bool) (num den : Nat) : Binary64 :=
  if num = 0 then zero negative
  else
    let e := max leastExponent (ratioLog2 num den - 52)
    let m := roundDiv (num * pow2 (-e).toNat) (den * pow2 e.toNat)
    let (m, e) := if m = pow2 53 then (pow2 52, e + 1) else (m, e)
    if greatestExponent < e then .infinity negative else .finite negative m e

/-- The number nearest to `digits * 10 ^ exponent` with a sign. `size` is the number of digits; a
value beyond the range is settled by it without computing the power. -/
def ofDecimal (negative : Bool) (digits size : Nat) (exponent : Int) : Binary64 :=
  if digits = 0 then zero negative
  else if 400 < exponent + size then .infinity negative
  else if exponent + size < -400 then zero negative
  else ofRatio negative (digits * pow10 exponent.toNat) (pow10 (-exponent).toNat)

/-- The number nearest to a whole number. -/
def ofInt (n : Int) : Binary64 :=
  ofRatio (n < 0) n.natAbs 1

/-- Is it a number with a finite value? -/
def isFinite : Binary64 → Bool
  | .finite .. => true
  | _ => false

/-- The mantissa with its sign. -/
def signed (negative : Bool) (mantissa : Nat) : Int :=
  if negative then -(mantissa : Int) else mantissa

/-- The number of the exact value `n * 2 ^ e`, where `n` is not zero. -/
def ofScaled (n e : Int) : Binary64 :=
  ofRatio (n < 0) (n.natAbs * pow2 e.toNat) (pow2 (-e).toNat)

/-- The sum. Opposite infinities have none, and a zero sum is negative only if both parts are. -/
def add : Binary64 → Binary64 → Binary64
  | .nan, _ | _, .nan => .nan
  | .infinity s, .infinity t => if s = t then .infinity s else .nan
  | .infinity s, _ | _, .infinity s => .infinity s
  | .finite s m e, .finite t n f =>
    let g := min e f
    let total := signed s (m * pow2 (e - g).toNat) + signed t (n * pow2 (f - g).toNat)
    if total = 0 then zero (s && t) else ofScaled total g

/-- The product. -/
def mul : Binary64 → Binary64 → Binary64
  | .nan, _ | _, .nan => .nan
  | .infinity s, .infinity t => .infinity (s != t)
  | .infinity s, .finite t m _ | .finite t m _, .infinity s =>
    if m = 0 then .nan else .infinity (s != t)
  | .finite s m e, .finite t n f =>
    if m * n = 0 then zero (s != t) else ofScaled (signed (s != t) (m * n)) (e + f)

/-- The quotient by a number that is not zero. -/
def div : Binary64 → Binary64 → Binary64
  | .nan, _ | _, .nan => .nan
  | .infinity _, .infinity _ => .nan
  | .infinity s, .finite t _ _ => .infinity (s != t)
  | .finite s _ _, .infinity t => zero (s != t)
  | .finite s m e, .finite t n f =>
    let k := e - f
    ofRatio (s != t) (m * pow2 k.toNat) (n * pow2 (-k).toNat)

/-- The number with the other sign. -/
def neg : Binary64 → Binary64
  | .nan => .nan
  | .infinity s => .infinity !s
  | .finite s m e => .finite (!s) m e

/-- Is it a zero of either sign? -/
def isZero : Binary64 → Bool
  | .finite _ 0 _ => true
  | _ => false

/-- Is the first less than the second? Never so if one of them is not a number. -/
def lt : Binary64 → Binary64 → Bool
  | .nan, _ | _, .nan => false
  | .infinity s, .infinity t => s && !t
  | .infinity s, .finite .. => s
  | .finite .., .infinity t => !t
  | .finite s m e, .finite t n f =>
    let g := min e f
    signed s (m * pow2 (e - g).toNat) < signed t (n * pow2 (f - g).toNat)

/-- Is a whole number less than the number? -/
def intLt (n : Int) (x : Binary64) : Bool :=
  match x with
  | .nan => false
  | .infinity s => !s
  | .finite s m e => n * pow2 (-e).toNat < signed s (m * pow2 e.toNat)

/-- The number nearest to the value rounded to `places` decimal places, a half to the even digit.
The sign stays, also before a zero. -/
def roundPlaces (places : Nat) : Binary64 → Binary64
  | .finite s m e =>
    let scaled := roundDiv (m * pow2 e.toNat * pow10 places) (pow2 (-e).toNat)
    ofRatio s scaled (pow10 places)
  | x => x

end Binary64

end AddonAtlas.Number
