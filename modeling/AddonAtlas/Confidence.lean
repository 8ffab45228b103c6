import AddonAtlas.Chart
import AddonAtlas.Number.Binary64

/-!
# Confidence

The confidence score tells how much was found, not how right it is. Every signal adds its count
divided by a scale, up to a cap, to a baseline; the total is kept between a floor and a ceiling and
rounded to two places.
-/

namespace AddonAtlas.Confidence

open Number

/-- The bounds of the score. -/
structure Bounds where
  baseline : Binary64 := .ofRatio false 55 100
  floor : Binary64 := .ofRatio false 55 100
  ceiling : Binary64 := .ofRatio false 97 100
  deriving DecidableEq, Repr

/-- A whole or a floating-point number. -/
inductive Quantity
  | whole (n : Int)
  | float (x : Binary64)
  deriving DecidableEq, Repr

/-- What one signal adds to the score. -/
structure Weight where
  signal : String
  scale : Quantity
  cap : Quantity
  deriving DecidableEq, Repr

/-- The signals that count. -/
def weights : List Weight :=
  let weight (signal : String) (scale : Int) (percent : Nat) : Weight :=
    ⟨signal, .whole scale, .float (.ofRatio false percent 100)⟩
  [weight "modules" 1000 14, weight "orm_models" 5000 10, weight "acl_entries" 2000 8,
    weight "views" 8000 6, weight "routes" 1500 4]

/-- Why a score cannot be computed. -/
inductive Fault
  /-- A scale is the whole number zero. -/
  | zeroScale
  /-- A scale is a floating-point zero. -/
  | zeroFloatScale
  /-- A quotient of whole numbers is out of range. -/
  | quotientTooLarge
  /-- A whole number is out of range. -/
  | numberTooLarge
  deriving DecidableEq, Repr

/-- The wording of a fault. -/
def Fault.message : Fault → String
  | .zeroScale => "division by zero"
  | .zeroFloatScale => "float division by zero"
  | .quotientTooLarge => "integer division result too large for a float"
  | .numberTooLarge => "int too large to convert to float"

/-- The floating-point number nearest to a whole number, if it is in range. -/
def ofWhole (n : Int) : Except Fault Binary64 :=
  if (Binary64.ofInt n).isFinite then .ok (.ofInt n) else .error .numberTooLarge

/-- A count divided by a scale. -/
def ratio (count : Nat) : (scale : Quantity) → Except Fault Binary64
  | .whole scale =>
    if scale = 0 then .error .zeroScale
    else
      let quotient := Binary64.ofRatio (scale < 0) count scale.natAbs
      if quotient.isFinite then .ok quotient else .error .quotientTooLarge
  | .float scale => do
    let count ← ofWhole count
    if scale.isZero then .error .zeroFloatScale else .ok (count.div scale)

/-- What a count adds to the score: its share, unless the cap is less. -/
def contribution (weight : Weight) (count : Int) : Except Fault Binary64 := do
  let share ← ratio count.toNat weight.scale
  match weight.cap with
  | .whole cap => if Binary64.intLt cap share then ofWhole cap else return share
  | .float cap => return if cap.lt share then cap else share

/-- The sum of the baseline and all contributions. -/
def total (weights : List Weight) (baseline : Binary64) (metrics : Metrics) :
    Except Fault Binary64 :=
  weights.foldlM (fun sum weight =>
    return sum.add (← contribution weight (metrics.get weight.signal))) baseline

/-- A number kept between the floor and the ceiling. -/
def Bounds.clamp (bounds : Bounds) (x : Binary64) : Binary64 :=
  let low := if x.lt bounds.ceiling then x else bounds.ceiling
  if bounds.floor.lt low then low else bounds.floor

/-- The score of some metrics, with two places. -/
def score (bounds : Bounds) (weights : List Weight) (metrics : Metrics) : Except Fault Binary64 :=
  return (bounds.clamp (← total weights bounds.baseline metrics)).roundPlaces 2

/-- What a reader should know about the score. -/
def note : String :=
  "confidence_score is a heuristic informativeness indicator derived from the " ++
    "volume of extracted signals, not a statistical confidence interval."

end AddonAtlas.Confidence
