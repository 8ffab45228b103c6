import AddonAtlas.Foreign
import AddonAtlas.Number.Binary64
import AddonAtlas.Yaml.Moment

/-!
# YAML values

What the text of a settings file stands for. It is found by a `Loader`, of which nothing is assumed.
-/

namespace AddonAtlas.Yaml

/-- A value without parts. -/
inductive Scalar
  | null
  | bool (b : Bool)
  | int (n : Int)
  | float (x : Number.Binary64)
  | text (s : String)
  | bytes (b : List Nat)
  | moment (m : Moment)
  deriving DecidableEq, Repr

/-- A value. -/
inductive Tree
  | scalar (s : Scalar)
  | sequence (items : List Tree)
  | mapping (entries : List (Scalar × Tree))
  /-- A value of which nothing is read: a set, a list of pairs, or what lies too deep. -/
  | other

/-- Why a text has no value. -/
inductive Failure
  /-- The text is not well formed, or has a part that cannot be made into a value. -/
  | malformed (reason : String)
  /-- It cannot be read for another reason. -/
  | foreign (error : Foreign)

/-- Finds the value of a text; a text that says nothing has the value `null`. -/
abbrev Loader := List Char → Except Failure Tree

end AddonAtlas.Yaml
