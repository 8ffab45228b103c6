/-!
# Ranges of characters

A class of characters is given by the ranges of code points that it covers.
-/

namespace AddonAtlas.Text

/-- Does the character's code point lie in one of the ranges, ends included? -/
def within (ranges : List (Nat × Nat)) (c : Char) : Bool :=
  ranges.any fun (first, last) => first ≤ c.toNat && c.toNat ≤ last

end AddonAtlas.Text
