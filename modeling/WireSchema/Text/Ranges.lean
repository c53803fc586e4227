/-!
# Sets of code points

A set of characters is given by the ascending ranges of its code points.
-/

namespace WireSchema.Text

/-- Is a code point in one of the ascending ranges? Both ends of a range belong to it. -/
def inRanges : List (Nat × Nat) → Nat → Bool
  | [], _ => false
  | (first, last) :: ranges, n =>
    if n < first then false else n ≤ last || inRanges ranges n

end WireSchema.Text
