/-!
# Sets of code points as tables

A set of code points is written down by the points where it begins and where it
ends, in ascending order: a point belongs to the set exactly if an odd number of
entries lie at or below it.
-/

namespace Dialogue

namespace Text

/-- A set of code points: the first one inside, the first one outside again, the
next one inside, and so on upwards. -/
abbrev RangeTable := List Nat

/-- Whether `c` belongs to the set. The search stops at the first entry above `c`. -/
def RangeTable.contains : RangeTable → Nat → Bool
  | [], _ => false
  | bound :: bounds, c => if c < bound then false else !RangeTable.contains bounds c

end Text

end Dialogue
