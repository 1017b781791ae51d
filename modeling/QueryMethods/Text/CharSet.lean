/-
Sets of characters, kept as the points where membership changes.

A property of characters that a standard lists in ranges is stored as one ascending
row of code points: outside before the first, inside from the first to the second,
outside again from the second, and so on.  A character is in the set when an odd
number of the points are at or below it, which is what the walk over the row computes.
-/

namespace QueryMethods.Text

/-- A set of characters, as the ascending code points where membership changes. -/
structure CharSet where
  points : Array Nat

namespace CharSet

/-- The walk passes every point at or below the code point and flips at each. -/
def holds (s : CharSet) (code : Nat) : Bool :=
  s.points.foldl (fun inside point => if point ≤ code then !inside else inside) false

/-- Whether a character is in the set. -/
def contains (s : CharSet) (c : Char) : Bool := s.holds c.toNat

end CharSet

end QueryMethods.Text
