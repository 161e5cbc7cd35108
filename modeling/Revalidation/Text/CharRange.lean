/-!
# Tables of code points

Character classes are stored as closed intervals of code points in increasing order.
-/

namespace Revalidation.Text

abbrev CharRanges := List (Nat × Nat)

/-- Whether some interval holds the code point.  The search ends at the first interval that starts
beyond it, which is right because the intervals are in increasing order. -/
def CharRanges.covers : CharRanges → Nat → Bool
  | [], _ => false
  | (first, last) :: rest, n =>
    if n < first then false else n ≤ last || CharRanges.covers rest n

end Revalidation.Text
