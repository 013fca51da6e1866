/-
  Sets of numbers as ranges.

  Key definitions include:
    * `Text.covers`

  The ranges of a set stand in order, so the search for a
  number ends at the first range that begins behind it.
-/

namespace CondVar

namespace Text

------------------------------------------------------------
-- Ranges
------------------------------------------------------------

/- Whether one of some ranges, ends included, has a number. -/
def covers :
    List (Nat × Nat) → Nat → Bool
| [], _ => false
| (low, high) :: rest, n =>
    if n < low then false
    else if n ≤ high then true
    else covers rest n

end Text

end CondVar
