import CondVar.Time.Duration

/-
  Readings of a clock that never goes back.

  Key definitions include:
    * `Instant`
    * `Instant.after?`
    * `Instant.since`

  `Instant.after?` fails where the clock cannot count that
  far, so a deadline beyond the clock's range is no deadline.
-/

namespace CondVar

------------------------------------------------------------
-- Clock Readings
------------------------------------------------------------

/- A clock reading, in nanoseconds since the clock's origin. -/
structure Instant where
  nanos : Nat
deriving DecidableEq

namespace Instant

/-
  The last reading the clock has: its seconds are counted in
  63 bits.
-/
def last : Instant :=
  ⟨9_223_372_036_854_775_807_999_999_999⟩

instance : LE Instant where
  le i j := i.nanos ≤ j.nanos

instance
    (i : Instant)
    (j : Instant) :
    Decidable (i ≤ j) :=
  inferInstanceAs (Decidable (i.nanos ≤ j.nanos))

/- The earlier of two readings. -/
def earlier
    (i : Instant)
    (j : Instant) : Instant :=
  if i ≤ j then i else j

/- The reading `d` later, if the clock gets there. -/
def after?
    (i : Instant)
    (d : Duration) : Option Instant :=
  if i.nanos + d.toNanos ≤ last.nanos then
    some ⟨i.nanos + d.toNanos⟩
  else
    none

/- The time from an earlier reading to this one. -/
def since
    (i : Instant)
    (start : Instant) : Duration :=
  Duration.ofNanos (i.nanos - start.nanos)

/- A later reading is exactly as much later as was asked. -/
theorem nanos_of_after?
    {i j : Instant}
    {d : Duration}
    (h : i.after? d = some j) :
    j.nanos = i.nanos + d.toNanos := by
  unfold after? at h
  split at h
  · cases h
    rfl
  · cases h

end Instant

end CondVar
