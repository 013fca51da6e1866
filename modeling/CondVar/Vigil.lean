import CondVar.Cohort
import CondVar.Time.Instant

/-
  One blocked wait, as seen by the waiter.

  A waiter that looks at its cohort either has its outcome or
  parks until it is woken or a given time has come.  A close
  goes before a permit, and a permit before the deadline.  A
  waiter that has to park again reports a stall if it has not
  done so for a whole stall period.

  Key definitions include:
    * `Sighting`
    * `Vigil`
    * `Vigil.start`
    * `Vigil.look`
    * `Look`
-/

namespace CondVar

------------------------------------------------------------
-- Sightings
------------------------------------------------------------

/- What a waiter finds when it looks at its cohort. -/
structure Sighting where
  closed : Bool
  permits : Nat
  clock : Instant
deriving DecidableEq

/- What a waiter would find at a clock reading. -/
def Cohort.sighting
    (c : Cohort)
    (now : Instant) : Sighting :=
  ⟨c.closed, c.permits, now⟩

------------------------------------------------------------
-- Vigils
------------------------------------------------------------

/-
  A wait in progress: its deadline and stall period, if it
  has them, when it started, and when it is to warn next.
-/
structure Vigil where
  deadline : Option Instant
  stall : Option Duration
  started : Instant
  nextWarning : Option Instant
deriving DecidableEq

/-
  A look either settles the wait or parks the waiter: until
  `wakeAt`, if that is given, and having warned of a stall if
  `stalled` tells how long it lasts already.
-/
inductive Look where
| settle (outcome : Outcome) : Look
| park (vigil : Vigil) (wakeAt : Option Instant)
    (stalled : Option Duration) : Look
deriving DecidableEq

namespace Vigil

/- A wait that starts now and warns first in one period. -/
def start
    (deadline : Option Instant)
    (stall : Option Duration)
    (now : Instant) : Vigil :=
  ⟨deadline, stall, now, stall.bind now.after?⟩

/- Whether a clock reading has reached the deadline. -/
def expired
    (v : Vigil)
    (now : Instant) : Bool :=
  match v.deadline with
  | none => false
  | some d => d ≤ now

/- Whether a clock reading has reached the next warning. -/
def due
    (v : Vigil)
    (now : Instant) : Bool :=
  match v.nextWarning with
  | none => false
  | some w => w ≤ now

/- A vigil that has just warned warns next in one period. -/
def rearm
    (v : Vigil)
    (now : Instant) : Vigil :=
  { v with nextWarning := v.stall.bind now.after? }

/- The deadline or the next warning, whichever is earlier. -/
def wakeAt (v : Vigil) : Option Instant :=
  match v.deadline, v.nextWarning with
  | some d, some w => some (d.earlier w)
  | some d, none => some d
  | none, w => w

/- The waiter looks. -/
def look
    (v : Vigil)
    (s : Sighting) : Look :=
  if s.closed then
    .settle .interrupted
  else if 0 < s.permits then
    .settle .signaled
  else if v.expired s.clock then
    .settle .timedOut
  else if v.due s.clock then
    let v' := v.rearm s.clock
    .park v' v'.wakeAt (some (s.clock.since v.started))
  else
    .park v v.wakeAt none

end Vigil

end CondVar
