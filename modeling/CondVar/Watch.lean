import CondVar.Bench

/-
  A whole wait, look by look.

  Between two looks of a waiter the others may do to the
  cohort whatever they like.  So all that a wait depends on is
  what its waiter finds each time it looks.

  Key definitions include:
    * `Sighting.Decisive`
    * `Sighting.Decides`
    * `Vigil.keep`
    * `Look.leave`
    * `Bench.visits`
-/

namespace CondVar

------------------------------------------------------------
-- Decisive Sightings
------------------------------------------------------------

namespace Sighting

/- Whether the deadline of a wait is reached, if it has one. -/
def Late
    (s : Sighting)
    (deadline : Option Instant) : Prop :=
  ∃ d ∈ deadline, d ≤ s.clock

/-
  Whether there is anything to end a wait: the cohort is
  closed, or has a permit, or the deadline is reached.
-/
def Decisive
    (s : Sighting)
    (deadline : Option Instant) : Prop :=
  s.closed = true ∨ 0 < s.permits ∨ s.Late deadline

/-
  Whether a wait ends with an outcome: a close goes before a
  permit, and a permit before the deadline.
-/
def Decides
    (s : Sighting)
    (deadline : Option Instant) : Outcome → Prop
| .interrupted => s.closed = true
| .signaled => s.closed = false ∧ 0 < s.permits
| .timedOut =>
    s.closed = false ∧ s.permits = 0 ∧ s.Late deadline

instance
    (s : Sighting)
    (deadline : Option Instant) :
    Decidable (s.Late deadline) :=
  inferInstanceAs (Decidable (∃ d ∈ deadline, d ≤ s.clock))

instance
    (s : Sighting)
    (deadline : Option Instant) :
    Decidable (s.Decisive deadline) :=
  inferInstanceAs (Decidable (_ ∨ _ ∨ _))

end Sighting

------------------------------------------------------------
-- Keeping a Vigil
------------------------------------------------------------

namespace Look

/- The outcome of a wait that a look settles. -/
def outcome? : Look → Option Outcome
| .settle o => some o
| .park _ _ _ => none

/- How long a wait has lasted, if a look warns of a stall. -/
def stalled? : Look → Option Duration
| .settle _ => none
| .park _ _ stalled => stalled

/- What a look leaves of the cohort. -/
def leave
    (l : Look)
    (c : Cohort) : Cohort :=
  match l with
  | .settle o => c.settle o
  | .park _ _ _ => c

end Look

/-
  The looks of a waiter that finds one thing after the other.
  It looks until its wait is settled.
-/
def Vigil.keep
    (v : Vigil) :
    List Sighting → List Look
| [] => []
| s :: ss =>
    match v.look s with
    | .settle o => [.settle o]
    | .park v' wakeAt stalled =>
        .park v' wakeAt stalled :: v'.keep ss

------------------------------------------------------------
-- Looks on a Bench
------------------------------------------------------------

namespace Bench

/-
  One look of a waiter: the cohort as the waiter finds it,
  the clock, and the cohort as the waiter leaves it.
-/
structure Visit where
  found : Cohort
  clock : Instant
  left : Cohort
deriving DecidableEq

/- What the waiter sees. -/
def Visit.sighting (x : Visit) : Sighting :=
  x.found.sighting x.clock

/- Whether a step is a look of a seat's waiter. -/
def Action.isLookOf
    (i : Nat) : Action → Bool
| .sit j _ _ => j = i
| .recheck j => j = i
| _ => false

/- The looks of a seat's waiter along a run. -/
def visits
    (i : Nat)
    (b : Bench) :
    List Action → List Visit
| [] => []
| a :: as =>
    match b.step a with
    | none => []
    | some (b', _) =>
        if a.isLookOf i then
          ⟨b.cohort, b.clock, b'.cohort⟩ :: visits i b' as
        else
          visits i b' as

end Bench

end CondVar
