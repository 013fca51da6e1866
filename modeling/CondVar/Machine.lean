import CondVar.Call
import CondVar.Settings
import CondVar.Tally
import CondVar.Vigil

/-
  The shared state of a condition variable and the threads
  that use it.

  The condition variable is bound to one lock for good.  A
  second lock of the same kind is there too, because a thread
  may hand over the wrong one.  Cohorts are never forgotten:
  a thread that has read which cohort is current may act on
  it after it has been replaced.

  Key definitions include:
    * `Side`
    * `Lock`
    * `Phase`
    * `Machine`
    * `Machine.fresh`
    * `Machine.epoch`
-/

namespace CondVar

------------------------------------------------------------
-- Locks
------------------------------------------------------------

/- The lock that is bound to the condition variable, or not. -/
inductive Side where
| bound : Side
| foreign : Side
deriving DecidableEq

/- A lock is held by one thread at most and guards a value. -/
structure Lock (V : Type) where
  holder : Option Nat
  value : V

------------------------------------------------------------
-- Threads
------------------------------------------------------------

/-
  Where a thread is, between its steps.

  `idle`: outside the condition variable.

  Waiting, with the lock held: `judging` the condition,
  `entering` the wait, `ticketed` once registered with a
  cohort, `enrolled` once counted as well; `withdrawing` if
  it could not be counted.

  Waiting, with the lock released: `departed`, before reading
  the clock; `watching`, about to look at the cohort;
  `parked`; `settled`, with an outcome; `returning` for the
  lock.

  Waiting, with the lock held again: `regained`, still
  counted.

  Signaling: `signaling` a cohort it has read, `announcing`
  the permit it has left there.

  Interrupting: `locking`, if it does not hold the lock yet;
  `closing` the current cohort, `rousing` its waiters,
  `renewing` the current cohort.  The flag tells whether the
  thread took the lock only for this.
-/
inductive Phase (V : Type) where
| idle : Phase V
| judging (side : Side) (a : Attempt V) : Phase V
| entering (side : Side) (a : Attempt V) : Phase V
| ticketed (a : Attempt V) (cohort : Nat) : Phase V
| withdrawing (cohort : Nat) (misuse : Misuse) : Phase V
| enrolled (a : Attempt V) (cohort : Nat) : Phase V
| departed (a : Attempt V) (cohort : Nat) : Phase V
| watching (a : Attempt V) (cohort : Nat)
    (v : Vigil) : Phase V
| parked (a : Attempt V) (cohort : Nat)
    (v : Vigil) (wakeAt : Option Instant) : Phase V
| settled (a : Attempt V) (cohort : Nat)
    (v : Vigil) (o : Outcome) : Phase V
| returning (a : Attempt V) (cohort : Nat)
    (o : Outcome) (left : Option Duration) : Phase V
| regained (a : Attempt V) (cohort : Nat)
    (o : Outcome) (left : Option Duration) : Phase V
| signaling (cohort : Nat) : Phase V
| announcing (cohort : Nat) : Phase V
| locking : Phase V
| closing (taken : Bool) : Phase V
| rousing (taken : Bool) (cohort : Nat)
    (r : WakeReport) : Phase V
| renewing (taken : Bool) (cohort : Nat)
    (r : WakeReport) : Phase V

namespace Phase

variable {V : Type}

/- Whether a thread is parked on a cohort. -/
def isParkedOn
    (g : Nat) : Phase V → Bool
| .parked _ g' _ _ => g' = g
| _ => false

/- A thread that is parked on a cohort wakes up. -/
def wake
    (g : Nat)
    (ph : Phase V) : Phase V :=
  match ph with
  | .parked a g' v _ =>
      if g' = g then .watching a g' v else ph
  | _ => ph

/-
  What is no other for a thread that watches than for one that
  is parked does not change by waking up.
-/
theorem apply_wake
    {α : Type}
    (f : Phase V → α)
    (hParked :
      ∀ a g v wakeAt,
        f (.watching a g v) = f (.parked a g v wakeAt))
    (g : Nat)
    (ph : Phase V) :
    f (ph.wake g) = f ph := by
  unfold wake
  split
  · split
    · exact hParked _ _ _ _
    · rfl
  · rfl

end Phase

------------------------------------------------------------
-- Machines
------------------------------------------------------------

/-
  The state shared by all threads, and where each thread is.
  Cohorts are numbered in the order in which they were made,
  and `current` is the number of the current one.
-/
structure Machine (V : Type) where
  settings : Settings
  bound : Lock V
  foreign : Lock V
  cohorts : List Cohort
  current : Nat
  tally : Tally
  clock : Instant
  threads : List (Phase V)

namespace Machine

variable {V : Type}

/- A condition variable before its first use. -/
def fresh
    (s : Settings)
    (value : V)
    (foreign : V) : Machine V where
  settings := s
  bound := ⟨none, value⟩
  foreign := ⟨none, foreign⟩
  cohorts := [.fresh 0]
  current := 0
  tally := .empty
  clock := ⟨0⟩
  threads := []

/- One of the two locks. -/
def lock
    (m : Machine V) : Side → Lock V
| .bound => m.bound
| .foreign => m.foreign

/- Change one of the two locks. -/
def setLock
    (m : Machine V)
    (side : Side)
    (l : Lock V) : Machine V :=
  match side with
  | .bound => { m with bound := l }
  | .foreign => { m with foreign := l }

/- Change the value behind one of the two locks. -/
def setValue
    (m : Machine V)
    (side : Side)
    (v : V) : Machine V :=
  m.setLock side { m.lock side with value := v }

/- Change who holds one of the two locks. -/
def setHolder
    (m : Machine V)
    (side : Side)
    (holder : Option Nat) : Machine V :=
  m.setLock side { m.lock side with holder := holder }

/- Whether a thread holds a lock. -/
def holds
    (m : Machine V)
    (t : Nat)
    (side : Side) : Bool :=
  (m.lock side).holder = some t

/- Move a thread to another phase. -/
def setPhase
    (m : Machine V)
    (t : Nat)
    (ph : Phase V) : Machine V :=
  { m with threads := m.threads.set t ph }

/- Change a cohort. -/
def setCohort
    (m : Machine V)
    (g : Nat)
    (c : Cohort) : Machine V :=
  { m with cohorts := m.cohorts.set g c }

/- A cohort by its number. -/
def cohort
    (m : Machine V)
    (g : Nat) : Cohort :=
  m.cohorts[g]?.getD (.fresh 0)

/- The epoch of the current cohort. -/
def epoch (m : Machine V) : Nat :=
  (m.cohort m.current).epoch

/- Whether a thread is parked on a cohort. -/
def hasParked
    (m : Machine V)
    (g : Nat) : Bool :=
  m.threads.any (Phase.isParkedOn g)

/- The first thread that is parked on a cohort. -/
def firstParked
    (m : Machine V)
    (g : Nat) : Option Nat :=
  m.threads.findIdx? (Phase.isParkedOn g)

/- The written form of a condition variable. -/
def text (m : Machine V) : String :=
  Text.record "TimeoutCond"
    [("label", Text.quoted m.settings.label),
      ("epoch", toString m.epoch),
      ("waiters", toString m.tally.count.toNat)]

end Machine

end CondVar
