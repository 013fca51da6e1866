import CondVar.Misuse
import CondVar.Outcome
import CondVar.Predicate

/-
  The ways to wait, as calls that block any number of times.

  A call may have a condition and may have a time limit.
  With a condition it blocks again and again while the
  condition holds; without one it blocks once.  With a limit,
  each time it blocks it may use what the earlier times have
  left, and the condition is evaluated once more when nothing
  is left.

  Key definitions include:
    * `Call`
    * `Attempt`
    * `Ending`
    * `Turn`
    * `Call.begin`
    * `Attempt.judge`
    * `Attempt.resume`

  Blocking itself is not described here: `Turn.block` asks
  for it, and `Attempt.resume` is told what came of it.
-/

namespace CondVar

------------------------------------------------------------
-- Calls
------------------------------------------------------------

/- A condition to wait for and a limit, each if there is one. -/
structure Call (V : Type) where
  condition : Option (Predicate V)
  limit : Option Duration

namespace Call

variable {V : Type}

/- Block once. -/
def wait : Call V :=
  ⟨none, none⟩

/- Block once, for at most the given time. -/
def waitFor (timeout : Duration) : Call V :=
  ⟨none, some timeout⟩

/- Block while a condition holds. -/
def waitWhile (p : Predicate V) : Call V :=
  ⟨some p, none⟩

/- Block while a condition holds, within the given time. -/
def waitWhileFor
    (timeout : Duration)
    (p : Predicate V) : Call V :=
  ⟨some p, some timeout⟩

end Call

/-
  A call in progress: the values its condition was shown so
  far, latest first, and the time it has left if that is
  limited.
-/
structure Attempt (V : Type) where
  condition : Option (Predicate V)
  seen : List V
  budget : Option Duration

/- How a call ends. -/
inductive Ending where
| woken (outcome : Outcome) : Ending
| timed (result : TimedReturn) : Ending
| cleared (remaining : Option Duration) : Ending
| failed (failure : WaitFailure) : Ending
| misused (misuse : Misuse) : Ending
| aborted (message : String) : Ending
deriving DecidableEq

/- What a call in progress does next. -/
inductive Turn (V : Type) where
| block (attempt : Attempt V) : Turn V
| judge (attempt : Attempt V) : Turn V
| finish (ending : Ending) : Turn V

/- The first turn of a call. -/
def Call.begin
    {V : Type}
    (c : Call V) : Turn V :=
  let a : Attempt V := ⟨c.condition, [], c.limit⟩
  match c.condition with
  | none => .block a
  | some _ => .judge a

namespace Attempt

variable {V : Type}

/- Whether the time of a limited call is used up. -/
def exhausted (a : Attempt V) : Bool :=
  match a.budget with
  | none => false
  | some d => d.IsZero

/-
  Evaluate the condition on the guarded value.  A call whose
  condition still holds blocks, unless its time is used up.
-/
def judge
    (a : Attempt V)
    (v : V) : Turn V × V :=
  match a.condition with
  | none => (.block a, v)
  | some p =>
      let a' := { a with seen := v :: a.seen }
      match p.judge a.seen v with
      | (.clear, w) => (.finish (.cleared a.budget), w)
      | (.abort message, w) => (.finish (.aborted message), w)
      | (.keepWaiting, w) =>
          if a.exhausted then
            (.finish (.failed .timeout), w)
          else
            (.block a', w)

/-
  What blocking has left of the time of a limited call:
  nothing, if its time ran out.
-/
def left
    (a : Attempt V)
    (elapsed : Duration)
    (o : Outcome) : Option Duration :=
  a.budget.map
    (fun d => (TimedReturn.ofWait d elapsed o).remaining)

/-
  Go on after having blocked, with this outcome and time
  left.  A call without a condition is over.  One with a
  condition is over if it was interrupted.
-/
def resume
    (a : Attempt V)
    (o : Outcome)
    (remaining : Option Duration) : Turn V :=
  match a.condition with
  | none =>
      match remaining with
      | none => .finish (.woken o)
      | some d => .finish (.timed ⟨d, o⟩)
  | some _ =>
      if o.isInterrupted then
        .finish (.failed .interrupted)
      else
        .judge { a with budget := remaining }

end Attempt

end CondVar
