import CondVar.Call
import CondVar.Time.Instant

/-
  What happens in the steps of a condition variable, for the
  record.

  Key definitions include:
    * `Fact`
    * `Note`

  The facts of a run, in order, are its history.  The log
  events are some of these facts, as told elsewhere.
-/

namespace CondVar

------------------------------------------------------------
-- Facts
------------------------------------------------------------

/-
  `judged`: the condition of a call was evaluated.
  `wrote`: the guarded value was set by the lock's holder.
  `registered`, `departed`, `stalled`, `parked`, `settled`,
  `regained`, `returned`: a wait on the cohort of an epoch
  registered and was counted, released the lock, warned after
  having blocked for some time, parked until woken or until a
  given time, got its outcome, had the lock back, and ended
  with what was left of its time.
  `posted`, `signaled`: a signal did its locked section on
  the cohort of an epoch, and returned.
  `closed`, `interrupted`: an interrupt closed the cohort of
  an epoch, and replaced it.
  `finished`: a call ended.
-/
inductive Fact where
| judged : Fact
| wrote : Fact
| registered (epoch : Nat) : Fact
| departed (epoch : Nat) : Fact
| stalled (epoch : Nat) (blocked : Duration) : Fact
| parked (epoch : Nat) (wakeAt : Option Instant) : Fact
| settled (epoch : Nat) (o : Outcome) : Fact
| regained (epoch : Nat) (o : Outcome) : Fact
| returned (epoch : Nat) (o : Outcome)
    (remaining : Option Duration) : Fact
| posted (epoch : Nat) (r : WakeReport) : Fact
| signaled (r : WakeReport) : Fact
| closed (epoch : Nat) (r : WakeReport) : Fact
| interrupted (epoch : Nat) (r : WakeReport) : Fact
| finished (ending : Ending) : Fact
deriving DecidableEq

namespace Fact

/- The report of a signal or an interrupt that returned. -/
def wakeReport? : Fact → Option WakeReport
| .signaled r => some r
| .interrupted _ r => some r
| _ => none

/- The ending of a call. -/
def ending? : Fact → Option Ending
| .finished e => some e
| _ => none

/- Whether a fact is a warning of a stall. -/
def isStall : Fact → Bool
| .stalled _ _ => true
| _ => false

end Fact

/- A fact, the thread that it is about, and when it was. -/
structure Note where
  thread : Nat
  time : Instant
  fact : Fact
deriving DecidableEq

end CondVar
