import CondVar.Text.Record
import CondVar.Time.Duration

/-
  What comes of waking and of waiting.

  Key definitions include:
    * `WakeReport`
    * `Outcome`
    * `TimedReturn`
    * `TimedReturn.woken`
    * `WaitFailure`

  None but `WaitFailure` is a failure: running out of time,
  being interrupted, and waking nobody are ordinary results.
-/

namespace CondVar

------------------------------------------------------------
-- Waking
------------------------------------------------------------

/- How many waiters a wake reached, or that it reached none. -/
inductive WakeReport where
| woken (count : Nat) : WakeReport
| nobody : WakeReport
deriving DecidableEq

namespace WakeReport

/- The report on a number of waiters. -/
def ofCount (n : Nat) : WakeReport :=
  if n = 0 then .nobody else .woken n

/- Whether a report tells of woken waiters. -/
def isWoken : WakeReport → Bool
| .woken _ => true
| .nobody => false

/- The number of woken waiters. -/
def count : WakeReport → Nat
| .woken n => n
| .nobody => 0

/- A report on a number of waiters tells that number. -/
theorem count_ofCount
    (n : Nat) :
    (ofCount n).count = n := by
  unfold ofCount
  split
  · subst n
    rfl
  · rfl

/- The written form of a report. -/
def text : WakeReport → String
| .woken n => Text.applied "Woken" (toString n)
| .nobody => "NoWaiters"

end WakeReport

------------------------------------------------------------
-- Waiting
------------------------------------------------------------

/- Why a blocked waiter returned. -/
inductive Outcome where
| signaled : Outcome
| interrupted : Outcome
| timedOut : Outcome
deriving DecidableEq

namespace Outcome

/- Whether a waiter was interrupted. -/
def isInterrupted (o : Outcome) : Bool :=
  o = .interrupted

/- The written form of an outcome. -/
def text : Outcome → String
| .signaled => "Signaled"
| .interrupted => "Interrupted"
| .timedOut => "TimedOut"

end Outcome

/- The outcome of a bounded wait and its unused time. -/
structure TimedReturn where
  remaining : Duration
  outcome : Outcome
deriving DecidableEq

namespace TimedReturn

/- The time ran out. -/
def expired : TimedReturn :=
  ⟨.zero, .timedOut⟩

/- The waiter was woken after some of its time had passed. -/
def woken
    (timeout : Duration)
    (elapsed : Duration)
    (o : Outcome) : TimedReturn :=
  ⟨timeout.sub elapsed, o⟩

/-
  The return of a bounded wait.  A wait that timed out has
  used all of its time, however long it took to notice.
-/
def ofWait
    (timeout : Duration)
    (elapsed : Duration) :
    Outcome → TimedReturn
| .timedOut => expired
| .signaled => woken timeout elapsed .signaled
| .interrupted => woken timeout elapsed .interrupted

/- Whether the waiter was interrupted. -/
def interrupted (r : TimedReturn) : Bool :=
  r.outcome.isInterrupted

/- Whether the time ran out before any wake. -/
def timedOut (r : TimedReturn) : Bool :=
  r.outcome = .timedOut

/- The unused time, and whether the waiter was interrupted. -/
def parts (r : TimedReturn) : Duration × Bool :=
  (r.remaining, r.interrupted)

/- The written form of a bounded wait's return. -/
def text (r : TimedReturn) : String :=
  Text.record "TimedWait"
    [("remaining", r.remaining.text),
      ("wakeup", r.outcome.text)]

end TimedReturn

/- Why waiting for a condition ended before it cleared. -/
inductive WaitFailure where
| timeout : WaitFailure
| interrupted : WaitFailure
deriving DecidableEq

namespace WaitFailure

/- What is said of a failure. -/
def message : WaitFailure → String
| .timeout => "Wait operation timed out"
| .interrupted => "Wait was interrupted"

/- The written form of a failure. -/
def text : WaitFailure → String
| .timeout => "Timeout"
| .interrupted => "Interrupted"

end WaitFailure

end CondVar
