import CondVar.Log.Event
import CondVar.History

/-
  The log of a condition variable: which facts of its history
  are logged, and how.

  Key definitions include:
    * `Fact.event?`
    * `chronicle`

  Registering and interrupting are logged while the lock is
  held, a return from a wait when the lock is held again, and
  a signal when it is done.
-/

namespace CondVar

------------------------------------------------------------
-- Logged Facts
------------------------------------------------------------

namespace Fact

/- Where the events of the condition variable come from. -/
def callTarget : String :=
  "timeout_cond::core::sync::timeout_cond"

/- Where the reports of stalls come from. -/
def stallTarget : String :=
  "timeout_cond::core::sync::generation"

/-
  The event of a fact, if it is logged.  Numbers of
  milliseconds and microseconds are cut to 64 bits.
-/
def event?
    (label : String) : Fact → Option Event
| .registered epoch =>
    some ⟨.trace, callTarget, "Waiter registered",
      [("cond", .text label), ("epoch", .number epoch)]⟩
| .returned _ o none =>
    some ⟨.trace, callTarget, "Wait returned",
      [("cond", .text label), ("wakeup", .shown o.text)]⟩
| .returned _ o (some d) =>
    some ⟨.trace, callTarget, "Timed wait returned",
      [("cond", .text label), ("wakeup", .shown o.text),
        ("remaining_us", .number d.micros.toUInt64.toNat)]⟩
| .signaled r =>
    some ⟨.trace, callTarget, "Signal",
      [("cond", .text label), ("result", .shown r.text)]⟩
| .interrupted epoch r =>
    some ⟨.debug, callTarget, "Interrupted waiters",
      [("cond", .text label), ("epoch", .number epoch),
        ("woken", .number r.count)]⟩
| .stalled epoch blocked =>
    some ⟨.warn, stallTarget,
      "Waiter stalled without signal or interrupt",
      [("cond", .text label), ("epoch", .number epoch),
        ("blocked_ms", .number blocked.millis.toUInt64.toNat)]⟩
| .judged => none
| .wrote => none
| .departed _ => none
| .parked _ _ => none
| .settled _ _ => none
| .regained _ _ => none
| .posted _ _ => none
| .closed _ _ => none
| .finished _ => none

end Fact

/- The log of a history, under a label. -/
def chronicle
    (label : String)
    (history : List Note) : List Event :=
  history.filterMap (fun n => n.fact.event? label)

end CondVar
