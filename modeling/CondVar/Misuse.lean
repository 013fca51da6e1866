import CondVar.Text.Record

/-
  The ways a condition variable can be misused, each with
  its message, its code, and advice.

  Key definitions include:
    * `Misuse`
    * `Misuse.message`
    * `Misuse.code`
    * `Misuse.advice`
    * `Misuse.text`
-/

namespace CondVar

------------------------------------------------------------
-- Misuse
------------------------------------------------------------

/-
  A waiter left that had not entered, a waiter entered that
  could not be counted, or a lock was handed over that is
  not the one the condition variable is bound to.
-/
inductive Misuse where
| underflow : Misuse
| overflow (max : UInt64) : Misuse
| foreignLock : Misuse
deriving DecidableEq

namespace Misuse

/- What is said when a misuse stops its caller. -/
def message : Misuse → String
| .underflow => "waiter removed more times than it was added"
| .overflow max =>
    "too many waiters; max is " ++ toString max.toNat
| .foreignLock =>
    "wait called with a guard for a mutex this " ++
      "condition is not bound to"

/- The code under which a misuse is filed. -/
def code : Misuse → String
| .underflow => "cond::waiter_underflow"
| .overflow _ => "cond::waiter_overflow"
| .foreignLock => "cond::foreign_lock"

/- How to avoid a misuse. -/
def advice : Misuse → String
| .underflow =>
    "Every waiter exit must be paired with exactly " ++
      "one waiter entry."
| .overflow _ =>
    "The waiter counter wrapped. Waiter entries are " ++
      "leaking without exits."
| .foreignLock =>
    "Pass the guard obtained from TimeoutCond::lock(), " ++
      "not from another mutex."

/- The written form of a misuse. -/
def text : Misuse → String
| .underflow => "WaiterUnderflow"
| .overflow max =>
    Text.record "WaiterOverflow" [("max", toString max.toNat)]
| .foreignLock => "ForeignLock"

end Misuse

end CondVar
