import CondVar.Time.Duration

/-
  The fixed numbers and names of the library.

  Key definitions include:
    * `Limits.maxWaiters`
    * `Limits.defaultLabel`
    * `Limits.stallPeriod`
    * `Limits.jsonVariable`
-/

namespace CondVar

namespace Limits

------------------------------------------------------------
-- Fixed Numbers and Names
------------------------------------------------------------

/- The most waiters that can be counted at one time. -/
def maxWaiters : UInt64 :=
  18_446_744_073_709_551_615

/- The label of a condition variable that was given none. -/
def defaultLabel : String :=
  "timeout_cond"

/- How long a wait may last before diagnostics report it. -/
def stallPeriod : Duration :=
  .ofNanos 30_000_000_000

/- The environment variable that asks for logs in JSON. -/
def jsonVariable : String :=
  "TIMEOUT_COND_TRACE_JSON"

end Limits

end CondVar
