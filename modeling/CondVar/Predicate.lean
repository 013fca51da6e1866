/-
  Conditions on the guarded value.

  A condition is evaluated with the lock held.  It sees the
  value and may change it, and it may remember the values it
  was shown before in the same call.  It says to keep waiting,
  or that it is clear, or it breaks off with a message.

  Key definitions include:
    * `Predicate`
    * `Predicate.below`
    * `Predicate.countdown`
    * `Predicate.countUp`
    * `Predicate.abortAt`
-/

namespace CondVar

------------------------------------------------------------
-- Predicates
------------------------------------------------------------

/- What an evaluation of a condition says. -/
inductive Verdict where
| keepWaiting : Verdict
| clear : Verdict
| abort (message : String) : Verdict
deriving DecidableEq

/-
  A condition maps the values that it was shown earlier in
  the call, latest first, and the value that it is shown now
  to its verdict and the value that it leaves behind.
-/
structure Predicate (V : Type) where
  judge : List V → V → Verdict × V

namespace Predicate

/- Keep waiting or not. -/
def verdict (keep : Bool) : Verdict :=
  if keep then .keepWaiting else .clear

/- A condition on the value alone that does not change it. -/
def ofTest
    {V : Type}
    (keep : V → Bool) : Predicate V :=
  ⟨fun _ v => (verdict (keep v), v)⟩

------------------------------------------------------------
-- Conditions on Integers
------------------------------------------------------------

/- Wait while the value is below `k`. -/
def below (k : Int) : Predicate Int :=
  ofTest (fun v => v < k)

/- Wait while the value is above `k`. -/
def above (k : Int) : Predicate Int :=
  ofTest (fun v => k < v)

/- Wait while the value differs from `k`. -/
def differs (k : Int) : Predicate Int :=
  ofTest (fun v => v ≠ k)

/- Always wait. -/
def always : Predicate Int :=
  ofTest (fun _ => true)

/- Never wait. -/
def never : Predicate Int :=
  ofTest (fun _ => false)

/- Wait while the value is positive, and lower it by one. -/
def countdown : Predicate Int :=
  ⟨fun _ v =>
    if 0 < v then (.keepWaiting, v - 1) else (.clear, v)⟩

/-
  Raise the value by one, within the 64-bit words, and wait
  while it is below `k`.
-/
def countUp (k : Int) : Predicate Int :=
  ⟨fun _ v =>
    let w := (v + 1).bmod 18_446_744_073_709_551_616
    (verdict (w < k), w)⟩

/- Wait, but break off at the `k`-th evaluation. -/
def abortAt (k : Int) : Predicate Int :=
  ⟨fun earlier v =>
    if (earlier.length : Int) + 1 = k then
      (.abort ("predicate failed at " ++ toString k), v)
    else
      (.keepWaiting, v)⟩

end Predicate

end CondVar
