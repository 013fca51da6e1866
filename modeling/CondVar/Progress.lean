import CondVar.Handoff
import CondVar.Observation
import Mathlib.Algebra.GroupWithZero.Nat

/-
  A call in progress, and what it is told.

  At each of its turns a call waits for an answer: for the
  guarded value, when its condition is to be evaluated, or for
  what came of blocking.  What it does with an answer is an
  incident.  In a machine, the steps of a call's own thread
  give these answers, and the others have no part in it.

  Key definitions include:
    * `Answer`
    * `Incident`
    * `Incident.left`
    * `Incident.ending?`
    * `Turn.next?`
    * `Turn.follow?`
    * `Machine.answers`
    * `factsOf`
-/

namespace CondVar

variable {V : Type}

------------------------------------------------------------
-- Answers
------------------------------------------------------------

/-
  `value`: what the condition of a call is shown.  `outcome`:
  how its blocking ended, and how long it took.
-/
inductive Answer (V : Type) where
| value (v : V) : Answer V
| outcome (o : Outcome) (elapsed : Duration) : Answer V

namespace Answer

/- The value that a condition is shown. -/
def value? : Answer V → Option V
| .value v => some v
| _ => none

/- Whether blocking ended because its time ran out. -/
def isLate : Answer V → Bool
| .outcome o _ => o = .timedOut
| _ => false

end Answer

/-
  The verdicts of a condition on values that it is shown one
  after the other, after others shown earlier in the call.
-/
def Predicate.verdicts
    (p : Predicate V)
    (seen : List V) : List V → List Verdict
| [] => []
| v :: vs => (p.judge seen v).1 :: p.verdicts (v :: seen) vs

------------------------------------------------------------
-- Incidents
------------------------------------------------------------

/-
  `judged`: the condition was evaluated.  `blocked`: the call
  blocked.  Both are with the time that the call had left, if
  that is limited.
-/
inductive Incident where
| judged (budget : Option Duration) (verdict : Verdict) :
    Incident
| blocked (budget : Option Duration) (o : Outcome)
    (elapsed : Duration) : Incident
deriving DecidableEq

namespace Incident

/- The time that a call had left before an incident. -/
def budget : Incident → Option Duration
| .judged b _ => b
| .blocked b _ _ => b

/- Whether a call blocked. -/
def isBlock : Incident → Bool
| .judged _ _ => false
| .blocked _ _ _ => true

/- Whether a condition was evaluated. -/
def isEvaluation (x : Incident) : Bool :=
  !x.isBlock

/- What an evaluation said. -/
def verdict? : Incident → Option Verdict
| .judged _ v => some v
| .blocked _ _ _ => none

/- Whether a call blocked until its time ran out. -/
def isLate : Incident → Bool
| .judged _ _ => false
| .blocked _ o _ => o = .timedOut

/- Whether a call blocked until it was signaled. -/
def isSignaled : Incident → Bool
| .judged _ _ => false
| .blocked _ o _ => o = .signaled

/-
  The time that an incident has spent, in nanoseconds.  What
  blocked until its time ran out has spent all of it.
-/
def spent : Incident → Nat
| .judged _ _ => 0
| .blocked b .timedOut _ => (b.map Duration.toNanos).getD 0
| .blocked _ .signaled elapsed => elapsed.toNanos
| .blocked _ .interrupted elapsed => elapsed.toNanos

/- The time that several incidents have spent together. -/
def spentIn (xs : List Incident) : Nat :=
  (xs.map spent).sum

/-
  The ending of a call with a condition for which an incident
  is the reason: its condition was clear or broke off, or it
  still held when no time was left, or blocking ended in an
  interrupt.
-/
def ending? : Incident → Option Ending
| .judged b .clear => some (.cleared b)
| .judged _ (.abort message) => some (.aborted message)
| .judged b .keepWaiting =>
    match b with
    | none => none
    | some d =>
        if d.IsZero then some (.failed .timeout) else none
| .blocked _ .interrupted _ => some (.failed .interrupted)
| .blocked _ .signaled _ => none
| .blocked _ .timedOut _ => none

end Incident

------------------------------------------------------------
-- Turns and Answers
------------------------------------------------------------

/- What the condition of a call says of a value. -/
def Attempt.verdict
    (a : Attempt V)
    (v : V) : Verdict :=
  match a.condition with
  | none => .keepWaiting
  | some p => (p.judge a.seen v).1

namespace Turn

/- The next turn of a call, if it gets the answer it wants. -/
def next? : Turn V → Answer V → Option (Incident × Turn V)
| .judge a, .value v =>
    some (.judged a.budget (a.verdict v), (a.judge v).1)
| .block a, .outcome o elapsed =>
    some
      (.blocked a.budget o elapsed,
        a.resume o (a.left elapsed o))
| _, _ => none

/- Give a call its answers one after the other. -/
def follow?
    (y : Turn V) :
    List (Answer V) → Option (List Incident × Turn V)
| [] => some ([], y)
| r :: rs => do
    let (x, y') ← y.next? r
    let (xs, y'') ← follow? y' rs
    pure (x :: xs, y'')

end Turn

------------------------------------------------------------
-- Answers in a Machine
------------------------------------------------------------

/-
  The answer that a thread's call gets in the next step that
  the thread takes from a phase, if it gets one there.
-/
def Phase.answer?
    (m : Machine V) : Phase V → Option (Answer V)
| .judging side _ => some (.value (m.lock side).value)
| .settled _ _ v o =>
    some (.outcome o (m.clock.since v.started))
| _ => none

namespace Machine

/- The answers that a thread's call gets in a run. -/
def answers
    (m : Machine V)
    (t : Nat) : List (Label V) → List (Answer V)
| [] => []
| l :: ls =>
    match m.step l with
    | none => []
    | some (m', _) =>
        (if l.thread? = some t then
            (m.threads[t]?.bind (Phase.answer? m)).toList
          else
            []) ++
          answers m' t ls

end Machine

------------------------------------------------------------
-- Facts of One Thread
------------------------------------------------------------

/- Whether a fact tells of a permit that a wait has taken. -/
def Fact.takesPermit : Fact → Bool
| .settled _ o => o = .signaled
| _ => false

/- What a history tells of one thread. -/
def factsOf
    (t : Nat)
    (ns : List Note) : List Fact :=
  (ns.filter (·.thread = t)).map Note.fact

/- How the calls of a thread have ended. -/
def endingsOf
    (t : Nat)
    (ns : List Note) : List Ending :=
  (factsOf t ns).filterMap Fact.ending?

/- How often a thread has evaluated a condition. -/
def evaluationsOf
    (t : Nat)
    (ns : List Note) : Nat :=
  (factsOf t ns).countP (· = .judged)

/- How many permits a thread has taken, of any cohort. -/
def permitsTakenBy
    (t : Nat)
    (ns : List Note) : Nat :=
  (factsOf t ns).countP Fact.takesPermit

end CondVar
