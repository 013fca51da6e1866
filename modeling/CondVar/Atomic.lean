import CondVar.Observation
import CondVar.Watch

/-
  A condition variable whose signals and interrupts are
  atomic.

  The threads share the same state as in a machine, but there
  is one cohort to signal and to interrupt, the current one.
  A signal that has begun posts to it in one step, and an
  interrupt closes and replaces it in one step.  Both return
  later.  Waiters do not fall asleep: they look when there is
  something to end their wait, so nobody has to wake them.

  Key definitions include:
    * `Atomic`
    * `Atomic.post`
    * `Atomic.replace`
    * `Atomic.step`
    * `Atomic.run`
    * `Atomic.Accompanies`
-/

namespace CondVar

variable {V : Type}

------------------------------------------------------------
-- Atomic Systems
------------------------------------------------------------

/-
  The shared state and the threads, and what each signal that
  has taken effect is to report.
-/
structure Atomic (V : Type) where
  core : Machine V
  answers : Nat → Option WakeReport

namespace Atomic

/- An atomic system before its first use. -/
def fresh
    (s : Settings)
    (value : V)
    (foreign : V) : Atomic V where
  core := .fresh s value foreign
  answers := fun _ => none

/- Set what a thread's signal is to report. -/
def setAnswer
    (a : Atomic V)
    (t : Nat)
    (r : Option WakeReport) : Atomic V :=
  { a with
    answers := fun u => if u = t then r else a.answers u }

/- An atomic system after a step, and the facts of the step. -/
abbrev After (V : Type) :=
  Option (Atomic V × List Fact)

/- The answers stay while the core takes a step. -/
def keep
    (a : Atomic V) :
    Machine.After V → After V
| none => none
| some (m, facts) => some ({ a with core := m }, facts)

------------------------------------------------------------
-- Signals and Interrupts
------------------------------------------------------------

/-
  An idle thread begins a signal.  It reads nothing: the
  number that goes with its phase means nothing here.
-/
def signal
    (a : Atomic V)
    (t : Nat) : After V :=
  if a.core.isIdle t then
    some
      ({ a with core := a.core.setPhase t (.signaling 0) },
        [])
  else
    none

/- A signal takes effect on the current cohort. -/
def post
    (a : Atomic V)
    (t : Nat) : Atomic V × List Fact :=
  let (c, r) := (a.core.cohort a.core.current).post
  (setAnswer
      { a with core := a.core.setCohort a.core.current c }
      t (some r),
    [.posted c.epoch r])

/- A signal that has taken effect returns. -/
def reply
    (a : Atomic V)
    (t : Nat)
    (r : WakeReport) : Atomic V × List Fact :=
  (setAnswer { a with core := a.core.setPhase t .idle } t none,
    [.signaled r])

/-
  An interrupt takes effect: it closes the current cohort and
  replaces it by the cohort of the next epoch.
-/
def replace
    (a : Atomic V)
    (t : Nat)
    (taken : Bool) : Atomic V × List Fact :=
  let g := a.core.current
  let (c, r) := (a.core.cohort g).close
  let core : Machine V :=
    { a.core with
      cohorts := a.core.cohorts.set g c ++ [.fresh (c.epoch + 1)]
      current := a.core.cohorts.length }
  ({ a with core := core.setPhase t (.renewing taken g r) },
    [.closed c.epoch r])

/- An interrupt returns, and releases the lock it took. -/
def leave
    (a : Atomic V)
    (t : Nat)
    (taken : Bool)
    (g : Nat)
    (r : WakeReport) : Atomic V × List Fact :=
  let core :=
    if taken then a.core.setHolder .bound none else a.core
  ({ a with core := core.setPhase t .idle },
    [.interrupted (a.core.cohort g).epoch r])

------------------------------------------------------------
-- Steps
------------------------------------------------------------

/-
  The next step of a thread that is inside a call.  A waiter
  looks only when that settles its wait.
-/
def advance
    (a : Atomic V)
    (t : Nat) : After V :=
  match a.core.threads[t]? with
  | some (.signaling _) =>
      match a.answers t with
      | none => some (a.post t)
      | some r => some (a.reply t r)
  | some (.watching _ g v) =>
      match v.look ((a.core.cohort g).sighting a.core.clock) with
      | .settle _ => a.keep (a.core.advance t)
      | .park _ _ _ => none
  | some (.closing taken) => some (a.replace t taken)
  | some (.renewing taken g r) => some (a.leave t taken g r)
  | _ => a.keep (a.core.advance t)

/- The facts of a step, as notes on a thread. -/
def noted
    (time : Instant)
    (t : Nat) :
    After V → Option (Atomic V × List Note)
| none => none
| some (a, facts) => some (a, facts.map (Note.mk t time))

/- Follow a label, if it can be followed. -/
def step
    (a : Atomic V)
    (l : Label V) : Option (Atomic V × List Note) :=
  match l with
  | .signal t => noted a.core.clock t (a.signal t)
  | .advance t => noted a.core.clock t (a.advance t)
  | .notify _ _ => none
  | .expire _ => none
  | _ =>
      (a.core.step l).map
        (fun after => ({ a with core := after.1 }, after.2))

/- Follow labels one after the other. -/
def run
    (a : Atomic V) :
    List (Label V) → Option (Atomic V × List Note)
| [] => some (a, [])
| l :: ls => do
    let (a', ns) ← a.step l
    let (a'', ns') ← run a' ls
    pure (a'', ns ++ ns')

end Atomic

------------------------------------------------------------
-- Side by Side
------------------------------------------------------------

/-
  Whether a note is of what becomes of a call.  The moment in
  which a signal posts is nobody's concern, and neither is a
  waiter's sleep.
-/
def Note.isReport (n : Note) : Bool :=
  match n.fact with
  | .posted _ _ => false
  | _ => n.isTold

namespace Atomic

/-
  What the steps of an atomic system have to do with one step
  of a machine.  The same is asked for, and the same becomes
  of the calls.  A signal takes effect no earlier than the
  step in which the machine's signal reads the cohort, and no
  later than the step in which it posts.  An interrupt takes
  effect as the machine's interrupt closes the cohort, before
  it replaces it.
-/
structure Matches
    (m m' : Machine V)
    (l : Label V)
    (ns : List Note)
    (ls : List (Label V))
    (ns' : List Note) : Prop where
  asked : ls.filterMap Label.request? = l.request?.toList
  reported : ns'.filter Note.isReport = ns.filter Note.isReport
  signals :
    ∀ n ∈ ns', ∀ epoch r, n.fact = .posted epoch r →
      (l = .signal n.thread ∨
        ∃ g, m.threads[n.thread]? = some (.signaling g)) ∧
      (l = .advance n.thread ∨
        ∃ g, m'.threads[n.thread]? = some (.signaling g))
  interrupts :
    ∀ n ∈ ns', ∀ epoch r, n.fact = .closed epoch r →
      l = .advance n.thread ∧
      (∃ taken, m.threads[n.thread]? = some (.closing taken)) ∧
      ∃ taken g,
        m'.threads[n.thread]? = some (.rousing taken g r)

/-
  An atomic system goes along with the run of a machine: for
  each label of the run it follows some labels of its own.
-/
inductive Accompanies :
    Machine V → Atomic V →
      List (Label V) → List (List (Label V)) → Prop where
| done {m : Machine V} {a : Atomic V} :
    Accompanies m a [] []
| step {m m' : Machine V} {a a' : Atomic V} {l : Label V}
    {ls : List (Label V)} {labels : List (Label V)}
    {blocks : List (List (Label V))} {ns ns' : List Note} :
    m.step l = some (m', ns) →
      a.run labels = some (a', ns') →
        Matches m m' l ns labels ns' →
          Accompanies m' a' ls blocks →
            Accompanies m a (l :: ls) (labels :: blocks)

end Atomic

end CondVar
