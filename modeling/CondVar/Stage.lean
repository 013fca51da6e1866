import CondVar.Log.Chronicle
import CondVar.Machine.Step

/-
  A condition variable on an integer, with a conductor and
  other threads, run under one fixed schedule.

  The conductor is thread 0 and does what it is told.  Of the
  other threads, waiters make one call each and release the
  lock when it is over, and takers take from the guarded
  value and wait while there is nothing to take.  Whoever can
  take a step takes it, the first thread first, and the clock
  goes on a little after every step.  When nobody can, the
  stage is settled: every thread is parked or through.

  Key definitions include:
    * `Stage`
    * `Stage.next?`
    * `Stage.drive`
    * `Stage.settle`
    * `Stage.wakeDue`
    * `Stage.expire`
-/

namespace CondVar

------------------------------------------------------------
-- Stages
------------------------------------------------------------

/-
  The machine, the notes of its steps since the page was
  turned, latest first, the threads that are takers, and
  whether these are to stop.
-/
structure Stage where
  machine : Machine Int
  notes : List Note
  takers : List Nat
  stopping : Bool

namespace Stage

/- The thread that does what it is told. -/
def conductor : Nat :=
  0

/- The time that passes with every step. -/
def pause : Duration :=
  .ofNanos 1_000

/- Follow a label, or leave all as it is. -/
def follow
    (s : Stage)
    (l : Label Int) : Stage :=
  match s.machine.step l with
  | none => s
  | some (m, ns) =>
      { s with machine := m, notes := ns.reverse ++ s.notes }

/- A stage with the conductor alone on it. -/
def fresh
    (settings : Settings)
    (value : Int) : Stage :=
  follow ⟨.fresh settings value 0, [], [], false⟩ .join

------------------------------------------------------------
-- The Schedule
------------------------------------------------------------

/-
  What a taker does outside the condition variable: it takes
  the lock, takes one from the value while that is positive,
  and waits otherwise.  When it is to stop it only releases
  the lock.
-/
def takerMove?
    (s : Stage)
    (t : Nat) : Option (Label Int) :=
  let value := s.machine.bound.value
  if s.machine.holds t .bound then
    if s.stopping then
      some (.release t .bound)
    else if 0 < value then
      some (.write t .bound (value - 1))
    else
      some (.call t .bound .wait)
  else if s.stopping then
    none
  else if s.machine.bound.holder = none then
    some (.acquire t .bound)
  else
    none

/- What a thread does outside the condition variable. -/
def clientMove?
    (s : Stage)
    (t : Nat) : Option (Label Int) :=
  if t = conductor then
    none
  else if t ∈ s.takers then
    s.takerMove? t
  else if s.machine.holds t .bound then
    some (.release t .bound)
  else
    none

/- The next step of a thread, if it can take one. -/
def next?
    (s : Stage)
    (t : Nat) : Option (Label Int) :=
  match s.machine.threads[t]? with
  | none => none
  | some .idle => s.clientMove? t
  | some (.announcing g) =>
      some (.notify t (s.machine.firstParked g))
  | some _ =>
      if (s.machine.advance t).isSome then
        some (.advance t)
      else
        none

/- Let a thread take steps until it cannot, `n` at most. -/
def drive
    (t : Nat) : Nat → Stage → Stage
| 0, s => s
| n + 1, s =>
    match s.next? t with
    | none => s
    | some l => drive t n ((s.follow l).follow (.tick pause))

/- The threads by their numbers. -/
def threadIds (s : Stage) : List Nat :=
  List.range s.machine.threads.length

/- Let all threads take steps until none can, `n` at most. -/
def settleWithin : Nat → Stage → Stage
| 0, s => s
| n + 1, s =>
    match s.threadIds.findSome? s.next? with
    | none => s
    | some l =>
        settleWithin n ((s.follow l).follow (.tick pause))

/-
  A bound on the steps that are left until the stage is
  settled.  A thread gets to park or to the end of its call
  in a few steps, and goes round again only with a permit or,
  if it is a taker, with something it has taken.
-/
def effort (s : Stage) : Nat :=
  let permits :=
    s.machine.cohorts.foldl (fun n c => n + c.permits) 0
  let goods := s.machine.bound.value.toNat
  16 * (s.machine.threads.length + permits + 1 +
    if s.takers = [] then 0 else goods)

/- Let all threads take steps until none can. -/
def settle (s : Stage) : Stage :=
  settleWithin s.effort s

/- Let a thread take the steps of one call that never parks. -/
def finish
    (s : Stage)
    (t : Nat) : Stage :=
  drive t 8 s

/- The time for which a parked thread waits, if for any. -/
def wakeTime
    (s : Stage)
    (t : Nat) : Option Instant :=
  match s.machine.threads[t]? with
  | some (.parked _ _ _ wakeAt) => wakeAt
  | _ => none

/- Whether the time has come for which a thread waits. -/
def isDue
    (s : Stage)
    (t : Nat) : Bool :=
  (s.wakeTime t).any (· ≤ s.machine.clock)

/- Wake the threads whose time has come. -/
def wakeDue (s : Stage) : Stage :=
  (s.threadIds.filter s.isDue).foldl
    (fun s t => s.follow (.expire t)) s

/-
  Let the time come for which a parked thread waits, wake it
  and whoever else is due by then, and settle.
-/
def expire
    (s : Stage)
    (t : Nat) : Stage :=
  match s.wakeTime t with
  | none => s
  | some wakeAt =>
      let d := wakeAt.since s.machine.clock
      (s.follow (.tick d)).wakeDue.settle

/- One more thread. -/
def join (s : Stage) : Stage :=
  s.follow .join

/- The number of the thread that would join next. -/
def newcomer (s : Stage) : Nat :=
  s.machine.threads.length

------------------------------------------------------------
-- Notes
------------------------------------------------------------

/- A new move is noted on a page of its own. -/
def turnPage (s : Stage) : Stage :=
  { s with notes := [] }

/- The notes of a move, in order. -/
def history (s : Stage) : List Note :=
  s.notes.reverse

/- The notes of a move on some threads, in order. -/
def historyOf
    (s : Stage)
    (who : Nat → Bool) : List Note :=
  s.history.filter (fun n => who n.thread)

/- The reports that threads got in a move, in order. -/
def reports (s : Stage) : List WakeReport :=
  s.history.filterMap (·.fact.wakeReport?)

/- The reports that a thread got in a move, in order. -/
def reportsOf
    (s : Stage)
    (t : Nat) : List WakeReport :=
  (s.historyOf (· == t)).filterMap (·.fact.wakeReport?)

/- How a thread's calls ended in a move, in order. -/
def endingsOf
    (s : Stage)
    (t : Nat) : List Ending :=
  (s.historyOf (· == t)).filterMap (·.fact.ending?)

/- How often a thread evaluated a condition in a move. -/
def judgedBy
    (s : Stage)
    (t : Nat) : Nat :=
  (s.historyOf (· == t)).countP (·.fact = .judged)

end Stage

end CondVar
