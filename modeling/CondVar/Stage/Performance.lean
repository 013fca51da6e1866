import CondVar.Stage.Move

/-
  Scripts for a conductor, and the reports on a performance.

  Key definitions include:
    * `Share`
    * `Report`
    * `Performance`
    * `perform`

  A performance ends with one more interrupt, so that every
  thread that was still parked gets through.
-/

namespace CondVar

------------------------------------------------------------
-- Reports
------------------------------------------------------------

/- How much of a time limit is left, roughly. -/
inductive Share where
| zero : Share
| little : Share
| most : Share
| more : Share
deriving DecidableEq

/- The part of a limit that a remaining time is. -/
def Share.of
    (remaining : Duration)
    (limit : Duration) : Share :=
  if remaining.IsZero then .zero
  else if limit.toNanos < remaining.toNanos then .more
  else if limit.toNanos < 2 * remaining.toNanos then .most
  else .little

/- A call that a waiter has made, and how often it judged. -/
structure Finished where
  call : Call Int
  ending : Ending
  judged : Nat

/-
  What came of a move, the state in which it left the settled
  stage, the waiters that got through meanwhile, and the logs
  of the conductor and of the waiters.
-/
structure Report where
  reply : Reply
  value : Int
  epoch : Nat
  waiters : Nat
  hasWaiters : Bool
  finished : List Finished
  conductorLog : List Event
  waiterLog : List Event

------------------------------------------------------------
-- Performances
------------------------------------------------------------

/-
  A performance so far: the stage, the waiters and their
  calls, and the notes of all moves.
-/
structure Performance where
  stage : Stage
  waiters : List (Nat × Call Int)
  past : List Note

namespace Performance

/- Before the first move. -/
def fresh
    (settings : Settings)
    (value : Int) : Performance :=
  ⟨.fresh settings value, [], []⟩

/- Whether a thread is a waiter. -/
def isWaiter
    (p : Performance)
    (t : Nat) : Bool :=
  (p.waiters.lookup t).isSome

/- How often a thread has evaluated a condition. -/
def judgedBy
    (p : Performance)
    (t : Nat) : Nat :=
  p.past.countP (fun n => n.thread = t ∧ n.fact = .judged)

/- How often waiters have evaluated a condition. -/
def judged (p : Performance) : Nat :=
  p.past.countP
    (fun n => p.isWaiter n.thread ∧ n.fact = .judged)

/- Whether any stall was reported. -/
def warned (p : Performance) : Bool :=
  p.past.any (·.fact.isStall)

/- The number of waiters that are counted now. -/
def waiterCount (p : Performance) : Nat :=
  p.stage.machine.tally.count.toNat

/- The waiters that a move brings on the stage. -/
def cast
    (s : Stage) : Move → List (Nat × Call Int)
| .start c n =>
    (List.range n).map (fun i => (s.newcomer + i, c))
| _ => []

/- The waiters that got through in the latest move. -/
def finished (p : Performance) : List Finished :=
  p.stage.history.filterMap
    (fun n =>
      match p.waiters.lookup n.thread, n.fact with
      | some c, .finished e => some ⟨c, e, p.judgedBy n.thread⟩
      | _, _ => none)

/- The report on the latest move. -/
def report
    (p : Performance)
    (reply : Reply) : Report :=
  let m := p.stage.machine
  let log (who : Nat → Bool) : List Event :=
    chronicle m.settings.label (p.stage.historyOf who)
  { reply := reply
    value := m.bound.value
    epoch := m.epoch
    waiters := p.waiterCount
    hasWaiters := m.tally.hasWaiters
    finished := p.finished
    conductorLog := log (· == Stage.conductor)
    waiterLog := log p.isWaiter }

/- Make a move and report on it. -/
def play
    (p : Performance)
    (move : Move) : Performance × Report :=
  let before := p.stage.turnPage
  let (s, reply) := before.act move
  let p' : Performance :=
    ⟨s, p.waiters ++ cast before move, p.past ++ s.history⟩
  (p', p'.report reply)

/- Make moves one after the other. -/
def playAll
    (p : Performance) :
    List Move → Performance × List Report
| [] => (p, [])
| move :: moves =>
    let (p', r) := p.play move
    let (p'', rs) := playAll p' moves
    (p'', r :: rs)

end Performance

/- Perform a script, and end with one more interrupt. -/
def perform
    (settings : Settings)
    (value : Int)
    (script : List Move) : Performance × List Report :=
  (Performance.fresh settings value).playAll
    (script ++ [.interrupt])

end CondVar
