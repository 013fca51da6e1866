import CondVar.Stage

/-
  What a conductor can do on a settled stage, and what comes
  of it.

  Key definitions include:
    * `Move`
    * `Reply`
    * `Stage.act`

  Every move leaves the stage settled.  While a burst holds
  the lock, the waiters that it wakes go on as far as they get
  without it.  Signals and interrupts of a storm come from
  threads of their own, one after the other, and the waiters
  go on when all are done.
-/

namespace CondVar

------------------------------------------------------------
-- Moves and Replies
------------------------------------------------------------

/-
  `start`: waiters begin a call, one after the other.
  `signal`, `burst`, `setSignal`: one signal, several with
  the lock held, and one with the lock held that announces a
  new value.
  `interrupt`, `interruptHeld`: an interrupt without and with
  the lock held, the latter followed by a new value.
  `signalStorm`, `interruptStorm`: several threads make
  several signals or interrupts each.
  `set`, `show`, `showSettings`: a new value, and the written
  forms of the condition variable and of its settings.
  `call`, `callInterrupt`: the conductor itself waits or
  interrupts, handing over one of the two locks.
  `awaitStalls`: the clock goes on until waiters have warned.
  `handoff`: items are handed to takers one by one.
-/
inductive Move where
| start (c : Call Int) (count : Nat) : Move
| signal : Move
| burst (count : Nat) : Move
| setSignal (v : Int) : Move
| interrupt : Move
| interruptHeld (v : Option Int) : Move
| signalStorm (threads : Nat) (times : Nat) : Move
| interruptStorm (threads : Nat) (times : Nat) : Move
| set (v : Int) : Move
| show : Move
| showSettings : Move
| call (side : Side) (c : Call Int) : Move
| callInterrupt (side : Side) : Move
| awaitStalls (count : Nat) : Move
| handoff (items : Nat) (takers : Nat) : Move

/-
  `ended` tells how the conductor's own call ended, how often
  it evaluated its condition, and the value behind the lock
  it used.  `stuck` is said where there is no result to give.
-/
inductive Reply where
| done : Reply
| report (r : WakeReport) : Reply
| reports (rs : List WakeReport) : Reply
| total (woken : Nat) : Reply
| shown (text : String) : Reply
| ended (ending : Ending) (judged : Nat) (value : Int) : Reply
| stalls (events : List Event) : Reply
| consumed (items : Nat) : Reply
| stuck : Reply
deriving DecidableEq

namespace Stage

------------------------------------------------------------
-- Waking
------------------------------------------------------------

/- A thread signals. -/
def signalBy
    (t : Nat)
    (s : Stage) : Stage :=
  (s.follow (.signal t)).finish t

/- A thread interrupts. -/
def interruptBy
    (t : Nat)
    (s : Stage) : Stage :=
  (s.follow (.interrupt t)).finish t

/- The conductor interrupts with the lock held. -/
def interruptLocked (s : Stage) : Stage :=
  (s.follow (.interruptHeld conductor .bound)).finish conductor

/- The conductor sets the value it has locked. -/
def write
    (v : Int)
    (s : Stage) : Stage :=
  s.follow (.write conductor .bound v)

/- The conductor acts with the lock held. -/
def locked
    (act : Stage → Stage)
    (s : Stage) : Stage :=
  (act (s.follow (.acquire conductor .bound))).follow
    (.release conductor .bound)

/- Do the same several times. -/
def times
    (act : Stage → Stage) : Nat → Stage → Stage
| 0, s => s
| n + 1, s => times act n (act s)

/- A new thread comes and acts several times. -/
def gust
    (act : Nat → Stage → Stage)
    (n : Nat)
    (s : Stage) : Stage :=
  times (act s.newcomer) n s.join

/- The reply to a move that wakes once. -/
def wakeReply (s : Stage) : Reply :=
  match s.reportsOf conductor with
  | [r] => .report r
  | _ => .stuck

/- The number of waiters woken in a move. -/
def totalWoken (s : Stage) : Nat :=
  s.reports.foldl (fun n r => n + r.count) 0

------------------------------------------------------------
-- Waiting
------------------------------------------------------------

/- Whether a call's limit is so short that it may run out. -/
def isShort (c : Call Int) : Bool :=
  match c.limit with
  | none => false
  | some d => d.secs = 0

/-
  Another waiter begins a call.  If its limit is short, the
  time comes for which it waits.
-/
def start
    (c : Call Int)
    (s : Stage) : Stage :=
  let t := s.newcomer
  let s :=
    ((s.join.follow (.acquire t .bound)).follow
      (.call t .bound c)).settle
  if isShort c then s.expire t else s

/-
  The conductor begins a call with a lock of its choice, the
  time comes for which it waits, and it releases the lock.
-/
def conduct
    (side : Side)
    (l : Label Int)
    (s : Stage) : Stage :=
  let s := ((s.follow (.acquire conductor side)).follow l).settle
  ((s.expire conductor).follow (.release conductor side)).settle

/- The reply to a call that the conductor has made. -/
def callReply
    (s : Stage)
    (side : Side) : Reply :=
  match s.endingsOf conductor, s.reportsOf conductor with
  | [e], [] =>
      .ended e (s.judgedBy conductor) (s.machine.lock side).value
  | [], [r] => .report r
  | _, _ => .stuck

------------------------------------------------------------
-- Stalling
------------------------------------------------------------

/- When a parked thread is to warn of a stall. -/
def warningTime
    (s : Stage)
    (t : Nat) : Option Instant :=
  match s.machine.threads[t]? with
  | some (.parked _ _ v _) => v.nextWarning
  | _ => none

/- The one of two threads that is to warn first. -/
def sooner
    (s : Stage)
    (best : Option Nat)
    (t : Nat) : Option Nat :=
  match best.bind s.warningTime, s.warningTime t with
  | none, some _ => some t
  | some b, some w => if b ≤ w then best else some t
  | _, none => best

/- The time comes for the thread that is to warn first. -/
def stall (s : Stage) : Stage :=
  match s.threadIds.foldl s.sooner none with
  | none => s
  | some t => s.expire t

/- The different warnings of a move. -/
def stallEvents (s : Stage) : List Event :=
  (chronicle s.machine.settings.label
    (s.history.filter (·.fact.isStall))).eraseDups

------------------------------------------------------------
-- Handing Over
------------------------------------------------------------

/- The conductor puts one item up and signals. -/
def produce (s : Stage) : Stage :=
  (locked
    (fun s =>
      signalBy conductor (s.write (s.machine.bound.value + 1)))
    s).settle

/-
  Takers come, the conductor puts items up until all are
  taken, and interrupts the takers to stop them.
-/
def handOver
    (items : Nat)
    (takers : Nat)
    (s : Stage) : Stage :=
  let ids := (List.range takers).map (s.newcomer + ·)
  let s := { times join takers s with takers := ids }
  let s := times produce items s.settle
  let s := locked interruptLocked { s with stopping := true }
  { s.settle with takers := [], stopping := false }

/- How often threads from the `n`-th on have taken an item. -/
def takenFrom
    (s : Stage)
    (n : Nat) : Nat :=
  (s.historyOf (n ≤ ·)).countP (·.fact = .wrote)

------------------------------------------------------------
-- Acting
------------------------------------------------------------

/- Make a move on a settled stage, and settle it again. -/
def act
    (s : Stage) :
    Move → Stage × Reply
| .start c n => (times (start c) n s, .done)
| .signal =>
    let s := (signalBy conductor s).settle
    (s, s.wakeReply)
| .burst n =>
    let s := (locked (times (settle ∘ signalBy conductor) n) s).settle
    (s, .reports (s.reportsOf conductor))
| .setSignal v =>
    let s := (locked (signalBy conductor ∘ write v) s).settle
    (s, s.wakeReply)
| .interrupt =>
    let s := (interruptBy conductor s).settle
    (s, s.wakeReply)
| .interruptHeld none =>
    let s := (locked interruptLocked s).settle
    (s, s.wakeReply)
| .interruptHeld (some v) =>
    let s := (locked (write v ∘ interruptLocked) s).settle
    (s, s.wakeReply)
| .signalStorm k n =>
    let s := (times (gust signalBy n) k s).settle
    (s, .total s.totalWoken)
| .interruptStorm k n =>
    let s := (times (gust interruptBy n) k s).settle
    (s, .total s.totalWoken)
| .set v => ((locked (write v) s).settle, .done)
| .show => (s, .shown s.machine.text)
| .showSettings => (s, .shown s.machine.settings.text)
| .call side c =>
    let s := conduct side (.call conductor side c) s
    (s, s.callReply side)
| .callInterrupt side =>
    let s := conduct side (.interruptHeld conductor side) s
    (s, s.callReply side)
| .awaitStalls n =>
    let s := times stall n s
    (s, .stalls s.stallEvents)
| .handoff items takers =>
    let newcomer := s.newcomer
    let s := handOver items takers s
    (s, .consumed (s.takenFrom newcomer))

end Stage

end CondVar
