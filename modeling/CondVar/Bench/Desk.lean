import CondVar.Bench

/-
  A bench served one request at a time.

  Between two requests nobody is parked and everybody has
  been told what was to be told, so a wait that is asked for
  runs alone: it ends with what it finds, or when its time
  has passed.  A wait that nothing would ever end is not
  begun.

  Key definitions include:
    * `Bench.Request`
    * `Bench.Reply`
    * `Bench.waitAlone`
    * `Bench.serve`
-/

namespace CondVar

namespace Bench

------------------------------------------------------------
-- Requests and Replies
------------------------------------------------------------

/- What can be asked for. -/
inductive Request where
| enroll : Request
| post : Request
| close : Request
| epochs (seat : Nat) : Request
| withdraw (seat : Nat) : Request
| wait (seat : Nat) (timeout : Option Duration)
    (stall : Option Duration) : Request
deriving DecidableEq

/- What is answered. -/
inductive Reply where
| seat (number : Nat) : Reply
| report (report : WakeReport) : Reply
| epochs (bench : Nat) (seat : Nat) : Reply
| withdrawn : Reply
| waited (outcome : Outcome) (warned : Bool) : Reply
| wouldBlock : Reply
| noSeat : Reply
deriving DecidableEq

/- Whether an event is a report of a stall. -/
def Event.isStall : Event → Bool
| .stalled _ _ => true
| _ => false

------------------------------------------------------------
-- Waiting Alone
------------------------------------------------------------

/- The time that passes at least between two clock readings. -/
def pause : Duration :=
  .ofNanos 1_000

/-
  A parked waiter wakes when its time has come, looks, and
  parks again, until its wait is settled; `warned` tells
  whether it has reported a stall before.
-/
def waitAlone
    (i : Nat) :
    Nat → Bench → Bool → Option (Bench × Outcome × Bool)
| 0, _, _ => none
| n + 1, b, warned =>
    match b.seats[i]? with
    | some (.settled o) => some (b, o, warned)
    | some (.parked _ (some t)) =>
        let d := (t.since b.clock).longer pause
        match b.run [.tick d, .expire i, .recheck i] with
        | none => none
        | some (b', es) =>
            waitAlone i n b' (warned || es.any Event.isStall)
    | _ => none

/-
  Rounds that a waiter with this deadline may need: each one
  brings the clock forward.
-/
def rounds
    (b : Bench)
    (deadline : Option Instant) : Nat :=
  match deadline with
  | none => 1
  | some d => d.nanos - b.clock.nanos + 2

/- A registered waiter waits, with nobody else about. -/
def wait
    (b : Bench)
    (i : Nat)
    (timeout : Option Duration)
    (stall : Option Duration) :
    Option (Bench × Outcome × Bool) :=
  let deadline := timeout.bind b.clock.after?
  match b.run [.tick pause, .sit i deadline stall] with
  | none => none
  | some (b', es) =>
      waitAlone i (b.rounds deadline) b'
        (es.any Event.isStall)

------------------------------------------------------------
-- Serving
------------------------------------------------------------

/- Whether a seat's waiter is registered and has not waited. -/
def isFresh
    (b : Bench)
    (i : Nat) : Bool :=
  b.seats[i]? = some .fresh

/- Whether a wait without a deadline would end at all. -/
def endsAtOnce (b : Bench) : Bool :=
  b.cohort.closed || 0 < b.cohort.permits

/- Tell the waiters what there is to tell, if anything. -/
def tell
    (b : Bench)
    (a : Action) : Bench :=
  match b.step a with
  | none => b
  | some (b', _) => b'

/- Serve one request. -/
def serve
    (b : Bench) :
    Request → Bench × Reply
| .enroll =>
    (b.tell .enroll, .seat b.seats.length)
| .post =>
    ((b.tell .post).tell (.notify none),
      .report b.cohort.post.2)
| .close =>
    ((b.tell .close).tell .rouse,
      .report b.cohort.close.2)
| .epochs i =>
    if b.isFresh i then
      (b, .epochs b.cohort.epoch b.cohort.epoch)
    else
      (b, .noSeat)
| .withdraw i =>
    if b.isFresh i then
      (b.tell (.withdraw i), .withdrawn)
    else
      (b, .noSeat)
| .wait i timeout stall =>
    if timeout = none ∧ ¬ b.endsAtOnce then
      (b, .wouldBlock)
    else if b.isFresh i then
      match b.wait i timeout stall with
      | none => (b, .wouldBlock)
      | some (b', o, warned) => (b', .waited o warned)
    else
      (b, .noSeat)

/- Serve requests one after the other. -/
def serveAll
    (b : Bench) :
    List Request → List (Reply × Cohort)
| [] => []
| r :: rs =>
    let (b', reply) := b.serve r
    (reply, b'.cohort) :: serveAll b' rs

end Bench

end CondVar
