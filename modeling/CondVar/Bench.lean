import CondVar.Vigil

/-
  A cohort and its waiters, in single steps.

  Each waiter has a seat, from its registration on.  What
  happens in one locked section of the cohort is one step;
  posting and closing tell the waiters in a further step of
  their own, and anything may happen in between.

  Key definitions include:
    * `Seat`
    * `Bench`
    * `Bench.Action`
    * `Bench.Event`
    * `Bench.step`

  All that is assumed of parking is in `Bench.notify` and
  `Bench.rouse`: telling one wakes one parked waiter, any
  one, if there is one, and telling all wakes them all.
-/

namespace CondVar

------------------------------------------------------------
-- Seats
------------------------------------------------------------

/-
  A waiter is registered and has not looked yet, is parked,
  is awake again and has not looked since, has its outcome,
  or has taken its registration back without waiting.
-/
inductive Seat where
| fresh : Seat
| parked (vigil : Vigil) (wakeAt : Option Instant) : Seat
| awake (vigil : Vigil) : Seat
| settled (outcome : Outcome) : Seat
| withdrawn : Seat
deriving DecidableEq

namespace Seat

/- Whether the waiter is parked. -/
def isParked : Seat → Bool
| .parked _ _ => true
| _ => false

/- Whether the waiter was parked and has not looked since. -/
def isAwake : Seat → Bool
| .awake _ => true
| _ => false

/- Whether the waiter is registered. -/
def isLive : Seat → Bool
| .fresh => true
| .parked _ _ => true
| .awake _ => true
| .settled _ => false
| .withdrawn => false

/- A parked waiter wakes up; no other takes notice. -/
def wake : Seat → Seat
| .parked v _ => .awake v
| s => s

end Seat

------------------------------------------------------------
-- Benches
------------------------------------------------------------

/-
  A cohort, its waiters' seats, the number of posts that are
  still to tell a waiter, whether the close is still to tell
  them all, and the clock.
-/
structure Bench where
  cohort : Cohort
  seats : List Seat
  announcements : Nat
  alarm : Bool
  clock : Instant
deriving DecidableEq

namespace Bench

/- The single steps that can be taken. -/
inductive Action where
| enroll : Action
| withdraw (seat : Nat) : Action
| sit (seat : Nat) (deadline : Option Instant)
    (stall : Option Duration) : Action
| recheck (seat : Nat) : Action
| expire (seat : Nat) : Action
| post : Action
| notify (seat : Option Nat) : Action
| close : Action
| rouse : Action
| tick (d : Duration) : Action
deriving DecidableEq

/- What a step lets others know. -/
inductive Event where
| enrolled (seat : Nat) : Event
| withdrew (seat : Nat) : Event
| stalled (seat : Nat) (blocked : Duration) : Event
| settled (seat : Nat) (outcome : Outcome) : Event
| posted (report : WakeReport) : Event
| closed (report : WakeReport) : Event
deriving DecidableEq

/- A bench for one epoch, with all seats still to be taken. -/
def fresh (epoch : Nat) : Bench :=
  ⟨.fresh epoch, [], 0, false, ⟨0⟩⟩

/- Whether a waiter is parked. -/
def hasParked (b : Bench) : Bool :=
  b.seats.any Seat.isParked

/- Give a seat another state. -/
def setSeat
    (b : Bench)
    (i : Nat)
    (s : Seat) : Bench :=
  { b with seats := b.seats.set i s }

/- One waiter's look at the cohort. -/
def look
    (b : Bench)
    (i : Nat)
    (v : Vigil) : Bench × List Event :=
  match v.look (b.cohort.sighting b.clock) with
  | .settle o =>
      ({ b.setSeat i (.settled o) with
          cohort := b.cohort.settle o },
        [.settled i o])
  | .park v' wakeAt stalled =>
      (b.setSeat i (.parked v' wakeAt),
        (stalled.map (Event.stalled i)).toList)

/-
  A post tells one parked waiter, any one, or none if nobody
  is parked.
-/
def notify
    (b : Bench) :
    Option Nat → Option Bench
| none =>
    if b.hasParked then none else some b
| some i =>
    match b.seats[i]? with
    | some (.parked v _) => some (b.setSeat i (.awake v))
    | _ => none

/- The close tells every parked waiter. -/
def rouse (b : Bench) : Bench :=
  { b with seats := b.seats.map Seat.wake }

/-
  Take one step, if it can be taken.  A report that wakes
  somebody leaves its telling to be done.
-/
def step
    (b : Bench) :
    Action → Option (Bench × List Event)
| .enroll =>
    some
      ({ b with
          cohort := b.cohort.enroll
          seats := b.seats ++ [.fresh] },
        [.enrolled b.seats.length])
| .withdraw i =>
    match b.seats[i]? with
    | some .fresh =>
        some
          ({ b.setSeat i .withdrawn with
              cohort := b.cohort.withdraw },
            [.withdrew i])
    | _ => none
| .sit i deadline stall =>
    match b.seats[i]? with
    | some .fresh =>
        some (b.look i (.start deadline stall b.clock))
    | _ => none
| .recheck i =>
    match b.seats[i]? with
    | some (.awake v) => some (b.look i v)
    | _ => none
| .expire i =>
    match b.seats[i]? with
    | some (.parked v (some t)) =>
        if t ≤ b.clock then
          some (b.setSeat i (.awake v), [])
        else
          none
    | _ => none
| .post =>
    let (c, r) := b.cohort.post
    some
      ({ b with
          cohort := c
          announcements := b.announcements + r.count },
        [.posted r])
| .notify target =>
    if b.announcements = 0 then
      none
    else
      (b.notify target).map
        (fun b' =>
          ({ b' with announcements := b.announcements - 1 },
            []))
| .close =>
    let (c, r) := b.cohort.close
    some
      ({ b with
          cohort := c
          alarm := b.alarm || !b.cohort.closed },
        [.closed r])
| .rouse =>
    if b.alarm then
      some ({ b.rouse with alarm := false }, [])
    else
      none
| .tick d =>
    (b.clock.after? d).map
      (fun t => ({ b with clock := t }, []))

/- Take steps one after the other and keep what they tell. -/
def run
    (b : Bench) :
    List Action → Option (Bench × List Event)
| [] => some (b, [])
| a :: as => do
    let (b', es) ← b.step a
    let (b'', es') ← run b' as
    pure (b'', es ++ es')

end Bench

end CondVar
