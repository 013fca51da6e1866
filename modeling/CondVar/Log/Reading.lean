import CondVar.Log.Chronicle

/-
  Reading a log back.

  A line of a log names its thread, its message and its
  fields, and says no more.  From the messages one can tell
  registrations, returns and interrupts, and from the fields
  the epochs, the numbers of those who were woken, and the
  outcomes.  That is enough to put the waits together again.

  Key definitions include:
    * `Entry`
    * `journal`
    * `Mark`
    * `Event.mark?`
    * `readings`
    * `registrations`, `interruptions`
    * `diaryOf`
    * `Stay`
    * `stays`
-/

namespace CondVar

------------------------------------------------------------
-- Entries
------------------------------------------------------------

/- An event that is logged, and the thread it comes from. -/
structure Entry where
  thread : Nat
  event : Event
deriving DecidableEq

/- The log of a history, under a label, thread by thread. -/
def journal
    (label : String)
    (history : List Note) : List Entry :=
  history.filterMap
    (fun n => (n.fact.event? label).map (Entry.mk n.thread))

------------------------------------------------------------
-- Marks
------------------------------------------------------------

/-
  What an event can tell: that a wait has registered in an
  epoch or has returned with an outcome, or that an interrupt
  has ended an epoch and woken so many.
-/
inductive Mark where
| registered (epoch : Nat) : Mark
| returned (wakeup : Outcome) : Mark
| interrupted (epoch : Nat) (woken : Nat) : Mark
deriving DecidableEq

namespace Mark

/- The epoch in which a wait has registered. -/
def registered? : Mark → Option Nat
| .registered e => some e
| _ => none

/- The epoch that an interrupt has ended, and whom it woke. -/
def interrupted? : Mark → Option (Nat × Nat)
| .interrupted e woken => some (e, woken)
| _ => none

/- Whether a wait has registered. -/
def isRegistration (x : Mark) : Bool :=
  x.registered?.isSome

/- Whether a wait has registered or returned. -/
def isOfWait (x : Mark) : Bool :=
  x.interrupted?.isNone

end Mark

/- The outcome with a written form. -/
def Outcome.ofText? (s : String) : Option Outcome :=
  [.signaled, .interrupted, .timedOut].find?
    (fun o => Outcome.text o = s)

namespace Event

/- The number in a field. -/
def number?
    (e : Event)
    (name : String) : Option Nat :=
  match e.fields.lookup name with
  | some (.number n) => some n
  | _ => none

/- The written form of the value in a field. -/
def shown?
    (e : Event)
    (name : String) : Option String :=
  match e.fields.lookup name with
  | some (.shown s) => some s
  | _ => none

/- What an event tells, by its message and its fields. -/
def mark? (e : Event) : Option Mark :=
  if e.message = "Waiter registered" then
    (e.number? "epoch").map .registered
  else if
      e.message = "Wait returned" ∨
        e.message = "Timed wait returned" then
    ((e.shown? "wakeup").bind Outcome.ofText?).map .returned
  else if e.message = "Interrupted waiters" then
    match e.number? "epoch", e.number? "woken" with
    | some epoch, some woken => some (.interrupted epoch woken)
    | _, _ => none
  else
    none

end Event

------------------------------------------------------------
-- Readings
------------------------------------------------------------

/- What the lines of a log tell, one after the other. -/
def readings (log : List Entry) : List (Nat × Mark) :=
  log.filterMap
    (fun x => x.event.mark?.map (Prod.mk x.thread))

/- The epochs in which waits have registered, in order. -/
def registrations (log : List Entry) : List Nat :=
  (readings log).filterMap (fun x => x.2.registered?)

/- The epochs that have ended, and who was woken, in order. -/
def interruptions (log : List Entry) : List (Nat × Nat) :=
  (readings log).filterMap (fun x => x.2.interrupted?)

/- What a log tells of the waits of one thread, in order. -/
def diaryOf
    (t : Nat)
    (log : List Entry) : List Mark :=
  ((readings log).filter
    (fun x => x.1 = t ∧ x.2.isOfWait)).map Prod.snd

------------------------------------------------------------
-- Stays
------------------------------------------------------------

/-
  A wait as a log tells of it: its thread, its epoch, and the
  outcome if it has returned.
-/
structure Stay where
  thread : Nat
  epoch : Nat
  wakeup : Option Outcome
deriving DecidableEq

namespace Stay

/- Whether a wait of a thread has not returned. -/
def isOpen
    (y : Stay)
    (t : Nat) : Bool :=
  y.thread = t ∧ y.wakeup = none

/- Whether a wait in an epoch has returned as interrupted. -/
def wasInterrupted
    (y : Stay)
    (e : Nat) : Bool :=
  y.epoch = e ∧ y.wakeup = some .interrupted

/- A thread's wait returns. -/
def wake
    (t : Nat)
    (o : Outcome)
    (y : Stay) : Stay :=
  if y.isOpen t then { y with wakeup := some o } else y

/- What is told of a wait: its beginning and its return. -/
def marks (y : Stay) : List Mark :=
  .registered y.epoch :: (y.wakeup.map .returned).toList

/- The waits after another line of the log. -/
def heed
    (ys : List Stay) : Nat × Mark → List Stay
| (t, .registered e) => ys ++ [⟨t, e, none⟩]
| (t, .returned o) => ys.map (wake t o)
| (_, .interrupted _ _) => ys

end Stay

/- The waits of a log, in the order in which they began. -/
def stays (log : List Entry) : List Stay :=
  (readings log).foldl Stay.heed []

end CondVar
