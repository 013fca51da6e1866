import CondVar.History
import CondVar.Machine

/-
  The steps of the threads that share a condition variable.

  Every access to what is shared is a step of its own, and
  between any two steps of one thread the others may take
  theirs.  A step is named by a label; a label that cannot be
  followed yields nothing.

  Key definitions include:
    * `Label`
    * `Machine.advance`
    * `Machine.step`
    * `Machine.run`
    * `Machine.Reaches`

  The clients' own moves come first: taking and releasing a
  lock, writing the guarded value, and beginning a call.
  Those of the calls follow, in the order of `Phase`.
-/

namespace CondVar

------------------------------------------------------------
-- Labels
------------------------------------------------------------

/-
  `join`: one more thread.  `tick`: the clock goes on.
  `acquire`, `release`, `write`: a client's use of a lock.
  `call`, `signal`, `interrupt`, `interruptHeld`: a client
  begins a call, handing over a lock that it holds where a
  side is given.  `advance`: a thread's next step in a call.
  `notify`: a thread tells the waiter it has left a permit
  for.  `expire`: a parked thread's time has come.
-/
inductive Label (V : Type) where
| join : Label V
| tick (d : Duration) : Label V
| acquire (t : Nat) (side : Side) : Label V
| release (t : Nat) (side : Side) : Label V
| write (t : Nat) (side : Side) (v : V) : Label V
| call (t : Nat) (side : Side) (c : Call V) : Label V
| signal (t : Nat) : Label V
| interrupt (t : Nat) : Label V
| interruptHeld (t : Nat) (side : Side) : Label V
| advance (t : Nat) : Label V
| notify (t : Nat) (target : Option Nat) : Label V
| expire (t : Nat) : Label V

/- The thread that takes a step. -/
def Label.thread?
    {V : Type} : Label V → Option Nat
| .join => none
| .tick _ => none
| .acquire t _ => some t
| .release t _ => some t
| .write t _ _ => some t
| .call t _ _ => some t
| .signal t => some t
| .interrupt t => some t
| .interruptHeld t _ => some t
| .advance t => some t
| .notify t _ => some t
| .expire t => some t

namespace Machine

variable {V : Type}

/- A machine after a step, and the facts of the step. -/
abbrev After (V : Type) :=
  Option (Machine V × List Fact)

/- Whether a thread is outside the condition variable. -/
def isIdle
    (m : Machine V)
    (t : Nat) : Bool :=
  match m.threads[t]? with
  | some .idle => true
  | _ => false

------------------------------------------------------------
-- Clients
------------------------------------------------------------

/- An idle thread takes a lock that is free. -/
def acquire
    (m : Machine V)
    (t : Nat)
    (side : Side) : After V :=
  if m.isIdle t ∧ (m.lock side).holder = none then
    some (m.setHolder side (some t), [])
  else
    none

/- An idle thread releases a lock that it holds. -/
def release
    (m : Machine V)
    (t : Nat)
    (side : Side) : After V :=
  if m.isIdle t ∧ m.holds t side then
    some (m.setHolder side none, [])
  else
    none

/- An idle thread sets the value behind a lock it holds. -/
def write
    (m : Machine V)
    (t : Nat)
    (side : Side)
    (v : V) : After V :=
  if m.isIdle t ∧ m.holds t side then
    some (m.setValue side v, [.wrote])
  else
    none

/- A thread takes the next turn of its call. -/
def turn
    (m : Machine V)
    (t : Nat)
    (side : Side) :
    Turn V → Machine V × List Fact
| .block a => (m.setPhase t (.entering side a), [])
| .judge a => (m.setPhase t (.judging side a), [])
| .finish e => (m.setPhase t .idle, [.finished e])

/- An idle thread begins a wait with a lock that it holds. -/
def call
    (m : Machine V)
    (t : Nat)
    (side : Side)
    (c : Call V) : After V :=
  if m.isIdle t ∧ m.holds t side then
    some (m.turn t side c.begin)
  else
    none

/- An idle thread begins a signal: it reads the cohort. -/
def signal
    (m : Machine V)
    (t : Nat) : After V :=
  if m.isIdle t then
    some (m.setPhase t (.signaling m.current), [])
  else
    none

/- An idle thread begins an interrupt. -/
def interrupt
    (m : Machine V)
    (t : Nat) : After V :=
  if m.isIdle t then
    some (m.setPhase t .locking, [])
  else
    none

/-
  An idle thread begins an interrupt with a lock that it
  holds.  That must be the bound one.
-/
def interruptHeld
    (m : Machine V)
    (t : Nat)
    (side : Side) : After V :=
  if m.isIdle t ∧ m.holds t side then
    match side with
    | .bound => some (m.setPhase t (.closing false), [])
    | .foreign => some (m, [.finished (.misused .foreignLock)])
  else
    none

------------------------------------------------------------
-- Waiting
------------------------------------------------------------

/- The condition of a call is evaluated. -/
def judge
    (m : Machine V)
    (t : Nat)
    (side : Side)
    (a : Attempt V) : Machine V × List Fact :=
  let (next, v) := a.judge (m.lock side).value
  let (m', facts) := (m.setValue side v).turn t side next
  (m', .judged :: facts)

/-
  A thread that is to block registers with the current
  cohort, after making sure of the lock it was handed.
-/
def enter
    (m : Machine V)
    (t : Nat)
    (side : Side)
    (a : Attempt V) : Machine V × List Fact :=
  match side with
  | .foreign =>
      (m.setPhase t .idle, [.finished (.misused .foreignLock)])
  | .bound =>
      let g := m.current
      ((m.setCohort g (m.cohort g).enroll).setPhase t
        (.ticketed a g), [])

/- A registered thread is counted, or refused. -/
def count
    (m : Machine V)
    (t : Nat)
    (a : Attempt V)
    (g : Nat) : Machine V × List Fact :=
  match m.tally.add with
  | (tally, none) =>
      ({ m with tally := tally }.setPhase t (.enrolled a g),
        [.registered (m.cohort g).epoch])
  | (tally, some misuse) =>
      ({ m with tally := tally }.setPhase t
        (.withdrawing g misuse), [])

/- A thread that was refused takes its registration back. -/
def withdraw
    (m : Machine V)
    (t : Nat)
    (g : Nat)
    (misuse : Misuse) : Machine V × List Fact :=
  ((m.setCohort g (m.cohort g).withdraw).setPhase t .idle,
    [.finished (.misused misuse)])

/- A thread releases the lock in order to block. -/
def depart
    (m : Machine V)
    (t : Nat)
    (a : Attempt V)
    (g : Nat) : Machine V × List Fact :=
  ((m.setHolder .bound none).setPhase t (.departed a g),
    [.departed (m.cohort g).epoch])

/-
  A thread reads the clock.  Only a wait without a limit is
  watched for stalls, and a limit beyond the clock's range is
  no deadline.
-/
def start
    (m : Machine V)
    (a : Attempt V) : Vigil :=
  match a.budget with
  | none => .start none m.settings.stallPeriod? m.clock
  | some d => .start (m.clock.after? d) none m.clock

/- A thread begins its vigil. -/
def watch
    (m : Machine V)
    (t : Nat)
    (a : Attempt V)
    (g : Nat) : Machine V × List Fact :=
  (m.setPhase t (.watching a g (m.start a)), [])

/- A thread looks at its cohort: it has an outcome or parks. -/
def look
    (m : Machine V)
    (t : Nat)
    (a : Attempt V)
    (g : Nat)
    (v : Vigil) : Machine V × List Fact :=
  let c := m.cohort g
  match v.look (c.sighting m.clock) with
  | .settle o =>
      ((m.setCohort g (c.settle o)).setPhase t
        (.settled a g v o), [.settled c.epoch o])
  | .park v' wakeAt stalled =>
      (m.setPhase t (.parked a g v' wakeAt),
        (stalled.map (Fact.stalled c.epoch)).toList ++
          [.parked c.epoch wakeAt])

/- A thread works out the time that blocking has left it. -/
def measure
    (m : Machine V)
    (t : Nat)
    (a : Attempt V)
    (g : Nat)
    (v : Vigil)
    (o : Outcome) : Machine V × List Fact :=
  (m.setPhase t
    (.returning a g o (a.left (m.clock.since v.started) o)),
    [])

/- A thread that has blocked takes the lock when it is free. -/
def regain
    (m : Machine V)
    (t : Nat)
    (a : Attempt V)
    (g : Nat)
    (o : Outcome)
    (left : Option Duration) : After V :=
  if m.bound.holder = none then
    some
      ((m.setHolder .bound (some t)).setPhase t
        (.regained a g o left),
        [.regained (m.cohort g).epoch o])
  else
    none

/-
  A thread that has the lock again is counted out, and its
  call goes on.
-/
def resume
    (m : Machine V)
    (t : Nat)
    (a : Attempt V)
    (g : Nat)
    (o : Outcome)
    (left : Option Duration) : Machine V × List Fact :=
  let returned := Fact.returned (m.cohort g).epoch o left
  match m.tally.remove with
  | (tally, none) =>
      let (m', facts) :=
        { m with tally := tally }.turn t .bound (a.resume o left)
      (m', returned :: facts)
  | (tally, some misuse) =>
      ({ m with tally := tally }.setPhase t .idle,
        [returned, .finished (.misused misuse)])

------------------------------------------------------------
-- Signaling
------------------------------------------------------------

/- A signal posts to the cohort that it has read. -/
def post
    (m : Machine V)
    (t : Nat)
    (g : Nat) : Machine V × List Fact :=
  let c := m.cohort g
  match c.post with
  | (_, .nobody) =>
      (m.setPhase t .idle,
        [.posted c.epoch .nobody, .signaled .nobody])
  | (c', .woken n) =>
      ((m.setCohort g c').setPhase t (.announcing g),
        [.posted c.epoch (.woken n)])

/-
  A signal that has left a permit wakes one thread that is
  parked on the cohort, any one, if there is one.
-/
def notify
    (m : Machine V)
    (t : Nat)
    (target : Option Nat) : After V :=
  match m.threads[t]? with
  | some (.announcing g) =>
      match target with
      | none =>
          if m.hasParked g then
            none
          else
            some (m.setPhase t .idle, [.signaled (.woken 1)])
      | some w =>
          match m.threads[w]? with
          | some ph =>
              if ph.isParkedOn g then
                some
                  ((m.setPhase w (ph.wake g)).setPhase t .idle,
                    [.signaled (.woken 1)])
              else
                none
          | none => none
  | _ => none

------------------------------------------------------------
-- Interrupting
------------------------------------------------------------

/- An interrupt takes the lock when it is free. -/
def takeLock
    (m : Machine V)
    (t : Nat) : After V :=
  if m.bound.holder = none then
    some
      ((m.setHolder .bound (some t)).setPhase t
        (.closing true), [])
  else
    none

/- An interrupt closes the current cohort. -/
def close
    (m : Machine V)
    (t : Nat)
    (taken : Bool) : Machine V × List Fact :=
  let g := m.current
  let c := m.cohort g
  if c.closed then
    (m.setPhase t (.renewing taken g .nobody),
      [.closed c.epoch .nobody])
  else
    let (c', r) := c.close
    ((m.setCohort g c').setPhase t (.rousing taken g r),
      [.closed c.epoch r])

/- An interrupt wakes all threads parked on the cohort. -/
def rouse
    (m : Machine V)
    (t : Nat)
    (taken : Bool)
    (g : Nat)
    (r : WakeReport) : Machine V × List Fact :=
  ({ m with threads := m.threads.map (Phase.wake g) }.setPhase
    t (.renewing taken g r), [])

/-
  An interrupt replaces the cohort that it has closed by the
  cohort of the next epoch, and releases the lock if it took
  it.
-/
def renew
    (m : Machine V)
    (t : Nat)
    (taken : Bool)
    (g : Nat)
    (r : WakeReport) : Machine V × List Fact :=
  let epoch := (m.cohort g).epoch
  let m' : Machine V :=
    { m with
      cohorts := m.cohorts ++ [.fresh (epoch + 1)]
      current := m.cohorts.length }
  let m'' := if taken then m'.setHolder .bound none else m'
  (m''.setPhase t .idle, [.interrupted epoch r])

------------------------------------------------------------
-- Steps
------------------------------------------------------------

/- The next step of a thread that is inside a call. -/
def advance
    (m : Machine V)
    (t : Nat) : After V :=
  match m.threads[t]? with
  | none => none
  | some .idle => none
  | some (.judging side a) => some (m.judge t side a)
  | some (.entering side a) => some (m.enter t side a)
  | some (.ticketed a g) => some (m.count t a g)
  | some (.withdrawing g misuse) =>
      some (m.withdraw t g misuse)
  | some (.enrolled a g) => some (m.depart t a g)
  | some (.departed a g) => some (m.watch t a g)
  | some (.watching a g v) => some (m.look t a g v)
  | some (.parked _ _ _ _) => none
  | some (.settled a g v o) => some (m.measure t a g v o)
  | some (.returning a g o left) => m.regain t a g o left
  | some (.regained a g o left) => some (m.resume t a g o left)
  | some (.signaling g) => some (m.post t g)
  | some (.announcing _) => none
  | some .locking => m.takeLock t
  | some (.closing taken) => some (m.close t taken)
  | some (.rousing taken g r) => some (m.rouse t taken g r)
  | some (.renewing taken g r) => some (m.renew t taken g r)

/- A parked thread wakes when its time has come. -/
def expire
    (m : Machine V)
    (t : Nat) : After V :=
  match m.threads[t]? with
  | some (.parked a g v (some wakeAt)) =>
      if wakeAt ≤ m.clock then
        some (m.setPhase t (.watching a g v), [])
      else
        none
  | _ => none

/- The facts of a step, as notes on a thread. -/
def noted
    (time : Instant)
    (t : Nat) :
    After V → Option (Machine V × List Note)
| none => none
| some (m, facts) => some (m, facts.map (Note.mk t time))

/- Follow a label, if it can be followed. -/
def step
    (m : Machine V) :
    Label V → Option (Machine V × List Note)
| .join =>
    some ({ m with threads := m.threads ++ [.idle] }, [])
| .tick d =>
    (m.clock.after? d).map
      (fun now => ({ m with clock := now }, []))
| .acquire t side => noted m.clock t (m.acquire t side)
| .release t side => noted m.clock t (m.release t side)
| .write t side v => noted m.clock t (m.write t side v)
| .call t side c => noted m.clock t (m.call t side c)
| .signal t => noted m.clock t (m.signal t)
| .interrupt t => noted m.clock t (m.interrupt t)
| .interruptHeld t side =>
    noted m.clock t (m.interruptHeld t side)
| .advance t => noted m.clock t (m.advance t)
| .notify t target => noted m.clock t (m.notify t target)
| .expire t => noted m.clock t (m.expire t)

/- Follow labels one after the other. -/
def run
    (m : Machine V) :
    List (Label V) → Option (Machine V × List Note)
| [] => some (m, [])
| l :: ls => do
    let (m', ns) ← m.step l
    let (m'', ns') ← run m' ls
    pure (m'', ns ++ ns')

/-
  A machine reaches another by steps in any order, with the
  notes of these steps as its history.
-/
inductive Reaches (m : Machine V) :
    List Note → Machine V → Prop where
| refl : Reaches m [] m
| step {m' m'' : Machine V} {ns ns' : List Note}
    {l : Label V} :
    Reaches m ns m' → m'.step l = some (m'', ns') →
      Reaches m (ns ++ ns') m''

end Machine

end CondVar
