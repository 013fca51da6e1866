import CondVar.Machine.Step
import Mathlib.Data.Set.Defs

/-
  What clients can observe of a condition variable.

  Clients see what they ask for and what becomes of it, and
  the state that the threads share.  They do not see a waiter
  fall asleep and wake up, and warnings of stalls go to the
  log alone.  A step of which nothing is seen leaves no trace.

  Key definitions include:
    * `View`
    * `Moment`
    * `Program`
    * `Machine.Silent`
    * `Program.Shows`
    * `Program.histories`
-/

namespace CondVar

variable {V : Type}

------------------------------------------------------------
-- Moments
------------------------------------------------------------

/- The state that the threads share. -/
structure View (V : Type) where
  bound : Lock V
  foreign : Lock V
  cohorts : List Cohort
  current : Nat
  tally : Tally
  clock : Instant

/- What is shared in a machine. -/
def Machine.view (m : Machine V) : View V :=
  ⟨m.bound, m.foreign, m.cohorts, m.current, m.tally, m.clock⟩

/- Whether a fact is of more than sleep and warnings. -/
def Fact.isTold : Fact → Bool
| .stalled _ _ => false
| .parked _ _ => false
| _ => true

/- Whether a note is of more than sleep and warnings. -/
def Note.isTold (n : Note) : Bool :=
  n.fact.isTold

/- What is asked for by a label, unless a call goes on. -/
def Label.request? : Label V → Option (Label V)
| .advance _ => none
| .notify _ _ => none
| .expire _ => none
| l => some l

/-
  What is seen of a step: the request, if it is one, what the
  step tells, and what it leaves of the shared state.
-/
structure Moment (V : Type) where
  request : Option (Label V)
  told : List Note
  view : View V

/-
  The threads' program: what may be asked for next, after
  what has been seen.
-/
abbrev Program (V : Type) :=
  List (Moment V) → Label V → Prop

------------------------------------------------------------
-- Histories
------------------------------------------------------------

/- The moment of a step. -/
def Machine.moment
    (m' : Machine V)
    (l : Label V)
    (ns : List Note) : Moment V :=
  ⟨l.request?, ns.filter Note.isTold, m'.view⟩

/- Whether nothing is seen of a step. -/
def Machine.Silent
    (m m' : Machine V)
    (l : Label V)
    (ns : List Note) : Prop :=
  l.request? = none ∧ ns.filter Note.isTold = [] ∧
    m'.view = m.view

namespace Program

/-
  What a machine shows when it goes on in any order, asked by
  a program for what the program allows.
-/
inductive Shows
    (p : Program V)
    (m : Machine V) :
    List (Moment V) → Machine V → Prop where
| start : Shows p m [] m
| silent {m' m'' : Machine V} {h : List (Moment V)}
    {l : Label V} {ns : List Note} :
    Shows p m h m' → m'.step l = some (m'', ns) →
      m'.Silent m'' l ns → Shows p m h m''
| seen {m' m'' : Machine V} {h : List (Moment V)}
    {l : Label V} {ns : List Note} :
    Shows p m h m' → m'.step l = some (m'', ns) →
      ¬ m'.Silent m'' l ns →
      (∀ r, l.request? = some r → p h r) →
      Shows p m (h ++ [m''.moment l ns]) m''

/- The histories that a program can bring about. -/
def histories
    (p : Program V)
    (s : Settings)
    (value : V)
    (foreign : V) : Set (List (Moment V)) :=
  fun h => ∃ m, p.Shows (.fresh s value foreign) h m

end Program

------------------------------------------------------------
-- Calls
------------------------------------------------------------

/- The wait that a thread asks for by a label. -/
def Label.callOf?
    (t : Nat) : Label V → Option (Call V)
| .call u _ c => if u = t then some c else none
| _ => none

/- The wait that a thread has asked for last. -/
def lastCall
    (t : Nat)
    (h : List (Moment V)) : Option (Call V) :=
  (h.filterMap
    (fun x => x.request.bind (Label.callOf? t))).getLast?

end CondVar
