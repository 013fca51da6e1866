import CondVar.Tally.Turnstile

/-
  The single calls at a turnstile.

  Any number of threads count themselves in and out, each call
  in one step, so that the calls of all threads come one after
  the other.  A call reports whether it was refused.  A pass is
  handed out by an entry that is counted, and then given back
  or lost, once.

  Key definitions include:
    * `Passage`
    * `Passage.count`
    * `Tally.after`
    * `Tally.reports`
    * `Turnstile.take?`
    * `Turnstile.takeAll?`
-/

namespace CondVar

------------------------------------------------------------
-- Single Calls
------------------------------------------------------------

/-
  `add` and `remove` count in and out without a pass.  `enter`
  counts in and gets a pass.  `leave` gives a pass back, which
  counts out, and `lose` loses it.
-/
inductive Passage where
| add : Passage
| remove : Passage
| enter : Passage
| leave (pass : Nat) : Passage
| lose (pass : Nat) : Passage
deriving DecidableEq

namespace Passage

/- Whether a call counts somebody in. -/
def isEntry : Passage → Bool
| .add => true
| .enter => true
| _ => false

/- Whether a call counts somebody out. -/
def isExit : Passage → Bool
| .remove => true
| .leave _ => true
| _ => false

/- Whether a call uses up a pass. -/
def spendsPass : Passage → Bool
| .leave _ => true
| .lose _ => true
| _ => false

/- What a call makes of a tally, and its report. -/
def count
    (p : Passage)
    (t : Tally) : Tally × Option Misuse :=
  match p with
  | .add => t.add
  | .remove => t.remove
  | .enter => t.add
  | .leave _ => t.remove
  | .lose _ => (t, none)

/- How many of a series of calls count somebody in. -/
def entries (ps : List Passage) : Nat :=
  ps.countP isEntry

/- How many of a series of calls count somebody out. -/
def exits (ps : List Passage) : Nat :=
  ps.countP isExit

end Passage

------------------------------------------------------------
-- Series of Calls
------------------------------------------------------------

namespace Tally

/- What a series of calls makes of a tally. -/
def after
    (t : Tally) : List Passage → Tally
| [] => t
| p :: ps => after (p.count t).1 ps

/- The reports of a series of calls, in order. -/
def reports
    (t : Tally) : List Passage → List (Option Misuse)
| [] => []
| p :: ps => (p.count t).2 :: reports (p.count t).1 ps

end Tally

namespace Turnstile

/-
  The passes after a call with this report.  A pass can be
  used up only while it is held.
-/
def passes?
    (s : Turnstile)
    (report : Option Misuse) :
    Passage → Option (List Bool)
| .add => some s.held
| .remove => some s.held
| .enter =>
    some (if report = none then s.held ++ [true] else s.held)
| .leave i =>
    if s.holds i then some (s.held.set i false) else none
| .lose i =>
    if s.holds i then some (s.held.set i false) else none

/- Make a call, if it can be made. -/
def take?
    (s : Turnstile)
    (p : Passage) : Option (Turnstile × Option Misuse) :=
  let (t, report) := p.count s.tally
  (s.passes? report p).map (fun held => (⟨t, held⟩, report))

/- Make calls one after the other, and keep their reports. -/
def takeAll?
    (s : Turnstile) :
    List Passage → Option (Turnstile × List (Option Misuse))
| [] => some (s, [])
| p :: ps => do
    let (s', report) ← s.take? p
    let (s'', reports) ← takeAll? s' ps
    pure (s'', report :: reports)

end Turnstile

end CondVar
