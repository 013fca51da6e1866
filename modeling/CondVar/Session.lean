import CondVar.Log.Console
import CondVar.Log.Printer
import CondVar.Stage.Move

/-
  The log of a process that sets it up any number of times
  and uses a condition variable on its own.

  Key definitions include:
    * `Deed`
    * `Session.events`
    * `Backend.completes`
    * `Backend.lines`
    * `Session.completes`
    * `Session.lines`
-/

namespace CondVar

------------------------------------------------------------
-- Deeds
------------------------------------------------------------

/-
  What the process does with its condition variable: it
  signals, it interrupts, or it waits for no time at all.
-/
inductive Deed where
| signal : Deed
| interrupt : Deed
| wait : Deed
deriving DecidableEq

/- A deed as a conductor's move. -/
def Deed.move : Deed → Move
| .signal => .signal
| .interrupt => .interrupt
| .wait => .call .bound (.waitFor .zero)

/- The events of deeds that are done one after the other. -/
def Session.events
    (s : Stage) : List Deed → List Event
| [] => []
| d :: ds =>
    let (s', _) := s.turnPage.act d.move
    chronicle s.machine.settings.label s'.history ++
      events s' ds

------------------------------------------------------------
-- Sessions with a Backend
------------------------------------------------------------

namespace Backend

variable (b : Backend)

/- The log as the process sets it up. -/
def printer
    (env : Environment)
    (calls : Nat) : Printer b :=
  Printer.setUpTimes env calls .fresh

/- Whether the process comes to its end. -/
def completes
    (env : Environment)
    (calls : Nat) : Bool :=
  (b.printer env calls).state.isSome

/- The lines that the process prints. -/
def lines
    (env : Environment)
    (calls : Nat)
    (label : String)
    (deeds : List Deed) : List b.Line :=
  let s := Stage.fresh (Settings.standard.withLabel label) 0
  ((b.printer env calls).printAll
    (Session.events s deeds)).lines

end Backend

------------------------------------------------------------
-- Sessions at the Console
------------------------------------------------------------

namespace Session

/- Whether a process with a console comes to its end. -/
def completes
    (env : Environment)
    (calls : Nat) : Bool :=
  Console.backend.completes env calls

/- The lines that it prints. -/
def lines
    (env : Environment)
    (calls : Nat)
    (label : String)
    (deeds : List Deed) : List Line :=
  Console.backend.lines env calls label deeds

end Session

end CondVar
