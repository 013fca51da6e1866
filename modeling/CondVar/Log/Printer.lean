import CondVar.Limits
import CondVar.Log.Backend

/-
  Printing the log of a process.

  The log of a process is set up from its environment: which
  events are shown, and in which style.  It says so itself in
  its first event.  To set it up again changes nothing, and
  before it is set up nothing is printed.  To read the filter
  can end the process.

  Key definitions include:
    * `Environment`
    * `Environment.filter?`
    * `Printer`
    * `Printer.setUp`
    * `Printer.print`

  What filters are, and how lines look, is up to a backend.
-/

namespace CondVar

------------------------------------------------------------
-- Environments
------------------------------------------------------------

/-
  The two variables that matter: directives for the filter,
  and the request for JSON.
-/
structure Environment where
  directives : Option String
  json : Option String
deriving DecidableEq

namespace Environment

/- JSON is requested by one of two words, and no other. -/
def wantsJson (env : Environment) : Bool :=
  env.json = some "1" || env.json = some "true"

/- The style that is requested. -/
def style (env : Environment) : Style :=
  if env.wantsJson then .json else .compact

/-
  The filter in force.  The one for information takes the
  place of one that is refused; where the process ends there
  is none.
-/
def filter?
    (env : Environment)
    (b : Backend) : Option b.Filter :=
  match b.read env.directives with
  | .read f => some f
  | .refused => some (b.named "info")
  | .fatal => none

end Environment

------------------------------------------------------------
-- Printers
------------------------------------------------------------

/-
  The state of the backend, unless the process has ended, and
  the lines that were printed.
-/
structure Printer (b : Backend) where
  state : Option b.State
  lines : List b.Line

namespace Printer

variable {b : Backend}

/- Nothing is set up, and nothing printed. -/
def fresh : Printer b :=
  ⟨some b.start, []⟩

/- The event with which a log begins. -/
def greeting (env : Environment) : Event :=
  ⟨.info, "timeout_cond::monitoring::tracer",
    "Structured tracing initialized",
    [("json", .flag env.wantsJson)]⟩

/- Print an event, as the backend emits it. -/
def print
    (p : Printer b)
    (e : Event) : Printer b :=
  match p.state with
  | none => p
  | some s => { p with lines := p.lines ++ b.emit s e }

/- Print events in order. -/
def printAll
    (p : Printer b)
    (es : List Event) : Printer b :=
  es.foldl print p

/-
  Set the log up: read the filter, install a subscriber with
  it, and say so unless that is refused.
-/
def setUp
    (p : Printer b)
    (env : Environment) : Printer b :=
  match p.state, env.filter? b with
  | none, _ => p
  | some _, none => { p with state := none }
  | some s, some f =>
      let installed := b.install f env.style s
      let p' := { p with state := some installed.2 }
      if installed.1 then p'.print (greeting env) else p'

/- Set the log up several times. -/
def setUpTimes
    (env : Environment) : Nat → Printer b → Printer b
| 0, p => p
| n + 1, p => setUpTimes env n (p.setUp env)

end Printer

end CondVar
