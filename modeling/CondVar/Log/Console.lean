import CondVar.Log.Filter
import CondVar.Log.Line

/-
  The backend of a process that logs to its console.

  Its filters are made of directives, and its state is the
  subscriber that was installed first.  It is one backend of
  many: a log relies on no more of it than the laws.

  Key definitions include:
    * `Console.read`
    * `Console.install`
    * `Console.emit`
    * `Console.backend`
-/

namespace CondVar

------------------------------------------------------------
-- Subscribers
------------------------------------------------------------

/- What shows events: a filter, and the style of its lines. -/
structure Subscriber where
  filter : Filter
  style : Style
deriving DecidableEq

namespace Console

/-
  Read a filter.  A directive that is malformed is refused,
  as is a missing text; one that splits a character ends the
  process.
-/
def read : Option String → FilterReading Filter
| none => .refused
| some s =>
    match Filter.parse s with
    | .ok f => .read f
    | .error .malformed => .refused
    | .error .splitCharacter => .fatal

/- The first subscriber stays. -/
def install
    (f : Filter)
    (style : Style) :
    Option Subscriber → Bool × Option Subscriber
| none => (true, some ⟨f, style⟩)
| some s => (false, some s)

/- The line of an event, if it is shown. -/
def emit
    (s : Option Subscriber)
    (e : Event) : List Line :=
  match s with
  | none => []
  | some s =>
      if s.filter.admits e then
        [.ofEvent s.style e]
      else
        []

------------------------------------------------------------
-- The Backend
------------------------------------------------------------

/- The backend that processes are run with. -/
def backend : Backend where
  Filter := Filter
  read := read
  named := Filter.named
  admits := Filter.admits
  State := Option Subscriber
  start := none
  isSet := Option.isSome
  install := install
  Line := Line
  render := Line.ofEvent
  emit := emit
  target := Line.target
  isJson := Line.isJson
  saysJson := Line.saysJson

instance : DecidableEq backend.Line :=
  inferInstanceAs (DecidableEq Line)

end Console

end CondVar
