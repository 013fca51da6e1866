/-
  Log events: a level, where the event comes from, a message,
  and named fields in order.

  Key definitions include:
    * `Level`
    * `FieldValue`
    * `Event`
-/

namespace CondVar

------------------------------------------------------------
-- Levels
------------------------------------------------------------

/- How important an event is, the most important first. -/
inductive Level where
| error : Level
| warn : Level
| info : Level
| debug : Level
| trace : Level
deriving DecidableEq

namespace Level

/- The number of a level, from one for the most important. -/
def rank : Level → Nat
| .error => 1
| .warn => 2
| .info => 3
| .debug => 4
| .trace => 5

/- The written form of a level. -/
def text : Level → String
| .error => "ERROR"
| .warn => "WARN"
| .info => "INFO"
| .debug => "DEBUG"
| .trace => "TRACE"

end Level

------------------------------------------------------------
-- Events
------------------------------------------------------------

/-
  The value of a field: a text, which is quoted where that
  matters, a value in its written form, a number, or a flag.
-/
inductive FieldValue where
| text (s : String) : FieldValue
| shown (s : String) : FieldValue
| number (n : Nat) : FieldValue
| flag (b : Bool) : FieldValue
deriving DecidableEq

/- A log event. -/
structure Event where
  level : Level
  target : String
  message : String
  fields : List (String × FieldValue)
deriving DecidableEq

end CondVar
