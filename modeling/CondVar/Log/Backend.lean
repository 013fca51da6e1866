import CondVar.Log.Event

/-
  What the log of a process is printed with.

  Filters are read, subscribers installed and lines written
  by a library of their own, of which the log knows no more
  than the operations.  A backend is anything that has these,
  and it is lawful if it does what the log relies on.

  Key definitions include:
    * `Style`
    * `FilterReading`
    * `Backend`
    * `Backend.Lawful`
-/

namespace CondVar

------------------------------------------------------------
-- Backends
------------------------------------------------------------

/- For people, or for programs. -/
inductive Style where
| compact : Style
| json : Style
deriving DecidableEq

/-
  What comes of reading a filter: there is one, or the text
  is refused, or the process ends over it.
-/
inductive FilterReading (F : Type) where
| read (f : F) : FilterReading F
| refused : FilterReading F
| fatal : FilterReading F
deriving DecidableEq

/-
  Filters are read from the text of a variable, which can be
  missing, or they have a name, and they decide on events.

  The state says whether a subscriber is set for the process.
  To install one can fail, and an event that is emitted makes
  lines, which look as their style wants it.

  Of a line one can see the target, whether it is a record,
  and whether it says that its field `json` is set.
-/
structure Backend where
  Filter : Type
  read : Option String → FilterReading Filter
  named : String → Filter
  admits : Filter → Event → Bool
  State : Type
  start : State
  isSet : State → Bool
  install : Filter → Style → State → Bool × State
  Line : Type
  render : Style → Event → Line
  emit : State → Event → List Line
  target : Line → String
  isJson : Line → Bool
  saysJson : Line → Bool

namespace Backend

------------------------------------------------------------
-- Laws
------------------------------------------------------------

/-
  What the log relies on.

  At the start no subscriber is set.  One is installed if
  none is set, and then one is; otherwise it is refused, and
  all stays as it is.

  Without a subscriber an event makes no line.  With one it
  makes a line of the style that was installed, if the filter
  admits it, and none otherwise.

  A line shows the target of its event, it is a record in the
  one style only, and it shows the value of a single field.
-/
structure Lawful (b : Backend) : Prop where
  isSet_start : b.isSet b.start = false
  accepts_iff : ∀ f style s,
    (b.install f style s).1 = true ↔ b.isSet s = false
  isSet_install : ∀ f style s,
    b.isSet s = false →
      b.isSet (b.install f style s).2 = true
  install_of_isSet : ∀ f style s,
    b.isSet s = true → (b.install f style s).2 = s
  emit_of_not_isSet : ∀ s e,
    b.isSet s = false → b.emit s e = []
  emit_install : ∀ f style s e,
    b.isSet s = false →
      b.emit (b.install f style s).2 e =
        if b.admits f e then [b.render style e] else []
  target_render : ∀ style e,
    b.target (b.render style e) = e.target
  isJson_render : ∀ style e,
    b.isJson (b.render style e) = true ↔ style = .json
  saysJson_render : ∀ style e v,
    e.fields = [("json", .flag v)] →
      b.saysJson (b.render style e) = v

/- Whether level and target of an event alone decide on it. -/
def DecidesByOrigin
    (b : Backend)
    (f : b.Filter) : Prop :=
  ∀ e e' : Event,
    e.level = e'.level → e.target = e'.target →
      b.admits f e = b.admits f e'

end Backend

end CondVar
