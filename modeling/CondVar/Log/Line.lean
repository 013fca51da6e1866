import CondVar.Log.Backend
import CondVar.Text.Quoted

/-
  Lines of a console: an event in its compact form, for
  people, or as a record, for programs.

  Key definitions include:
    * `Line`
    * `Line.ofEvent`
    * `Line.target`, `Line.isJson`, `Line.saysJson`

  Times and numbers of threads belong to a log's surroundings
  and are left out.
-/

namespace CondVar

------------------------------------------------------------
-- Lines
------------------------------------------------------------

/- A line is a text after its heading, or a record. -/
inductive Line where
| compact (level : Level) (target : String)
    (text : String) : Line
| json (level : Level) (target : String)
    (fields : List (String × FieldValue)) : Line
deriving DecidableEq

/- A field's value in a compact line. -/
def FieldValue.plain : FieldValue → String
| .text s => Text.quoted s
| .shown s => s
| .number n => toString n
| .flag b => if b then "true" else "false"

/- The message of an event, and its fields behind it. -/
def Event.compactText (e : Event) : String :=
  e.message ++ String.join
    (e.fields.map (fun f => " " ++ f.1 ++ "=" ++ f.2.plain))

namespace Line

/- The line of an event, in one of the two styles. -/
def ofEvent
    (style : Style)
    (e : Event) : Line :=
  match style with
  | .compact => .compact e.level e.target e.compactText
  | .json =>
      .json e.level e.target
        (("message", .text e.message) :: e.fields)

/- Where the event of a line comes from. -/
def target : Line → String
| .compact _ t _ => t
| .json _ t _ => t

/- Whether a line is a record. -/
def isJson : Line → Bool
| .compact _ _ _ => false
| .json _ _ _ => true

/- Whether a line says that its field `json` is set. -/
def saysJson : Line → Bool
| .compact _ _ text =>
    " json=true".toList <:+ text.toList
| .json _ _ fields => ("json", .flag true) ∈ fields

end Line

end CondVar
