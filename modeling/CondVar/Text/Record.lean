/-
  Written values: a record with named fields, a value that
  may be absent, and a value with one argument.

  Key definitions include:
    * `Text.record`
    * `Text.optional`
    * `Text.applied`
-/

namespace CondVar

namespace Text

------------------------------------------------------------
-- Written Values
------------------------------------------------------------

/- A record is its name and its fields between braces. -/
def record
    (name : String)
    (fields : List (String × String)) : String :=
  let body := fields.map (fun f => f.1 ++ ": " ++ f.2)
  name ++ " \x7b " ++ ", ".intercalate body ++ " \x7d"

/- A value with its one argument in parentheses. -/
def applied
    (name : String)
    (argument : String) : String :=
  name ++ "(" ++ argument ++ ")"

/- A value that may be absent. -/
def optional : Option String → String
| none => "None"
| some s => applied "Some" s

end Text

end CondVar
