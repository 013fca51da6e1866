/-
  Cutting a text at a number of bytes of its UTF-8 form.  No
  character can be cut in two.

  Key definitions include:
    * `Text.cutAt?`
    * `Text.between?`
-/

namespace CondVar

namespace Text

------------------------------------------------------------
-- Cuts
------------------------------------------------------------

/- The two parts of a text, the first of so many bytes. -/
def cutAt? :
    Nat → List Char → Option (List Char × List Char)
| 0, s => some ([], s)
| _ + 1, [] => none
| n + 1, c :: rest =>
    if c.utf8Size ≤ n + 1 then
      (cutAt? (n + 1 - c.utf8Size) rest).map
        (fun (before, after) => (c :: before, after))
    else
      none

/- The part of a text between two numbers of bytes. -/
def between?
    (start : Nat)
    (stop : Nat)
    (s : List Char) : Option (List Char) := do
  let (before, _) ← cutAt? stop s
  let (_, part) ← cutAt? start before
  pure part

end Text

end CondVar
