import CondVar.Text.Alphabetic
import CondVar.Text.Numeric

/-
  Letters and numbers together.

  Key definitions include:
    * `Text.isAlphanumeric`
-/

namespace CondVar

namespace Text

------------------------------------------------------------
-- Letters and Numbers
------------------------------------------------------------

/- Whether a character is a letter or a number. -/
def isAlphanumeric (c : Char) : Bool :=
  isAlphabetic c || isNumeric c

end Text

end CondVar
