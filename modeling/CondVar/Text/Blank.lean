import CondVar.Text.Ranges

/-
  Blanks: the characters with the property White_Space.

  Key definitions include:
    * `Text.blankRanges`
    * `Text.isBlank`
-/

namespace CondVar

namespace Text

------------------------------------------------------------
-- Code Points
------------------------------------------------------------

/- First and last code point of each range, in order. -/
def blankRanges : List (Nat × Nat) :=
  [
  (0x9, 0xd), (0x20, 0x20), (0x85, 0x85), (0xa0, 0xa0),
  (0x1680, 0x1680), (0x2000, 0x200a), (0x2028, 0x2029),
  (0x202f, 0x202f), (0x205f, 0x205f), (0x3000, 0x3000)
  ]

/- Whether a character is a blank. -/
def isBlank (c : Char) : Bool :=
  covers blankRanges c.toNat

end Text

end CondVar
