import CondVar.Pattern.Draft

/-
  Tests of fields: the name that a field must have, and what
  its value must be.

  A value is given as a number or as a pattern.  Both are
  only checked here, since no event can pass the test for a
  value outside of a span.

  Key definitions include:
    * `FieldTest`
    * `FieldTest.isNumber`
    * `FieldTest.parse?`
-/

namespace CondVar

------------------------------------------------------------
-- Tests
------------------------------------------------------------

/- The test for a name, and for a value if one is given. -/
structure FieldTest where
  name : String
  value : Option String
deriving DecidableEq

namespace FieldTest

------------------------------------------------------------
-- Values
------------------------------------------------------------

/- A text without the sign before it. -/
def unsigned : List Char → List Char
| '+' :: rest => rest
| '-' :: rest => rest
| s => s

/- Whether a text has digits and nothing else. -/
def isDigits (s : List Char) : Bool :=
  !s.isEmpty && s.all Char.isDigit

/- Whether a text is nothing, or an exponent of ten. -/
def isExponent : List Char → Bool
| [] => true
| c :: rest => c ∈ ['e', 'E'] && isDigits (unsigned rest)

/- Digits, with or without a point before, in or after. -/
def isDecimal (s : List Char) : Bool :=
  let whole := s.takeWhile Char.isDigit
  match s.dropWhile Char.isDigit with
  | '.' :: rest =>
      let part := rest.takeWhile Char.isDigit
      isDigits (whole ++ part) &&
        isExponent (rest.dropWhile Char.isDigit)
  | rest => isDigits whole && isExponent rest

/- The names of what is no decimal, in any case. -/
def isNamedNumber (s : List Char) : Bool :=
  String.ofList (s.map Char.toLower) ∈
    ["inf", "infinity", "nan"]

/- Whether a value is a number. -/
def isNumber (s : List Char) : Bool :=
  isDecimal (unsigned s) || isNamedNumber (unsigned s)

/- Whether a value is a pattern that can be used. -/
def isPattern (s : List Char) : Bool :=
  (Pattern.parse? s).any Pattern.isUsable

------------------------------------------------------------
-- Reading
------------------------------------------------------------

/-
  The test that a text is: a name, and a value behind a sign
  of equality.  What follows another such sign is ignored.
-/
def parse? (s : List Char) : Option FieldTest :=
  match s.splitOn '=' with
  | name :: value :: _ =>
      if isNumber value ∨ isPattern value then
        some ⟨String.ofList name, some (String.ofList value)⟩
      else
        none
  | _ => some ⟨String.ofList s, none⟩

end FieldTest

end CondVar
