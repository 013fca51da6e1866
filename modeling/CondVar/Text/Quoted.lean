import CondVar.Text.Unprintable

/-
  Quoted text: double quotes around the characters, with a
  backslash before what could not stand for itself.

  Key definitions include:
    * `Text.escaped`
    * `Text.quoted`
-/

namespace CondVar

namespace Text

------------------------------------------------------------
-- Quoting
------------------------------------------------------------

/- A code point in hexadecimal digits, without padding. -/
def codePoint (c : Char) : String :=
  "\\u\x7b" ++ String.ofList (Nat.toDigits 16 c.toNat) ++ "\x7d"

/-
  One character inside quotes.  Quote and backslash get a
  backslash, five controls have letters of their own or a
  zero, what cannot be seen is written by its code point,
  and the rest stands for itself.
-/
def escaped (c : Char) : String :=
  if c = '"' then "\\\""
  else if c = '\\' then "\\\\"
  else if c = '\n' then "\\n"
  else if c = '\r' then "\\r"
  else if c = '\t' then "\\t"
  else if c = '\x00' then "\\0"
  else if isUnprintable c then codePoint c
  else c.toString

/- A text between quotes. -/
def quoted (s : String) : String :=
  "\"" ++ String.join (s.toList.map escaped) ++ "\""

end Text

end CondVar
