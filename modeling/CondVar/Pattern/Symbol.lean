import CondVar.Pattern
import CondVar.Text.Blank

/-
  Reading the symbols of a pattern that begin with a
  backslash, and what may stand between the parts of a
  pattern in verbose mode.

  Key definitions include:
    * `Modes.skip`
    * `Symbol.escape?`
-/

namespace CondVar

------------------------------------------------------------
-- Blanks and Comments
------------------------------------------------------------

namespace Modes

/-
  Pass blanks, and comments, each from a number sign to the
  end of its line.
-/
def passBlanks
    (inComment : Bool) : List Char → List Char
| [] => []
| c :: rest =>
    if inComment then passBlanks (c ≠ '\n') rest
    else if Text.isBlank c then passBlanks false rest
    else if c = '#' then passBlanks true rest
    else c :: rest

/- In verbose mode blanks and comments do not count. -/
def skip
    (modes : Modes)
    (s : List Char) : List Char :=
  if modes.verbose then passBlanks false s else s

end Modes

------------------------------------------------------------
-- Symbols with a Backslash
------------------------------------------------------------

namespace Symbol

/- The value of a hexadecimal digit. -/
def hexDigit? (c : Char) : Option Nat :=
  let n := c.toNat
  if c.isDigit then some (n - '0'.toNat)
  else if 'a' ≤ c ∧ c ≤ 'f' then some (n - 'a'.toNat + 10)
  else if 'A' ≤ c ∧ c ≤ 'F' then some (n - 'A'.toNat + 10)
  else none

/-
  The number of some hexadecimal digits behind those that
  were read, and what follows them.
-/
def hexNumber?
    (modes : Modes) :
    Nat → Nat → List Char → Option (Nat × List Char)
| 0, value, s => some (value, s)
| digits + 1, value, s =>
    match modes.skip s with
    | [] => none
    | c :: rest => do
        let digit ← hexDigit? c
        hexNumber? modes digits (16 * value + digit) rest

/- How many digits the code of a character has. -/
def codeLength? (c : Char) : Option Nat :=
  [('x', 2), ('u', 4), ('U', 8)].lookup c

/- The control characters that have a letter. -/
def control? (c : Char) : Option Char :=
  [('a', '\x07'), ('f', '\x0c'), ('t', '\t'), ('n', '\n'),
    ('r', '\r'), ('v', '\x0b')].lookup c

/- The symbols that are a letter or an angle bracket. -/
def letter? (c : Char) : Option Symbol :=
  if c ∈ ['d', 's', 'w'] then some (.shorthand false)
  else if c ∈ ['D', 'S', 'W'] then some (.shorthand true)
  else if c ∈ ['A', 'z'] then some .place
  else if c ∈ ['b', 'B', '<', '>'] then some .wordEdge
  else (control? c).map (fun k => .literal (.plain k))

/-
  The symbol behind a backslash, and what follows it: a code,
  a letter with a meaning, or a character that is neither a
  letter nor a digit and stands for itself.
-/
def escape?
    (modes : Modes) :
    List Char → Option (Symbol × List Char)
| [] => none
| c :: rest =>
    match codeLength? c with
    | some digits => do
        let (value, rest') ← hexNumber? modes digits 0 rest
        if value.isValidChar then
          some (.literal ⟨Char.ofNat value, c = 'x'⟩, rest')
        else
          none
    | none =>
        match letter? c with
        | some s => some (s, rest)
        | none =>
            if c.toNat < 0x80 ∧ ¬ c.isAlphanum then
              some (.literal (.plain c), rest)
            else
              none

end Symbol

end CondVar
