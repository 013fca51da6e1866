import CondVar.Pattern.CharSet
import CondVar.Text.Alphanumeric

/-
  Reading patterns.

  A pattern is read from left to right.  Each group in it has
  modes of its own, which end with it.

  Key definitions include:
    * `Modes.update`
    * `Draft`
    * `Draft.step`
    * `Pattern.parse?`
-/

namespace CondVar

------------------------------------------------------------
-- Changes of Modes
------------------------------------------------------------

namespace Modes

/-
  Whether a text changes modes: letters, each at most once,
  and perhaps a minus that is not at its end.
-/
def isChange (s : List Char) : Bool :=
  s.all (· ∈ ['i', 'm', 's', 'U', 'u', 'R', 'x', '-']) &&
    s.Nodup && s.getLast? ≠ some '-'

/-
  The modes after a change.  What a letter before the minus
  names is on, and what one after it names is off.
-/
def update
    (modes : Modes)
    (change : List Char) : Modes :=
  let on := change.takeWhile (· ≠ '-')
  let off := change.dropWhile (· ≠ '-')
  let set (c : Char) (old : Bool) : Bool :=
    c ∈ on || (old && c ∉ off)
  ⟨set 'u' modes.unicode, set 'i' modes.ignoreCase,
    set 'x' modes.verbose⟩

end Modes

------------------------------------------------------------
-- Drafts
------------------------------------------------------------

/-
  What was read in front of a group, and the modes there: its
  branches and the pieces of the last one, the last first.
-/
structure Front where
  modes : Modes
  branches : List (List Piece)
  pieces : List Piece

/-
  A pattern whose end was not read: what was read in the
  innermost group, what stands in front of each open group,
  and the names that groups have.
-/
structure Draft where
  inner : Front
  outer : List Front
  names : List (List Char)

namespace Draft

/- Nothing was read. -/
def blank : Draft :=
  ⟨⟨.standard, [], []⟩, [], []⟩

/- The modes that hold. -/
def modes (d : Draft) : Modes :=
  d.inner.modes

/- Add a piece. -/
def add
    (d : Draft)
    (p : Piece) : Draft :=
  { d with
    inner := { d.inner with pieces := p :: d.inner.pieces } }

/- Add a symbol. -/
def addSymbol
    (d : Draft)
    (s : Symbol) : Draft :=
  d.add (.symbol d.modes s)

/- Go on to the next branch. -/
def branch (d : Draft) : Draft :=
  { d with
    inner :=
      { d.inner with
        branches := d.inner.pieces.reverse :: d.inner.branches
        pieces := [] } }

/- The branches of the innermost group. -/
def branches (d : Draft) : List (List Piece) :=
  d.branch.inner.branches.reverse

/- Repeat the last piece, if there is one to repeat. -/
def repeat? (d : Draft) : Option Draft :=
  match d.inner.pieces with
  | [] => none
  | .change :: _ => none
  | p :: rest =>
      some { d with
        inner := { d.inner with pieces := .repeated p :: rest } }

/- Change the modes up to the end of the group. -/
def change
    (d : Draft)
    (s : List Char) : Draft :=
  let d' := d.add .change
  { d' with
    inner := { d'.inner with modes := d.modes.update s } }

/- Begin a group that changes the modes. -/
def openGroup
    (d : Draft)
    (s : List Char) : Draft :=
  { d with
    inner := ⟨d.modes.update s, [], []⟩
    outer := d.inner :: d.outer }

/- End the innermost group, if there is one. -/
def closeGroup? (d : Draft) : Option Draft :=
  match d.outer with
  | [] => none
  | front :: outer =>
      some (add { d with inner := front, outer := outer }
        (.group d.branches))

------------------------------------------------------------
-- Groups
------------------------------------------------------------

/- Whether a name of a group can begin with a character. -/
def beginsName (c : Char) : Bool :=
  c = '_' || Text.isAlphabetic c

/- Whether a name of a group can go on with a character. -/
def continuesName (c : Char) : Bool :=
  c ∈ ['_', '.', '[', ']'] || Text.isAlphanumeric c

/- Whether a text can be the name of a group. -/
def isName : List Char → Bool
| [] => false
| c :: rest => beginsName c && rest.all continuesName

/- Begin a group whose name ends with an angle bracket. -/
def openNamed?
    (d : Draft)
    (s : List Char) : Option (Draft × List Char) :=
  let name := s.takeWhile (· ≠ '>')
  match s.dropWhile (· ≠ '>') with
  | [] => none
  | _ :: rest =>
      if isName name ∧ name ∉ d.names then
        some ({ d.openGroup [] with names := name :: d.names },
          rest)
      else
        none

/- Change the modes, of a group or from here on. -/
def openChange?
    (d : Draft)
    (s : List Char) : Option (Draft × List Char) :=
  let inside (c : Char) : Bool := c ≠ ':' && c ≠ ')'
  let letters := s.takeWhile inside
  match s.dropWhile inside with
  | [] => none
  | c :: rest =>
      if ¬ Modes.isChange letters then none
      else if c = ':' then some (d.openGroup letters, rest)
      else if letters = [] then none
      else some (d.change letters, rest)

/- Read what follows an opening parenthesis. -/
def open?
    (d : Draft)
    (s : List Char) : Option (Draft × List Char) :=
  match d.modes.skip s with
  | '?' :: 'P' :: '<' :: rest => d.openNamed? rest
  | '?' :: '<' :: rest => d.openNamed? rest
  | '?' :: rest => d.openChange? rest
  | rest => some (d.openGroup [], rest)

------------------------------------------------------------
-- Reading
------------------------------------------------------------

/- A mark behind a repetition makes it a lazy one. -/
def passLazy : List Char → List Char
| '?' :: rest => rest
| s => s

/- Read on from a character. -/
def step
    (d : Draft)
    (c : Char)
    (rest : List Char) : Option (Draft × List Char) :=
  if c = '(' then d.open? rest
  else if c = ')' then d.closeGroup?.map (·, rest)
  else if c = '|' then some (d.branch, rest)
  else if c ∈ ['?', '*', '+'] then
    d.repeat?.map (·, passLazy rest)
  else if c = '\x7b' then none
  else if c = '[' then
    (CharSet.read? d.modes rest).map
      (fun (s, rest') => (d.add (.set d.modes s), rest'))
  else if c = '\\' then
    (Symbol.escape? d.modes rest).map
      (fun (s, rest') => (d.addSymbol s, rest'))
  else if c = '.' then some (d.addSymbol .anything, rest)
  else if c ∈ ['^', '$'] then some (d.addSymbol .place, rest)
  else some (d.addSymbol (.literal (.plain c)), rest)

/-
  The pattern that a draft becomes in some number of steps.
  No group may be open at its end.
-/
def finish? :
    Nat → Draft → List Char → Option Pattern
| steps, d, s =>
    match d.modes.skip s, steps with
    | [], _ => if d.outer.isEmpty then some d.branches else none
    | _ :: _, 0 => none
    | c :: rest, steps + 1 => do
        let (d', rest') ← d.step c rest
        finish? steps d' rest'

end Draft

/- The pattern that a text is, if it is one. -/
def Pattern.parse? (s : List Char) : Option Pattern :=
  Draft.finish? s.length .blank s

end CondVar
