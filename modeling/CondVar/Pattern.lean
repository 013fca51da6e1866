/-
  Patterns: regular expressions for the values of fields.

  A pattern is read for whether it can be used, and is never
  matched here.  It can be used if it is not nested too
  deeply and each of its parts is supported in the modes that
  hold for it.  No part may need a table of characters, which
  a shorthand, a word boundary or ignoring the case would in
  Unicode mode.  Outside of Unicode mode no part may match
  less than a character.

  Key definitions include:
    * `Modes`
    * `Symbol`
    * `CharSet`
    * `Piece`
    * `Pattern`
    * `Pattern.isUsable`
-/

namespace CondVar

------------------------------------------------------------
-- Modes
------------------------------------------------------------

/-
  The modes that matter: characters rather than bytes, both
  cases alike, and blanks and comments between the parts.
-/
structure Modes where
  unicode : Bool
  ignoreCase : Bool
  verbose : Bool
deriving DecidableEq

namespace Modes

/- The modes with which a pattern begins. -/
def standard : Modes :=
  ⟨true, false, false⟩

end Modes

------------------------------------------------------------
-- Symbols
------------------------------------------------------------

/-
  One character that stands for itself.  It may be written as
  a byte, by two hexadecimal digits.
-/
structure Literal where
  char : Char
  isByte : Bool
deriving DecidableEq

namespace Literal

/- A character that is not written as a byte. -/
def plain (c : Char) : Literal :=
  ⟨c, false⟩

/- Whether a literal has a code point below 128. -/
def isAscii (l : Literal) : Bool :=
  l.char.toNat < 0x80

end Literal

/-
  The smallest parts of a pattern: a literal, any character,
  a place between two characters, the edge of a word, and a
  shorthand for digits, blanks or word characters.
-/
inductive Symbol where
| literal (l : Literal) : Symbol
| anything : Symbol
| place : Symbol
| wordEdge : Symbol
| shorthand (negated : Bool) : Symbol
deriving DecidableEq

namespace Symbol

/- Whether a symbol can be used in some modes. -/
def isSupported
    (modes : Modes) : Symbol → Bool
| .literal l =>
    if modes.unicode then !modes.ignoreCase
    else l.isAscii || !l.isByte
| .anything => modes.unicode
| .place => true
| .wordEdge => !modes.unicode
| .shorthand negated => !modes.unicode && !negated

end Symbol

------------------------------------------------------------
-- Sets of Characters
------------------------------------------------------------

/-
  A set of characters: one of them, those from one to another,
  a class that has a name or a shorthand, or what operands in
  brackets leave.  The last operand comes first, and each is
  the union of its members.
-/
inductive CharSet where
| literal (l : Literal) : CharSet
| range (first : Literal) (last : Literal) : CharSet
| named (negated : Bool) : CharSet
| shorthand (negated : Bool) : CharSet
| bracketed (negated : Bool)
    (operands : List (List CharSet)) : CharSet

/- A layer is added where there is more than one part. -/
def layered
    (parts : Nat)
    (depth : Nat) : Nat :=
  if parts < 2 then depth else depth + 1

namespace CharSet

mutual

/- How deeply a set is nested. -/
def depth : CharSet → Nat
| .literal _ => 0
| .range _ _ => 0
| .named _ => 0
| .shorthand _ => 0
| .bracketed _ operands => operandsDepth operands + 1

/- The deepest of some sets. -/
def deepest : List CharSet → Nat
| [] => 0
| s :: rest => max s.depth (deepest rest)

/- Each operand after the first one adds a layer. -/
def operandsDepth : List (List CharSet) → Nat
| [] => 0
| members :: rest =>
    layered (rest.length + 1)
      (max (layered members.length (deepest members))
        (operandsDepth rest))

end

mutual

/- Whether a set can be used in some modes. -/
def isSupported
    (modes : Modes) : CharSet → Bool
| .literal l =>
    if modes.unicode then !modes.ignoreCase else l.isAscii
| .range first last =>
    if modes.unicode then !modes.ignoreCase
    else first.isAscii && last.isAscii
| .named negated =>
    if modes.unicode then !modes.ignoreCase else !negated
| .shorthand negated => !modes.unicode && !negated
| .bracketed negated operands =>
    (modes.unicode || !negated) &&
      operandsSupported modes operands

/- Whether all of some sets can be used. -/
def allSupported
    (modes : Modes) : List CharSet → Bool
| [] => true
| s :: rest =>
    s.isSupported modes && allSupported modes rest

/- Whether all members of some operands can be used. -/
def operandsSupported
    (modes : Modes) : List (List CharSet) → Bool
| [] => true
| members :: rest =>
    allSupported modes members &&
      operandsSupported modes rest

end

end CharSet

------------------------------------------------------------
-- Pieces
------------------------------------------------------------

/-
  A piece of a pattern: a change of modes, a symbol or a set
  with the modes that hold for it, a repeated piece, or a
  group with its branches.
-/
inductive Piece where
| change : Piece
| symbol (modes : Modes) (s : Symbol) : Piece
| set (modes : Modes) (s : CharSet) : Piece
| repeated (p : Piece) : Piece
| group (branches : List (List Piece)) : Piece

/- A pattern has branches, and each of them has pieces. -/
abbrev Pattern :=
  List (List Piece)

namespace Piece

mutual

/- How deeply a piece is nested. -/
def depth : Piece → Nat
| .change => 0
| .symbol _ _ => 0
| .set _ s => s.depth
| .repeated p => p.depth + 1
| .group branches =>
    layered branches.length (deepestBranch branches) + 1

/- The deepest of some pieces. -/
def deepest : List Piece → Nat
| [] => 0
| p :: ps => max p.depth (deepest ps)

/- The deepest of some branches. -/
def deepestBranch : List (List Piece) → Nat
| [] => 0
| ps :: rest =>
    max (layered ps.length (deepest ps)) (deepestBranch rest)

end

mutual

/- Whether a piece can be used. -/
def isSupported : Piece → Bool
| .change => true
| .symbol modes s => s.isSupported modes
| .set modes s => s.isSupported modes
| .repeated p => p.isSupported
| .group branches => branchesSupported branches

/- Whether all of some pieces can be used. -/
def allSupported : List Piece → Bool
| [] => true
| p :: ps => p.isSupported && allSupported ps

/- Whether all pieces of some branches can be used. -/
def branchesSupported : List (List Piece) → Bool
| [] => true
| ps :: rest => allSupported ps && branchesSupported rest

end

end Piece

------------------------------------------------------------
-- Patterns
------------------------------------------------------------

namespace Pattern

/- How deeply a pattern is nested. -/
def depth (p : Pattern) : Nat :=
  layered p.length (Piece.deepestBranch p)

/- The greatest depth of a pattern that can be used. -/
def depthLimit : Nat :=
  250

/- Whether a pattern can be used. -/
def isUsable (p : Pattern) : Bool :=
  p.depth ≤ depthLimit && Piece.branchesSupported p

end Pattern

end CondVar
