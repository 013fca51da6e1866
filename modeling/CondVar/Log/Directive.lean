import CondVar.Log.Event
import CondVar.Log.FieldTest
import CondVar.Text.Bytes

/-
  Directives: which events a log is to show.

  A directive names a level, or a target, or both with a
  sign of equality between them.  After the target it may
  name, in brackets, a span and, in braces, the test of one
  field.

  A directive is read without the blanks around it, but its
  parts are cut out of the text with them, at the positions
  counted without them.  Positions are counted in bytes, and
  one that is inside of a character is a fault of its own.

  Key definitions include:
    * `Directive`
    * `Directive.Fault`
    * `Threshold.parse?`
    * `Directive.parse`
    * `Directive.parseAll`
-/

namespace CondVar

------------------------------------------------------------
-- Thresholds
------------------------------------------------------------

/- The least important level that is shown, zero for none. -/
abbrev Threshold :=
  Nat

namespace Threshold

/- A decimal number, with or without a plus before it. -/
def number? (s : List Char) : Option Nat :=
  let digits :=
    match s with
    | '+' :: rest => rest
    | _ => s
  if digits ≠ [] ∧ digits.all Char.isDigit then
    some (digits.foldl
      (fun n c => 10 * n + (c.toNat - '0'.toNat)) 0)
  else
    none

/- A threshold by its number or its name, in any case. -/
def parse? (s : List Char) : Option Threshold :=
  match number? s with
  | some n => if n ≤ 5 then some n else none
  | none =>
      [("off", 0), ("error", 1), ("warn", 2), ("info", 3),
        ("debug", 4), ("trace", 5)].lookup
        (String.ofList (s.map Char.toLower))

/- Everything is shown. -/
def all : Threshold :=
  5

end Threshold

------------------------------------------------------------
-- Directives
------------------------------------------------------------

/-
  A directive shows the events up to a threshold whose target
  starts as given and, where a field is given, that have it.
  One that names a span, or the value of a field, concerns
  only what happens within such a span.
-/
structure Directive where
  target : Option String
  span : Option String
  field : Option FieldTest
  threshold : Threshold
deriving DecidableEq

namespace Directive

/-
  What can be wrong with a directive: it has another form, or
  a part of it would begin or end inside of a character.
-/
inductive Fault where
| malformed : Fault
| splitCharacter : Fault
deriving DecidableEq

/- A text without the blanks around it. -/
def trimmed (s : List Char) : List Char :=
  let s := s.dropWhile Text.isBlank
  (s.reverse.dropWhile Text.isBlank).reverse

/- Where the reading of a directive is. -/
inductive Place where
| start : Place
| name (start : Nat) : Place
| span (start : Nat) : Place
| field (start : Nat) : Place
| afterField : Place
| afterSpan : Place
| threshold (start : Nat) : Place
deriving DecidableEq

/- The part of a text from one position to another. -/
def part
    (s : List Char)
    (start : Nat)
    (stop : Nat) : Except Fault (List Char) :=
  match Text.between? start stop s with
  | some t => .ok t
  | none => .error .splitCharacter

/- The part of a text from a position on. -/
def tail
    (s : List Char)
    (start : Nat) : Except Fault (List Char) :=
  match Text.cutAt? start s with
  | some (_, t) => .ok t
  | none => .error .splitCharacter

/- Everything, of any target. -/
def everything : Directive :=
  ⟨none, none, none, Threshold.all⟩

/- A directive for a target. -/
def withTarget
    (d : Directive)
    (t : List Char) : Directive :=
  { d with target := some (String.ofList t) }

/- A directive for a span. -/
def withSpan
    (d : Directive)
    (t : List Char) : Directive :=
  { d with span := some (String.ofList t) }

/- A directive with the test of a field, which has a text. -/
def withField
    (d : Directive)
    (t : List Char) : Except Fault Directive :=
  match t, FieldTest.parse? t with
  | [], _ => .error .malformed
  | _ :: _, none => .error .malformed
  | _ :: _, some f => .ok { d with field := some f }

/- A directive with a threshold, everything without one. -/
def withThreshold
    (d : Directive)
    (t : List Char) : Except Fault Directive :=
  match t, Threshold.parse? t with
  | [], _ => .ok d
  | _ :: _, none => .error .malformed
  | _ :: _, some n => .ok { d with threshold := n }

/-
  Read one character, at the position `i`, of a directive
  whose whole text is `s`.
-/
def read
    (s : List Char)
    (i : Nat)
    (c : Char)
    (d : Directive) :
    Place → Except Fault (Place × Directive)
| .start =>
    if c = '[' then
      .ok (.span (i + 1), d)
    else if c ∈ ['-', ':', '_'] ∨ Text.isAlphanumeric c then
      .ok (.name i, d)
    else
      .error .malformed
| .name start => do
    if c = '=' then
      let t ← part s start i
      pure (.threshold (i + 1), d.withTarget t)
    else if c = '[' then
      let t ← part s start i
      pure (.span (i + 1), d.withTarget t)
    else
      pure (.name start, d)
| .span start => do
    if c = ']' then
      let t ← part s start i
      pure (.afterSpan, d.withSpan t)
    else if c = '\x7b' then
      let t ← part s start i
      pure (.field (i + 1), if t = [] then d else d.withSpan t)
    else
      pure (.span start, d)
| .field start => do
    if c = '\x7d' then
      let t ← part s start i
      pure (.afterField, ← d.withField t)
    else
      pure (.field start, d)
| .afterField =>
    if c = ']' then .ok (.afterSpan, d) else .error .malformed
| .afterSpan =>
    if c = '=' then .ok (.threshold (i + 1), d)
    else .error .malformed
| .threshold start => .ok (.threshold start, d)

/- Read the characters of a directive from a position on. -/
def readFrom
    (s : List Char)
    (d : Directive)
    (place : Place) :
    Nat → List Char → Except Fault (Place × Directive)
| _, [] => .ok (place, d)
| i, c :: rest => do
    let (place', d') ← d.read s i c place
    readFrom s d' place' (i + c.utf8Size) rest

/-
  The directive that was read.  A single name is a threshold
  if it can be one, and a target otherwise; without a
  threshold everything is shown.
-/
def finish
    (s : List Char) :
    Place × Directive → Except Fault Directive
| (.name start, d) => do
    let t ← tail s start
    match Threshold.parse? t with
    | some n => pure { d with threshold := n }
    | none => pure (d.withTarget t)
| (.threshold start, d) => do
    d.withThreshold (← tail s start)
| (.afterSpan, d) => .ok d
| _ => .error .malformed

/- The directive that a text is. -/
def parse (s : List Char) : Except Fault Directive := do
  finish s (← everything.readFrom s .start 0 (trimmed s))

/- The texts of directives, between commas. -/
def pieces (s : String) : List (List Char) :=
  (s.toList.splitOn ',').filter (· ≠ [])

/-
  The directives of a text.  The first of them that has a
  fault makes it the fault of all.
-/
def parseAll (s : String) : Except Fault (List Directive) :=
  (pieces s).mapM parse

end Directive

end CondVar
