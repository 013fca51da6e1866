import CondVar.Pattern.Symbol

/-
  Reading sets of characters.

  A set stands in brackets.  A circumflex at its beginning
  negates it, and hyphens after that stand for themselves, as
  does a closing bracket before any member.  Between operands
  stands an operator, one of three characters written twice.

  Key definitions include:
    * `OpenSet`
    * `SetDraft.step`
    * `CharSet.read?`
-/

namespace CondVar

------------------------------------------------------------
-- Members of Sets
------------------------------------------------------------

namespace CharSet

/- The names of classes. -/
def classNames : List String :=
  ["alnum", "alpha", "ascii", "blank", "cntrl", "digit",
    "graph", "lower", "print", "punct", "space", "upper",
    "word", "xdigit"]

/-
  The class that is named behind a bracket, between colons,
  and what follows it.
-/
def named? :
    List Char → Option (CharSet × List Char)
| ':' :: s =>
    let (negated, s) :=
      match s with
      | '^' :: rest => (true, rest)
      | _ => (false, s)
    match s.dropWhile (· ≠ ':') with
    | ':' :: ']' :: rest =>
        if String.ofList (s.takeWhile (· ≠ ':')) ∈
            classNames then
          some (.named negated, rest)
        else
          none
    | _ => none
| _ => none

/- The set of a symbol, if it can be a member. -/
def ofSymbol? : Symbol → Option CharSet
| .literal l => some (.literal l)
| .shorthand negated => some (.shorthand negated)
| .anything => none
| .place => none
| .wordEdge => none

/- The range between two literals that are in order. -/
def range? : Symbol → Symbol → Option CharSet
| .literal first, .literal last =>
    if first.char ≤ last.char then some (.range first last)
    else none
| _, _ => none

/- The symbol that begins with a character inside a set. -/
def symbol?
    (modes : Modes)
    (c : Char)
    (rest : List Char) : Option (Symbol × List Char) :=
  if c = '\\' then Symbol.escape? modes rest
  else some (.literal (.plain c), rest)

/-
  The character behind a hyphen.  In verbose mode it is past
  blanks and at most one number sign.
-/
def afterHyphen?
    (modes : Modes)
    (s : List Char) : Option Char :=
  if modes.verbose then
    match s.dropWhile Text.isBlank with
    | '#' :: rest => (rest.dropWhile Text.isBlank).head?
    | rest => rest.head?
  else
    s.head?

/-
  Whether a range goes on: a hyphen follows that is neither
  the last character of the set nor half of an operator.
-/
def goesOn
    (modes : Modes) : List Char → Bool
| '-' :: rest =>
    let next := afterHyphen? modes rest
    next ≠ some ']' && next ≠ some '-'
| _ => false

/-
  The member that begins with a character, a symbol or a
  range, and what follows it.
-/
def member?
    (modes : Modes)
    (c : Char)
    (rest : List Char) : Option (CharSet × List Char) := do
  let (first, s) ← symbol? modes c rest
  let s := modes.skip s
  if goesOn modes s then
    match modes.skip s.tail with
    | [] => none
    | d :: rest' =>
        let (last, s') ← symbol? modes d rest'
        pure (← range? first last, s')
  else
    pure (← ofSymbol? first, s)

end CharSet

------------------------------------------------------------
-- Open Sets
------------------------------------------------------------

/-
  A set whose end was not read: the operands before the last
  one, and the members of that, each the last one first.
  Nothing but hyphens was read while it is fresh.
-/
structure OpenSet where
  negated : Bool
  operands : List (List CharSet)
  members : List CharSet
  isFresh : Bool

namespace OpenSet

/- A set that begins, and what follows its circumflex. -/
def start
    (modes : Modes)
    (s : List Char) : OpenSet × List Char :=
  match modes.skip s with
  | '^' :: rest => (⟨true, [], [], true⟩, rest)
  | rest => (⟨false, [], [], true⟩, rest)

/- Add a member. -/
def add
    (o : OpenSet)
    (m : CharSet) : OpenSet :=
  { o with members := m :: o.members }

/- Go on to the next operand. -/
def next (o : OpenSet) : OpenSet :=
  { o with operands := o.members :: o.operands, members := [] }

/- The set, at its end. -/
def close (o : OpenSet) : CharSet :=
  .bracketed o.negated (o.members :: o.operands)

end OpenSet

/- The set that is read, and those around it. -/
structure SetDraft where
  inner : OpenSet
  outer : List OpenSet

namespace SetDraft

/- Whether a character is the first half of an operator. -/
def beginsOperator
    (c : Char)
    (rest : List Char) : Bool :=
  c ∈ ['&', '-', '~'] && rest.head? = some c

/- What one step leaves: a draft, or the set that it was. -/
abbrev Progress :=
  SetDraft ⊕ CharSet

/- End the innermost set. -/
def close (d : SetDraft) : Progress :=
  match d.outer with
  | [] => .inr d.inner.close
  | o :: outer => .inl ⟨o.add d.inner.close, outer⟩

/- Read on from a character behind the beginning of a set. -/
def proceed
    (modes : Modes)
    (d : SetDraft)
    (c : Char)
    (rest : List Char) : Option (Progress × List Char) :=
  let inner := { d.inner with isFresh := false }
  if c = '[' then
    match CharSet.named? rest with
    | some (m, rest') =>
        some (.inl ⟨inner.add m, d.outer⟩, rest')
    | none =>
        let (o, rest') := OpenSet.start modes rest
        some (.inl ⟨o, inner :: d.outer⟩, rest')
  else if c = ']' then
    some (close ⟨inner, d.outer⟩, rest)
  else if beginsOperator c rest then
    some (.inl ⟨inner.next, d.outer⟩, rest.tail)
  else
    (CharSet.member? modes c rest).map
      (fun (m, rest') => (.inl ⟨inner.add m, d.outer⟩, rest'))

/- Read on from a character. -/
def step
    (modes : Modes)
    (d : SetDraft)
    (c : Char)
    (rest : List Char) : Option (Progress × List Char) :=
  let itself := d.inner.add (.literal (.plain c))
  if d.inner.isFresh ∧ c = '-' then
    some (.inl ⟨itself, d.outer⟩, rest)
  else if d.inner.isFresh ∧ c = ']' ∧
      d.inner.members.isEmpty then
    some (.inl ⟨{ itself with isFresh := false }, d.outer⟩,
      rest)
  else
    proceed modes d c rest

/-
  The set that a draft becomes in some number of steps, and
  what follows it.
-/
def finish?
    (modes : Modes) :
    Nat → SetDraft → List Char →
      Option (CharSet × List Char)
| 0, _, _ => none
| steps + 1, d, s =>
    match modes.skip s with
    | [] => none
    | c :: rest =>
        match d.step modes c rest with
        | none => none
        | some (.inl d', rest') => finish? modes steps d' rest'
        | some (.inr set, rest') => some (set, rest')

end SetDraft

/- The set behind an opening bracket, and what follows it. -/
def CharSet.read?
    (modes : Modes)
    (s : List Char) : Option (CharSet × List Char) :=
  let (o, rest) := OpenSet.start modes s
  SetDraft.finish? modes rest.length ⟨o, []⟩ rest

end CondVar
