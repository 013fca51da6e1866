import CondVar.Tally

/-
  A tally together with the passes it has handed out.

  Each entry that is counted hands out a pass.  A pass is
  given back once, which counts its holder out, or is lost,
  and then its holder is never counted out.

  Key definitions include:
    * `Turnstile`
    * `Turnstile.Move`
    * `Turnstile.Remark`
    * `Turnstile.act`
    * `Turnstile.visits`
-/

namespace CondVar

------------------------------------------------------------
-- Passes
------------------------------------------------------------

/- The passes are numbered from zero; some are still held. -/
structure Turnstile where
  tally : Tally
  held : List Bool
deriving DecidableEq

namespace Turnstile

/- What can be done at a turnstile. -/
inductive Move where
| add (times : Nat) : Move
| remove (times : Nat) : Move
| enter : Move
| leave (pass : Nat) : Move
| lose (pass : Nat) : Move
| look (pass : Nat) : Move
| enterAndAbort : Move
| crowd (visitors : Nat) (visits : Nat) : Move
deriving DecidableEq

/- What there is to say of a move. -/
inductive Remark where
| quiet : Remark
| pass (number : Nat) : Remark
| shown (text : String) : Remark
| unknownPass : Remark
| refused (misuse : Misuse) : Remark
| aborted (message : String) : Remark
deriving DecidableEq

/- A turnstile that nobody has passed. -/
def fresh : Turnstile :=
  ⟨.empty, []⟩

/- The remark on a count that may have been refused. -/
def Remark.ofMisuse : Option Misuse → Remark
| none => .quiet
| some m => .refused m

/-
  Repeat a count, at most `n` times, up to the first that
  is refused.
-/
def repeated
    (count : Tally → Tally × Option Misuse) :
    Nat → Tally → Tally × Option Misuse
| 0, t => (t, none)
| n + 1, t =>
    match count t with
    | (t', some m) => (t', some m)
    | (t', none) => repeated count n t'

/- Enter and leave again, counted both times. -/
def visit (t : Tally) : Tally × Option Misuse :=
  match t.add with
  | (t', some m) => (t', some m)
  | (t', none) => t'.remove

/-
  Let visitors come one after the other, each for `n`
  visits.  A visitor who is refused does not come back, and
  the next one comes.
-/
def visits
    (n : Nat) : Nat → Tally → Tally
| 0, t => t
| k + 1, t => visits n k (repeated visit n t).1

/- Whether a pass is held. -/
def holds
    (s : Turnstile)
    (pass : Nat) : Bool :=
  s.held[pass]?.getD false

/- Make one move. -/
def act
    (s : Turnstile) :
    Move → Turnstile × Remark
| .add n =>
    let (t, m) := repeated Tally.add n s.tally
    ({ s with tally := t }, .ofMisuse m)
| .remove n =>
    let (t, m) := repeated Tally.remove n s.tally
    ({ s with tally := t }, .ofMisuse m)
| .enter =>
    match s.tally.add with
    | (t, some m) => ({ s with tally := t }, .refused m)
    | (t, none) =>
        (⟨t, s.held ++ [true]⟩, .pass s.held.length)
| .leave i =>
    if s.holds i then
      let (t, m) := s.tally.remove
      (⟨t, s.held.set i false⟩, .ofMisuse m)
    else
      (s, .unknownPass)
| .lose i =>
    if s.holds i then
      ({ s with held := s.held.set i false }, .quiet)
    else
      (s, .unknownPass)
| .look i =>
    if s.holds i then
      (s, .shown (Text.record "WaiterGuard"
        [("counter", s.tally.text)]))
    else
      (s, .unknownPass)
| .enterAndAbort =>
    match s.tally.add with
    | (t, some m) => ({ s with tally := t }, .refused m)
    | (t, none) =>
        ({ s with tally := t.remove.1 },
          .aborted "waiter aborted")
| .crowd k n =>
    ({ s with tally := visits n k s.tally }, .quiet)

end Turnstile

end CondVar
