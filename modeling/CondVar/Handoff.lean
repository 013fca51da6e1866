import CondVar.Machine.Step

/-
  Producers and consumers that hand over items.

  The value behind the lock is the number of items in stock.
  A producer takes the lock, adds an item, signals while it
  still has the lock, and releases it, again and again.  A
  consumer that has the lock takes items as long as there are
  some, waits when there are none, with or without a limit,
  and may release the lock.  Others may be about: they take
  and release the lock, signal, and interrupt, but neither
  wait nor change the stock.

  Key definitions include:
    * `Duty`
    * `Duty.after?`
    * `Handoff`
    * `Handoff.fresh`
    * `Handoff.step`
    * `Handoff.Reaches`
-/

namespace CondVar

------------------------------------------------------------
-- Duties
------------------------------------------------------------

/- Whether a step sets the value behind a lock. -/
def Label.isWrite
    {V : Type} : Label V → Bool
| .write _ _ _ => true
| _ => false

/-
  What a thread is up to.  A producer is `resting` without
  the lock, `stocking` with it, `calling` once it has added an
  item, and `leaving` once it has called signal.  `consuming`:
  a consumer.  `minding`: neither.
-/
inductive Duty where
| resting : Duty
| stocking : Duty
| calling : Duty
| leaving : Duty
| consuming : Duty
| minding : Duty
deriving DecidableEq

namespace Duty

/- Whether a thread is a producer. -/
def isProducer : Duty → Bool
| .resting => true
| .stocking => true
| .calling => true
| .leaving => true
| _ => false

/-
  What a thread is up to after a step, with so many items in
  stock before, if the step is one that it may take.
-/
def after?
    (stock : Nat) :
    Duty → Label Nat → Option Duty
| .resting, .acquire _ .bound => some .stocking
| .stocking, .write _ .bound v =>
    if v = stock + 1 then some .calling else none
| .calling, .signal _ => some .leaving
| .leaving, .advance _ => some .leaving
| .leaving, .notify _ _ => some .leaving
| .leaving, .release _ .bound => some .resting
| .consuming, .acquire _ .bound => some .consuming
| .consuming, .release _ .bound => some .consuming
| .consuming, .write _ .bound v =>
    if stock = v + 1 then some .consuming else none
| .consuming, .call _ .bound c =>
    if stock = 0 ∧ c.condition.isNone then
      some .consuming
    else
      none
| .consuming, .advance _ => some .consuming
| .consuming, .expire _ => some .consuming
| .minding, .acquire _ .bound => some .minding
| .minding, .release _ .bound => some .minding
| .minding, .signal _ => some .minding
| .minding, .interrupt _ => some .minding
| .minding, .interruptHeld _ .bound => some .minding
| .minding, .advance _ => some .minding
| .minding, .notify _ _ => some .minding
| _, _ => none

end Duty

------------------------------------------------------------
-- Handing Over
------------------------------------------------------------

/-
  A machine, what its threads are up to, and how many items
  were added to the stock and taken from it.
-/
structure Handoff where
  machine : Machine Nat
  duties : List Duty
  produced : Nat
  consumed : Nat

namespace Handoff

/- The number of items in stock. -/
def stock (h : Handoff) : Nat :=
  h.machine.bound.value

/- So many threads of each kind, with so many items in stock. -/
def fresh
    (s : Settings)
    (stock : Nat)
    (producers : Nat)
    (consumers : Nat)
    (minders : Nat) : Handoff where
  machine :=
    { Machine.fresh s stock 0 with
      threads :=
        .replicate (producers + consumers + minders) .idle }
  duties :=
    .replicate producers .resting ++
      .replicate consumers .consuming ++
      .replicate minders .minding
  produced := 0
  consumed := 0

/- A thread takes a step that it may take. -/
def act
    (h : Handoff)
    (t : Nat)
    (l : Label Nat) : Option (Handoff × List Note) := do
  let d ← h.duties[t]?
  let d' ← d.after? h.stock l
  let (m, ns) ← h.machine.step l
  pure
    ({ machine := m
       duties := h.duties.set t d'
       produced :=
        h.produced + (d.isProducer && l.isWrite).toNat
       consumed :=
        h.consumed + (!d.isProducer && l.isWrite).toNat },
      ns)

/- A thread takes a step, or time passes.  Nobody joins. -/
def step
    (h : Handoff)
    (l : Label Nat) : Option (Handoff × List Note) :=
  match l.thread?, l with
  | some t, _ => h.act t l
  | none, .tick d => do
      let (m, ns) ← h.machine.step (.tick d)
      pure ({ h with machine := m }, ns)
  | none, _ => none

/- Follow labels one after the other. -/
def run
    (h : Handoff) :
    List (Label Nat) → Option (Handoff × List Note)
| [] => some (h, [])
| l :: ls => do
    let (h', ns) ← h.step l
    let (h'', ns') ← run h' ls
    pure (h'', ns ++ ns')

/- What steps in any order lead to, and their history. -/
inductive Reaches (h : Handoff) :
    List Note → Handoff → Prop where
| refl : Reaches h [] h
| step {h' h'' : Handoff} {ns ns' : List Note}
    {l : Label Nat} :
    Reaches h ns h' → h'.step l = some (h'', ns') →
      Reaches h (ns ++ ns') h''

end Handoff

end CondVar
