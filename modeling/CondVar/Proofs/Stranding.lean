import CondVar.Proofs.Seating

/-
  Permits that nobody is left to take.

  A waiter that takes its registration back leaves all permits
  where they are.  That does no harm as long as some registered
  waiter has no permit to look forward to.  If every one of
  them has, a permit is stranded: there is one more than there
  are waiters for them, until another registers and finds it.
  Nothing else can bring the permits of an open cohort above
  its registered waiters.

  Main declarations:
    * `Bench.strands`
    * `Bench.strandings`
    * `Bench.permits_le_of_run`
    * `Bench.backed_iff_never_strands`
    * `Bench.not_backed_of_withdrawal`
-/

namespace CondVar

namespace Bench

------------------------------------------------------------
-- Stranded Permits
------------------------------------------------------------

/- Whether a registration was taken back unused. -/
def Event.isWithdrawal : Event → Bool
| .withdrew _ => true
| _ => false

/-
  Whether a step with these events strands a permit: it takes
  a registration back while the cohort is open and every
  registered waiter has a permit to look forward to.
-/
def strands
    (b : Bench)
    (es : List Event) : Bool :=
  es.any Event.isWithdrawal && !b.cohort.closed &&
    b.cohort.registered ≤ b.cohort.permits

/- How often a run strands a permit. -/
def strandings
    (b : Bench) : List Action → Nat
| [] => 0
| a :: as =>
    match b.step a with
    | none => 0
    | some (b', es) => (b.strands es).toNat + strandings b' as

/- What holds at every moment of a run. -/
def Throughout
    (b : Bench)
    (as : List Action)
    (P : Bench → Prop) : Prop :=
  ∀ before after b₁ es₁,
    as = before ++ after →
      b.run before = some (b₁, es₁) → P b₁

/- A run of one more action may strand one more permit. -/
theorem strandings_cons
    {b b' : Bench}
    {a : Action}
    {es : List Event}
    (hStep : b.step a = some (b', es))
    (as : List Action) :
    b.strandings (a :: as) =
      (b.strands es).toNat + b'.strandings as := by
  simp only [strandings, hStep]

/- A run strands what its two parts do. -/
theorem strandings_append
    {b b' : Bench}
    {before : List Action}
    {es : List Event}
    (hBefore : b.run before = some (b', es))
    (after : List Action) :
    b.strandings (before ++ after) =
      b.strandings before + b'.strandings after := by
  induction before generalizing b es with
  | nil =>
      cases hBefore
      exact (Nat.zero_add _).symm
  | cons a before ih =>
      rcases run_cons hBefore with
        ⟨b₁, es₁, es₂, hStep, hTail, rfl⟩
      rw [List.cons_append, strandings_cons hStep,
        strandings_cons hStep, ih hTail, Nat.add_assoc]

/- What holds throughout a run holds throughout its rest. -/
theorem Throughout.tail
    {b b' : Bench}
    {a : Action}
    {as : List Action}
    {es : List Event}
    {P : Bench → Prop}
    (hAll : b.Throughout (a :: as) P)
    (hStep : b.step a = some (b', es)) :
    b'.Throughout as P := by
  intro before after b₁ es₁ hSplit hBefore
  apply hAll (a :: before) after b₁ (es ++ es₁)
  · rw [hSplit, List.cons_append]
  · simp [run, hStep, hBefore]

------------------------------------------------------------
-- How Many Permits There Can Be
------------------------------------------------------------

/-
  If an open cohort has `n` permits at most that nobody is
  registered for, it has one more after a move that strands
  one, and no more than `n` after any other.
-/
theorem Seated.permits_le_of_moves
    {b b' : Bench}
    {es : List Event}
    {n : Nat}
    (hSeated : b.Seated)
    (hMoves : b.Moves b' es)
    (hOld :
      b.cohort.closed = false →
        b.cohort.permits ≤ b.cohort.registered + n)
    (hOpen : b'.cohort.closed = false) :
    b'.cohort.permits ≤
      b'.cohort.registered + ((b.strands es).toNat + n) := by
  have hBefore := hMoves.open_before hOpen
  have hBound := hOld hBefore
  cases hMoves with
  | enroll =>
      simp only [Cohort.enroll]
      omega
  | @withdraw i hSeat =>
      have hCounted := hSeated.registered_pos hSeat rfl
      simp only [Cohort.withdraw]
      by_cases hFull : b.cohort.registered ≤ b.cohort.permits
      · have hStrands : b.strands [.withdrew i] = true := by
          simp [strands, Event.isWithdrawal, hBefore, hFull]
        rw [hStrands, Bool.toNat_true]
        omega
      · omega
  | @settle i s v o hSeat hUp hLook =>
      have hGrants := Vigil.grants_of_look hLook
      have hCounted :=
        hSeated.registered_pos hSeat (isLive_of_up hUp)
      cases o with
      | interrupted =>
          rw [show b.cohort.closed = true from hGrants]
            at hBefore
          cases hBefore
      | signaled =>
          -- It leaves together with the permit that it takes.
          simp only [Cohort.settle]
          omega
      | timedOut =>
          -- It has found no permit.
          have hNone : b.cohort.permits = 0 := hGrants.2
          simp only [Cohort.settle]
          omega
  | post hStill hLacks =>
      simp only
      omega
  | _ =>
      exact
        Nat.le_trans hBound
          (Nat.add_le_add_left (Nat.le_add_left n _) _)

/-
  A stranded permit is one too many as soon as it is stranded.
-/
theorem Seated.not_backed_of_strands
    {b b' : Bench}
    {es : List Event}
    (hSeated : b.Seated)
    (hMoves : b.Moves b' es)
    (hStrands : b.strands es = true) :
    ¬ b'.Backed := by
  intro hBacked
  simp only [strands, Bool.and_eq_true, Bool.not_eq_true',
    decide_eq_true_eq] at hStrands
  rcases hStrands with ⟨⟨hAny, hOpen⟩, hFull⟩
  rcases List.any_eq_true.mp hAny with ⟨e, hMem, hIs⟩
  cases hMoves with
  | withdraw hSeat =>
      have hCounted := hSeated.registered_pos hSeat rfl
      have hFew := hBacked hOpen
      simp only [Cohort.withdraw] at hFew
      omega
  | park hSeat hUp hLook =>
      rcases Option.map_eq_some_iff.mp
          (Option.mem_toList.mp hMem) with ⟨d, _, rfl⟩
      cases hIs
  | _ => simp_all [Event.isWithdrawal]

/-
  An open cohort never has more permits than registered
  waiters and permits that were stranded on the way.
-/
theorem permits_le_of_run
    {b b' : Bench}
    {as : List Action}
    {es : List Event}
    {n : Nat}
    (hSeated : b.Seated)
    (hOld :
      b.cohort.closed = false →
        b.cohort.permits ≤ b.cohort.registered + n)
    (hRun : b.run as = some (b', es))
    (hOpen : b'.cohort.closed = false) :
    b'.cohort.permits ≤
      b'.cohort.registered + (b.strandings as + n) := by
  induction as generalizing b es n with
  | nil =>
      cases hRun
      rw [strandings, Nat.zero_add]
      exact hOld hOpen
  | cons a as ih =>
      rcases run_cons hRun with
        ⟨b₁, es₁, es₂, hStep, hTail, rfl⟩
      have hMoves := moves_of_step hStep
      have hLater :=
        ih (hSeated.moves hMoves)
          (hSeated.permits_le_of_moves hMoves hOld) hTail
      rw [strandings_cons hStep]
      omega

/-
  Where each permit is backed at every moment of a run, the
  run strands none.
-/
theorem Seated.strandings_eq_zero
    {b b' : Bench}
    {as : List Action}
    {es : List Event}
    (hSeated : b.Seated)
    (hRun : b.run as = some (b', es))
    (hAll : b.Throughout as Backed) :
    b.strandings as = 0 := by
  induction as generalizing b es with
  | nil => rfl
  | cons a as ih =>
      rcases run_cons hRun with
        ⟨b₁, es₁, es₂, hStep, hTail, rfl⟩
      have hMoves := moves_of_step hStep
      have hNext : b₁.Backed :=
        hAll [a] as b₁ es₁ rfl (by simp [run, hStep])
      have hNot : b.strands es₁ = false := by
        cases hStrands : b.strands es₁ with
        | false => rfl
        | true =>
            exact
              absurd hNext
                (hSeated.not_backed_of_strands hMoves hStrands)
      rw [strandings_cons hStep, hNot,
        ih (hSeated.moves hMoves) hTail (hAll.tail hStep)]
      rfl

------------------------------------------------------------
-- Backed Permits
------------------------------------------------------------

/-
  Any actions, one after the other, on a cohort that begins
  with nobody registered.  As long as it is open, it never has
  more permits than registered waiters exactly if no
  registration is taken back while every registered waiter has
  a permit to look forward to; and it never has more of them
  too many than there were such registrations.  Those that it
  counts as registered are always the waiters that still are.
  And if no permit was stranded, there is none where nobody is
  registered, and a post finds nobody only if there are just
  as many permits as waiters.
-/
theorem backed_iff_never_strands
    (epoch : Nat)
    {as : List Action}
    {b : Bench}
    {es : List Event}
    (hRun : (fresh epoch).run as = some (b, es)) :
    ((fresh epoch).Throughout as Backed ↔
      (fresh epoch).strandings as = 0) ∧
    (b.cohort.closed = false →
      b.cohort.permits ≤
        b.cohort.registered + (fresh epoch).strandings as) ∧
    b.cohort.registered = b.seats.countP Seat.isLive ∧
    ((fresh epoch).strandings as = 0 →
      b.cohort.closed = false →
        (b.seats.countP Seat.isLive = 0 →
          b.cohort.permits = 0) ∧
        ∀ b' es',
          b.step .post = some (b', es') →
            .posted .nobody ∈ es' →
              b.cohort.permits =
                b.seats.countP Seat.isLive) := by
  have hStart : (fresh epoch).Seated := rfl
  have hNone :
      (fresh epoch).cohort.closed = false →
        (fresh epoch).cohort.permits ≤
          (fresh epoch).cohort.registered + 0 :=
    fun _ => Nat.le_refl 0
  have hSeated : b.cohort.registered = _ :=
    seated_of_run epoch hRun
  have hFew :
      b.cohort.closed = false →
        b.cohort.permits ≤
          b.cohort.registered +
            (fresh epoch).strandings as :=
    permits_le_of_run hStart hNone hRun
  refine
    ⟨⟨hStart.strandings_eq_zero hRun, ?_⟩, hFew, hSeated,
      ?_⟩
  · intro hNever before after b₁ es₁ hSplit hBefore hOpen
    have hBound :=
      permits_le_of_run hStart hNone hBefore hOpen
    rw [hSplit, strandings_append hBefore] at hNever
    omega
  · intro hNever hOpen
    have hBacked := hFew hOpen
    refine ⟨by omega, ?_⟩
    intro b' es' hPost hMem
    cases moves_of_step hPost with
    | drop hDropped =>
        rcases hDropped with hClosed | hLe
        · rw [hOpen] at hClosed
          cases hClosed
        · omega
    | park hSeat hUp hLook =>
        rcases Option.map_eq_some_iff.mp
            (Option.mem_toList.mp hMem) with ⟨d, _, hIs⟩
        cases hIs
    | _ => simp at hMem

/-
  Two waiters register and one of them is signaled.  The other
  takes its registration back, which strands nothing, and then
  the first takes its permit.
-/
theorem backed_iff_never_strands_one_of_two :
    ∃ b es,
      (fresh 0).run
          [.enroll, .enroll, .post, .withdraw 1,
            .sit 0 none none] =
        some (b, es) ∧
      (fresh 0).Throughout
        [.enroll, .enroll, .post, .withdraw 1,
          .sit 0 none none]
        Backed ∧
      b.cohort.closed = false ∧
      b.seats.countP Seat.isLive = 0 ∧
      b.cohort.permits = 0 := by
  have hRun :
      (fresh 0).run
          [.enroll, .enroll, .post, .withdraw 1,
            .sit 0 none none] =
        some
          (⟨⟨0, 0, 0, false⟩,
              [.settled .signaled, .withdrawn], 1, false,
              ⟨0⟩⟩,
            [.enrolled 0, .enrolled 1, .posted (.woken 1),
              .withdrew 1, .settled 0 .signaled]) := by
    decide
  have hNever :
      (fresh 0).strandings
          [.enroll, .enroll, .post, .withdraw 1,
            .sit 0 none none] = 0 := by
    decide
  rcases backed_iff_never_strands 0 hRun with
    ⟨hIff, _, _, hThen⟩
  exact
    ⟨_, _, hRun, hIff.mpr hNever, rfl, rfl,
      (hThen hNever rfl).1 rfl⟩

/-
  The only waiter is signaled and takes its registration back.
  Its permit stays, with nobody registered, and the next one
  to register is signaled by it although no post was made
  since.
-/
theorem not_backed_of_withdrawal :
    ∃ b b' es,
      (fresh 0).run [.enroll, .post, .withdraw 0] =
        some
          (b,
            [.enrolled 0, .posted (.woken 1), .withdrew 0]) ∧
      b.cohort.closed = false ∧
      b.seats.countP Seat.isLive = 0 ∧
      b.cohort.permits = 1 ∧
      ¬ b.Backed ∧
      b.run [.enroll, .sit 1 (some ⟨0⟩) none] =
        some (b', es) ∧
      es = [.enrolled 1, .settled 1 .signaled] := by
  have hRun :
      (fresh 0).run [.enroll, .post, .withdraw 0] =
        some
          (⟨⟨0, 0, 1, false⟩, [.withdrawn], 1, false, ⟨0⟩⟩,
            [.enrolled 0, .posted (.woken 1),
              .withdrew 0]) := by
    decide
  have hLater :
      (⟨⟨0, 0, 1, false⟩, [.withdrawn], 1, false,
          ⟨0⟩⟩ : Bench).run
          [.enroll, .sit 1 (some ⟨0⟩) none] =
        some
          (⟨⟨0, 0, 0, false⟩,
              [.withdrawn, .settled .signaled], 1, false,
              ⟨0⟩⟩,
            [.enrolled 1, .settled 1 .signaled]) := by
    decide
  refine
    ⟨_, _, _, hRun, rfl, rfl, rfl, ?_, hLater, rfl⟩
  intro hBacked
  have hFew : 1 ≤ 0 := hBacked rfl
  omega

end Bench

end CondVar
