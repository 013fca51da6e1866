import CondVar.Proofs.Timely

/-
  An interrupt reaches exactly the waits it counts.

  A wait is interrupted if its cohort was closed before it
  was settled, whatever its deadline and the permits, and not
  otherwise.  So the waits that return as interrupted from an
  epoch are those that were pending at its close, which the
  interrupt has counted.

  Main declarations:
    * `Machine.Sound.wasInterrupted_eq`
    * `Machine.interrupt_exact`
-/

namespace CondVar

namespace Machine

variable {V : Type}

/-
  A wait that has returned was interrupted exactly if it was
  pending when its cohort was closed.
-/
theorem Sound.wasInterrupted_eq
    {m : Machine V}
    {ns : List Note}
    {x : Wait}
    {j g : Nat}
    (hSound : Sound ns m)
    (hMem : x ∈ waits ns)
    (hClosed : ClosedAt ns j g)
    (hReturned : x.epoch = g → x.returned.isSome = true) :
    x.wasInterrupted g = x.isPendingAt g j := by
  by_cases hEpoch : x.epoch = g
  · subst hEpoch
    rcases Option.isSome_iff_exists.mp (hReturned rfl) with
      ⟨o, hOutcome⟩
    rcases hSound.ledger.returned x hMem o hOutcome with
      ⟨i, hSettled⟩
    have hStart := hSound.timely.started x hMem j hClosed
    have hBefore :
        o = .interrupted ↔ j ≤ i := by
      rw [hSound.timely.settled x hMem i o hSettled]
      constructor
      · rintro ⟨j', hLt, hClosed'⟩
        rw [hSound.closures.once _ j j' hClosed hClosed']
        exact Nat.le_of_lt hLt
      · intro hLe
        refine ⟨j, Nat.lt_of_le_of_ne hLe ?_, hClosed⟩
        rintro rfl
        rcases hClosed with ⟨t, r, hTold⟩
        have hThen := hSound.ledger.settled x hMem j o hSettled
        cases (hTold.unique hThen.2).2
    simp [Wait.wasInterrupted, Wait.isPendingAt, hOutcome,
      hSettled, hStart, hBefore]
  · simp [Wait.wasInterrupted, Wait.isPendingAt, hEpoch]

/-
  In every history: a wait that returns does so with the
  outcome it was settled with, and it is settled as
  interrupted if and only if its cohort was closed before.
  An interrupt that has replaced the cohort of an epoch had
  closed it, and once all waits on that epoch have returned,
  those that were interrupted are those that were pending at
  the close, and their number is its report.  A wait that
  begins after that is interrupted only by a later close, of
  another epoch.
-/
theorem interrupt_exact
    {m : Machine V}
    {s : Settings}
    {value foreign : V}
    {ns : List Note}
    (hReaches : (fresh s value foreign).Reaches ns m) :
    (∀ x ∈ waits ns, ∀ o,
      x.returned = some o → ∃ i, x.settled = some (i, o)) ∧
    (∀ x ∈ waits ns, ∀ i o,
      x.settled = some (i, o) →
        Told ns i x.thread (.settled x.epoch o) ∧
          (o = .interrupted ↔
            ∃ j < i, ClosedAt ns j x.epoch)) ∧
    (∀ k t e r,
      Told ns k t (.interrupted e r) →
        ∃ j < k,
          Told ns j t (.closed e r) ∧
            ((∀ x ∈ waits ns,
                x.epoch = e → x.returned.isSome = true) →
              (∀ x ∈ waits ns,
                x.wasInterrupted e = x.isPendingAt e j) ∧
              r =
                .ofCount
                  ((waits ns).countP (·.wasInterrupted e)))) ∧
    (∀ k t e r,
      Told ns k t (.interrupted e r) →
        ∀ x ∈ waits ns,
          k < x.start →
            x.returned = some .interrupted →
              x.epoch ≠ e ∧
                ∃ j, x.start < j ∧ ClosedAt ns j x.epoch) := by
  have hSound := hReaches.sound
  refine ⟨hSound.ledger.returned, ?_, ?_, ?_⟩
  · intro x hMem i o hSettled
    exact
      ⟨(hSound.ledger.settled x hMem i o hSettled).2,
        hSound.timely.settled x hMem i o hSettled⟩
  · intro k t e r hTold
    rcases hSound.closures.replaced k t e r hTold with
      ⟨j, hLt, hClosed⟩
    refine ⟨j, hLt, hClosed, ?_⟩
    intro hAll
    have hSame :
        ∀ x ∈ waits ns,
          x.wasInterrupted e = x.isPendingAt e j :=
      fun x hMem =>
        hSound.wasInterrupted_eq hMem ⟨t, r, hClosed⟩
          (hAll x hMem)
    refine ⟨hSame, ?_⟩
    rw [hSound.timely.counted j t e r hClosed]
    apply congrArg WakeReport.ofCount
    apply List.countP_congr
    intro x hMem
    rw [hSame x hMem]
  · intro k t e r hTold x hMem hLater hReturned
    rcases hSound.ledger.returned x hMem _ hReturned with
      ⟨i, hSettled⟩
    rcases
        (hSound.timely.settled x hMem i _ hSettled).mp rfl with
      ⟨j, _, hClosed⟩
    have hStart := hSound.timely.started x hMem j hClosed
    refine ⟨?_, j, hStart, hClosed⟩
    rintro rfl
    rcases hSound.closures.replaced k t _ r hTold with
      ⟨j', hLt, hClosed'⟩
    have hSame :=
      hSound.closures.once _ j j' hClosed ⟨t, r, hClosed'⟩
    omega

/-
  A signal leaves a permit for a waiter, and an interrupt
  comes before the waiter has taken it, and so does the end
  of the waiter's time.  The wait is interrupted.
-/
theorem interrupt_exact_despite_permit :
    ∃ (m : Machine Unit) (ns : List Note),
      (fresh .standard () ()).Reaches ns m ∧
        Told ns 3 1 (.posted 0 (.woken 1)) ∧
        Told ns 6 1 (.interrupted 0 (.woken 1)) ∧
        waits ns =
          [⟨0, 0, 0, some (7, .interrupted),
            some .interrupted⟩] ∧
        (∃ j < 7, ClosedAt ns j 0) ∧
        ∃ j < 6,
          Told ns j 1 (.closed 0 (.woken 1)) ∧
            WakeReport.woken 1 =
              .ofCount
                ((waits ns).countP (·.wasInterrupted 0)) := by
  have hRun :
      ∃ (m : Machine Unit) (ns : List Note),
        (fresh .standard () ()).run
            [.join, .join, .acquire 0 .bound,
              .call 0 .bound (.waitFor (.ofNanos 5)),
              .advance 0, .advance 0, .advance 0, .advance 0,
              .advance 0, .acquire 1 .bound, .signal 1,
              .advance 1, .notify 1 (some 0),
              .interruptHeld 1 .bound, .advance 1,
              .advance 1, .advance 1, .release 1 .bound,
              .tick (.ofNanos 9), .advance 0, .advance 0,
              .advance 0, .advance 0] =
          some (m, ns) ∧
        Told ns 3 1 (.posted 0 (.woken 1)) ∧
        Told ns 6 1 (.interrupted 0 (.woken 1)) ∧
        waits ns =
          [⟨0, 0, 0, some (7, .interrupted),
            some .interrupted⟩] :=
    ⟨_, _, rfl, ⟨_, rfl⟩, ⟨_, rfl⟩, rfl⟩
  rcases hRun with ⟨m, ns, hRun, hPosted, hReturned, hWaits⟩
  have hReaches := Reaches.of_run .refl hRun
  rcases interrupt_exact hReaches with
    ⟨_, hSettled, hReport, _⟩
  refine
    ⟨m, ns, hReaches, hPosted, hReturned, hWaits, ?_, ?_⟩
  · have hMem :
        (⟨0, 0, 0, some (7, .interrupted),
          some .interrupted⟩ : Wait) ∈ waits ns := by
      rw [hWaits]
      exact List.mem_singleton_self _
    exact (hSettled _ hMem 7 _ rfl).2.mp rfl
  · rcases hReport 6 1 0 _ hReturned with
      ⟨j, hLt, hClosed, hExact⟩
    refine ⟨j, hLt, hClosed, (hExact ?_).2⟩
    intro x hMem _
    rw [List.nil_append, hWaits] at hMem
    rw [List.mem_singleton.mp hMem]
    rfl

end Machine

end CondVar
