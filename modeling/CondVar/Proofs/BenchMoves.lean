import CondVar.Bench
import CondVar.Proofs.Counting
import CondVar.Proofs.Look

/-
  What a single step can do to a bench.

  `Bench.Moves` lists the steps by what they change, with
  all that must hold for them to be taken.  A waiter's first
  look and its later ones are the same move.  What every
  move keeps is kept by a whole run.

  Main declarations:
    * `Bench.Moves`
    * `Bench.moves_of_step`
    * `Bench.run_induction`
    * `Bench.run_append`
-/

namespace CondVar

namespace Bench

------------------------------------------------------------
-- Moves
------------------------------------------------------------

/-
  A bench, the bench after one step, and the events of the
  step.
-/
inductive Moves (b : Bench) : Bench → List Event → Prop where
| enroll :
    Moves b
      { b with
        cohort := b.cohort.enroll
        seats := b.seats ++ [.fresh] }
      [.enrolled b.seats.length]
| withdraw {i : Nat}
    (hSeat : b.seats[i]? = some .fresh) :
    Moves b
      { b.setSeat i .withdrawn with
        cohort := b.cohort.withdraw }
      [.withdrew i]
| settle {i : Nat} {s : Seat} {v : Vigil} {o : Outcome}
    (hSeat : b.seats[i]? = some s)
    (hUp : s = .fresh ∨ s = .awake v)
    (hLook :
      v.look (b.cohort.sighting b.clock) = .settle o) :
    Moves b
      { b.setSeat i (.settled o) with
        cohort := b.cohort.settle o }
      [.settled i o]
| park {i : Nat} {s : Seat} {v v' : Vigil}
    {wakeAt : Option Instant} {stalled : Option Duration}
    (hSeat : b.seats[i]? = some s)
    (hUp : s = .fresh ∨ s = .awake v)
    (hLook :
      v.look (b.cohort.sighting b.clock) =
        .park v' wakeAt stalled) :
    Moves b (b.setSeat i (.parked v' wakeAt))
      (stalled.map (Event.stalled i)).toList
| expire {i : Nat} {v : Vigil} {t : Instant}
    (hSeat : b.seats[i]? = some (.parked v (some t)))
    (hDue : t ≤ b.clock) :
    Moves b (b.setSeat i (.awake v)) []
| post
    (hOpen : b.cohort.closed = false)
    (hLacks : b.cohort.permits < b.cohort.registered) :
    Moves b
      { b with
        cohort :=
          { b.cohort with permits := b.cohort.permits + 1 }
        announcements := b.announcements + 1 }
      [.posted (.woken 1)]
| drop
    (hDropped :
      b.cohort.closed = true ∨
        b.cohort.registered ≤ b.cohort.permits) :
    Moves b b [.posted .nobody]
| tell {i : Nat} {v : Vigil} {wakeAt : Option Instant}
    (hLeft : 0 < b.announcements)
    (hSeat : b.seats[i]? = some (.parked v wakeAt)) :
    Moves b
      { b.setSeat i (.awake v) with
        announcements := b.announcements - 1 }
      []
| tellNobody
    (hLeft : 0 < b.announcements)
    (hNone : b.hasParked = false) :
    Moves b
      { b with announcements := b.announcements - 1 } []
| close
    (hOpen : b.cohort.closed = false) :
    Moves b
      { b with
        cohort := { b.cohort with closed := true }
        alarm := true }
      [.closed (.ofCount b.cohort.registered)]
| closeAgain
    (hClosed : b.cohort.closed = true) :
    Moves b b [.closed .nobody]
| rouse
    (hAlarm : b.alarm = true) :
    Moves b { b.rouse with alarm := false } []
| tick {t : Instant}
    (hLater : b.clock ≤ t) :
    Moves b { b with clock := t } []

/- A waiter that is awake and looks settles or parks. -/
theorem moves_of_look
    {b b' : Bench}
    {i : Nat}
    {s : Seat}
    {v : Vigil}
    {es : List Event}
    (hSeat : b.seats[i]? = some s)
    (hUp : s = .fresh ∨ s = .awake v)
    (hLook : b.look i v = (b', es)) :
    b.Moves b' es := by
  unfold look at hLook
  split at hLook
  · rename_i o hSettle
    cases hLook
    exact .settle hSeat hUp hSettle
  · rename_i v' wakeAt stalled hPark
    cases hLook
    exact .park hSeat hUp hPark

/- Every step is one of the moves. -/
theorem moves_of_step
    {b b' : Bench}
    {a : Action}
    {es : List Event}
    (hStep : b.step a = some (b', es)) :
    b.Moves b' es := by
  cases a with
  | enroll =>
      cases hStep
      exact .enroll
  | withdraw i =>
      simp only [step] at hStep
      split at hStep
      · rename_i hSeat
        cases hStep
        exact .withdraw hSeat
      · cases hStep
  | sit i deadline stall =>
      simp only [step] at hStep
      split at hStep
      · rename_i hSeat
        exact moves_of_look hSeat (Or.inl rfl)
          (Option.some.inj hStep)
      · cases hStep
  | recheck i =>
      simp only [step] at hStep
      split at hStep
      · rename_i v hSeat
        exact moves_of_look hSeat (Or.inr rfl)
          (Option.some.inj hStep)
      · cases hStep
  | expire i =>
      simp only [step] at hStep
      split at hStep
      · rename_i v t hSeat
        split at hStep
        · rename_i hDue
          cases hStep
          exact .expire hSeat hDue
        · cases hStep
      · cases hStep
  | post =>
      simp only [step, Cohort.post] at hStep
      split at hStep
      · rename_i hDropped
        cases hStep
        exact .drop hDropped
      · rename_i hTaken
        cases hStep
        rw [not_or] at hTaken
        exact .post (Bool.eq_false_iff.mpr hTaken.1)
          (Nat.lt_of_not_le hTaken.2)
  | notify target =>
      simp only [step] at hStep
      split at hStep
      · cases hStep
      · rename_i hLeft
        have hLeft := Nat.pos_of_ne_zero hLeft
        cases target with
        | none =>
            simp only [notify] at hStep
            split at hStep
            · cases hStep
            · rename_i hNone
              cases hStep
              exact .tellNobody hLeft
                (Bool.eq_false_iff.mpr hNone)
        | some i =>
            simp only [notify] at hStep
            split at hStep
            · rename_i v wakeAt hSeat
              cases hStep
              exact .tell hLeft hSeat
            · cases hStep
  | close =>
      simp only [step, Cohort.close] at hStep
      cases hClosed : b.cohort.closed with
      | true =>
          simp only [hClosed, if_true, Bool.not_true,
            Bool.or_false] at hStep
          cases hStep
          exact .closeAgain hClosed
      | false =>
          simp only [hClosed, Bool.false_eq_true, if_false,
            Bool.not_false, Bool.or_true] at hStep
          cases hStep
          exact .close hClosed
  | rouse =>
      simp only [step] at hStep
      split at hStep
      · rename_i hAlarm
        cases hStep
        exact .rouse hAlarm
      · cases hStep
  | tick d =>
      simp only [step] at hStep
      rcases Option.map_eq_some_iff.mp hStep with
        ⟨t, hAfter, hEq⟩
      cases hEq
      have hNanos := Instant.nanos_of_after? hAfter
      exact .tick (Nat.le.intro hNanos.symm)

------------------------------------------------------------
-- Runs
------------------------------------------------------------

/- A run of one more action begins with its step. -/
theorem run_cons
    {b b' : Bench}
    {a : Action}
    {as : List Action}
    {es : List Event}
    (hRun : b.run (a :: as) = some (b', es)) :
    ∃ b₁ es₁ es₂,
      b.step a = some (b₁, es₁) ∧
        b₁.run as = some (b', es₂) ∧ es = es₁ ++ es₂ := by
  rw [run] at hRun
  rcases Option.bind_eq_some_iff.mp hRun with
    ⟨⟨b₁, es₁⟩, hStep, hRest⟩
  rcases Option.bind_eq_some_iff.mp hRest with
    ⟨⟨b₂, es₂⟩, hTail, hEq⟩
  cases hEq
  exact ⟨b₁, es₁, es₂, hStep, hTail, rfl⟩

/- A run can be taken in two parts. -/
theorem run_append
    {b b' : Bench}
    {before after : List Action}
    {es : List Event}
    (hRun : b.run (before ++ after) = some (b', es)) :
    ∃ b₁ es₁ es₂,
      b.run before = some (b₁, es₁) ∧
        b₁.run after = some (b', es₂) ∧ es = es₁ ++ es₂ := by
  induction before generalizing b es with
  | nil => exact ⟨b, [], es, rfl, hRun, rfl⟩
  | cons a before ih =>
      rcases run_cons hRun with
        ⟨b₁, es₁, es₂, hStep, hTail, rfl⟩
      rcases ih hTail with
        ⟨b₂, es₃, es₄, hBefore, hAfter, rfl⟩
      refine ⟨b₂, es₁ ++ es₃, es₄, ?_, hAfter, ?_⟩
      · simp [run, hStep, hBefore]
      · rw [List.append_assoc]

/-
  What holds of a bench and its past events before every
  move and after it holds all along a run.
-/
theorem run_induction
    {P : Bench → List Event → Prop}
    (hMoves :
      ∀ {b b' : Bench} {past es : List Event},
        P b past → b.Moves b' es → P b' (past ++ es))
    {b b' : Bench}
    (past : List Event)
    {as : List Action}
    {es : List Event}
    (hStart : P b past)
    (hRun : b.run as = some (b', es)) :
    P b' (past ++ es) := by
  induction as generalizing b past es with
  | nil =>
      cases hRun
      rw [List.append_nil]
      exact hStart
  | cons a as ih =>
      rcases run_cons hRun with
        ⟨b₁, es₁, es₂, hStep, hTail, rfl⟩
      rw [← List.append_assoc]
      exact
        ih (past ++ es₁)
          (hMoves hStart (moves_of_step hStep)) hTail

end Bench

end CondVar
