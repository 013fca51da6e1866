import CondVar.Proofs.BenchMoves

/-
  No wakeup is lost at the parking level.

  A waiter is told of a permit, and of the close, only after
  the cohort has been left, and by then the permit may be
  gone, others may have parked, and times may have run out.
  What keeps a permit from being forgotten is not who is
  registered but who is on the way: every permit of an open
  cohort on which somebody is parked is matched by a telling
  still to come or by a waiter that is awake and has not
  looked since.

  Main declarations:
    * `Bench.Attended`
    * `Bench.Attended.moves`
    * `Bench.no_lost_wakeup`
-/

namespace CondVar

namespace Bench

------------------------------------------------------------
-- Waiters on the Way
------------------------------------------------------------

/- The waiters that were parked and have not looked since. -/
def awake (b : Bench) : Nat :=
  b.seats.countP Seat.isAwake

/-
  While somebody is parked, each permit of an open cohort
  has somebody on the way to it, and a closed cohort is still
  to tell everybody.
-/
structure Attended (b : Bench) : Prop where
  permits :
    b.cohort.closed = false →
      b.hasParked = true →
        b.cohort.permits ≤ b.announcements + b.awake
  close :
    b.cohort.closed = true →
      b.hasParked = true → b.alarm = true

/- Changing a seat moves the count of the waiters awake. -/
theorem awake_setSeat
    {b : Bench}
    {i : Nat}
    {s : Seat}
    (s' : Seat)
    (hSeat : b.seats[i]? = some s) :
    (b.setSeat i s').awake + s.isAwake.toNat =
      b.awake + s'.isAwake.toNat :=
  countP_set_add Seat.isAwake s' hSeat

/-
  Somebody is parked after a seat has changed if the waiter
  there is or if somebody was before.
-/
theorem hasParked_setSeat
    {b : Bench}
    {i : Nat}
    {s : Seat}
    (hParked : (b.setSeat i s).hasParked = true) :
    s.isParked = true ∨ b.hasParked = true :=
  any_of_any_set hParked

/- After the close has told all, nobody is parked. -/
theorem hasParked_rouse
    (b : Bench) :
    b.rouse.hasParked = false := by
  apply List.any_eq_false.mpr
  intro s hMem
  rcases List.mem_map.mp hMem with ⟨s', _, rfl⟩
  cases s' <;> exact Bool.false_ne_true

------------------------------------------------------------
-- One Step
------------------------------------------------------------

/-
  A waiter that settles leaves no permit unattended: if it
  was awake, it has taken one permit along, or there was
  none.
-/
theorem Attended.settle
    {b : Bench}
    {i : Nat}
    {s : Seat}
    {v : Vigil}
    {o : Outcome}
    (hAttended : b.Attended)
    (hSeat : b.seats[i]? = some s)
    (hLook :
      v.look (b.cohort.sighting b.clock) = .settle o) :
    Attended
      { b.setSeat i (.settled o) with
        cohort := b.cohort.settle o } := by
  have hAwake :
      (b.setSeat i (.settled o)).awake + s.isAwake.toNat =
        b.awake :=
    awake_setSeat (.settled o) hSeat
  have hOne : s.isAwake.toNat ≤ 1 := Bool.toNat_le _
  constructor
  · intro hStill hParked
    rcases hasParked_setSeat hParked with hSelf | hOther
    · cases hSelf
    have hOpen : b.cohort.closed = false := by
      simpa using hStill
    have hOld := hAttended.permits hOpen hOther
    change (b.cohort.settle o).permits ≤
      b.announcements + (b.setSeat i (.settled o)).awake
    rw [Cohort.permits_settle]
    cases o with
    | signaled =>
        simp only [if_true]
        omega
    | interrupted =>
        rw [Vigil.look_eq_interrupted_iff] at hLook
        change b.cohort.closed = true at hLook
        rw [hOpen] at hLook
        cases hLook
    | timedOut =>
        rw [Vigil.look_eq_timedOut_iff] at hLook
        have hNone : b.cohort.permits = 0 := hLook.2.1
        simp [hNone]
  · intro hClosed hParked
    rcases hasParked_setSeat hParked with hSelf | hOther
    · cases hSelf
    · exact hAttended.close (by simpa using hClosed) hOther

/- Every move keeps permits and the close attended to. -/
theorem Attended.moves
    {b b' : Bench}
    {es : List Event}
    (hAttended : b.Attended)
    (hMoves : b.Moves b' es) :
    b'.Attended := by
  cases hMoves with
  | enroll =>
      have hParked :
          (b.seats ++ [Seat.fresh]).any Seat.isParked =
            b.hasParked := by
        simp [hasParked, Seat.isParked]
      constructor
      · intro hOpen hSome
        have hOld :=
          hAttended.permits hOpen (hParked ▸ hSome)
        simpa [awake, Seat.isAwake, Cohort.enroll] using hOld
      · intro hClosed hSome
        exact hAttended.close hClosed (hParked ▸ hSome)
  | @withdraw i hSeat =>
      have hAwake :
          (b.setSeat i .withdrawn).awake = b.awake :=
        awake_setSeat .withdrawn hSeat
      constructor
      · intro hOpen hParked
        rcases hasParked_setSeat hParked with hSelf | hOther
        · cases hSelf
        · have hOld := hAttended.permits hOpen hOther
          change b.cohort.permits ≤
            b.announcements + (b.setSeat i .withdrawn).awake
          omega
      · intro hClosed hParked
        rcases hasParked_setSeat hParked with hSelf | hOther
        · cases hSelf
        · exact hAttended.close hClosed hOther
  | settle hSeat hUp hLook =>
      exact hAttended.settle hSeat hLook
  | park hSeat hUp hLook =>
      -- Whoever parks has just seen that there is no permit.
      have hSeen := Vigil.look_eq_park hLook
      constructor
      · intro _ _
        have hNone : b.cohort.permits = 0 := hSeen.2.1
        change b.cohort.permits ≤ _
        omega
      · intro hClosed _
        have hOpen : b.cohort.closed = false := hSeen.1
        change b.cohort.closed = true at hClosed
        rw [hOpen] at hClosed
        cases hClosed
  | @expire i v t hSeat hDue =>
      have hAwake :
          (b.setSeat i (.awake v)).awake = b.awake + 1 :=
        awake_setSeat (.awake v) hSeat
      have hParked : b.hasParked = true :=
        List.any_eq_true.mpr
          ⟨_, List.mem_of_getElem? hSeat, rfl⟩
      constructor
      · intro hOpen _
        have hOld := hAttended.permits hOpen hParked
        change b.cohort.permits ≤
          b.announcements + (b.setSeat i (.awake v)).awake
        omega
      · intro hClosed _
        exact hAttended.close hClosed hParked
  | post hOpen hLacks =>
      constructor
      · intro _ hParked
        have hOld := hAttended.permits hOpen hParked
        change b.cohort.permits + 1 ≤
          b.announcements + 1 + b.awake
        omega
      · intro hClosed _
        change b.cohort.closed = true at hClosed
        rw [hOpen] at hClosed
        cases hClosed
  | drop hDropped => exact hAttended
  | @tell i v wakeAt hLeft hSeat =>
      have hAwake :
          (b.setSeat i (.awake v)).awake = b.awake + 1 :=
        awake_setSeat (.awake v) hSeat
      have hParked : b.hasParked = true :=
        List.any_eq_true.mpr
          ⟨_, List.mem_of_getElem? hSeat, rfl⟩
      constructor
      · intro hOpen _
        have hOld := hAttended.permits hOpen hParked
        change b.cohort.permits ≤
          b.announcements - 1 +
            (b.setSeat i (.awake v)).awake
        omega
      · intro hClosed _
        exact hAttended.close hClosed hParked
  | tellNobody hLeft hNone =>
      constructor
      · intro _ hParked
        change b.hasParked = true at hParked
        rw [hNone] at hParked
        cases hParked
      · intro _ hParked
        change b.hasParked = true at hParked
        rw [hNone] at hParked
        cases hParked
  | close hOpen =>
      constructor
      · intro hStill _
        cases hStill
      · intro _ _
        rfl
  | closeAgain hClosed => exact hAttended
  | rouse hAlarm =>
      have hNone := hasParked_rouse b
      constructor
      · intro _ hParked
        change b.rouse.hasParked = true at hParked
        rw [hNone] at hParked
        cases hParked
      · intro _ hParked
        change b.rouse.hasParked = true at hParked
        rw [hNone] at hParked
        cases hParked
  | tick hLater =>
      exact ⟨hAttended.permits, hAttended.close⟩

------------------------------------------------------------
-- Whole Runs
------------------------------------------------------------

/- A fresh bench has nobody to attend to. -/
theorem attended_fresh
    (epoch : Nat) :
    (fresh epoch).Attended := by
  constructor
  · intro _ hParked
    cases hParked
  · intro _ hParked
    cases hParked

/-
  However the steps of the waiters, posts, closes, and timers
  follow one another: while somebody is parked on an open
  cohort, there are at most as many permits as tellings still
  to come and waiters awake that have not looked since; and
  while somebody is parked on a closed cohort, the close has
  still to tell everybody.  So with nothing left to tell and
  nobody awake, whoever is parked has missed neither a permit
  nor the close.
-/
theorem no_lost_wakeup
    (epoch : Nat)
    {as : List Action}
    {b : Bench}
    {es : List Event}
    (hRun : (fresh epoch).run as = some (b, es)) :
    (b.cohort.closed = false →
      b.hasParked = true →
        b.cohort.permits ≤ b.announcements + b.awake) ∧
    (b.cohort.closed = true →
      b.hasParked = true → b.alarm = true) ∧
    (b.announcements = 0 →
      b.awake = 0 →
        b.alarm = false →
          b.hasParked = true →
            b.cohort.closed = false ∧
              b.cohort.permits = 0) := by
  have hAttended : b.Attended :=
    run_induction
      (P := fun b _ => b.Attended)
      (fun hOld hMoves => hOld.moves hMoves)
      [] (attended_fresh epoch) hRun
  refine ⟨hAttended.permits, hAttended.close, ?_⟩
  intro hTold hNobody hSilent hParked
  have hOpen : b.cohort.closed = false := by
    cases hClosed : b.cohort.closed with
    | false => rfl
    | true =>
        have hAlarm := hAttended.close hClosed hParked
        rw [hSilent] at hAlarm
        cases hAlarm
  have hPermits := hAttended.permits hOpen hParked
  exact ⟨hOpen, by omega⟩

/-
  Two permits while one waiter is awake for the first and
  the post of the second has still to tell the other, who is
  parked; then the close, still to be told.
-/
theorem no_lost_wakeup_two_permits :
    ∃ b b' es es',
      (fresh 0).run
          [.enroll, .enroll, .sit 0 none none,
            .sit 1 none none, .post, .notify (some 0),
            .post] =
        some (b, es) ∧
      b.cohort.closed = false ∧ b.hasParked = true ∧
      b.cohort.permits = 2 ∧
      b.cohort.permits ≤ b.announcements + b.awake ∧
      (fresh 0).run
          [.enroll, .enroll, .sit 0 none none,
            .sit 1 none none, .post, .notify (some 0),
            .post, .close] =
        some (b', es') ∧
      b'.cohort.closed = true ∧ b'.hasParked = true ∧
      b'.alarm = true := by
  have hPosted :
      (fresh 0).run
          [.enroll, .enroll, .sit 0 none none,
            .sit 1 none none, .post, .notify (some 0),
            .post] =
        some
          (⟨⟨0, 2, 2, false⟩,
              [.awake ⟨none, none, ⟨0⟩, none⟩,
                .parked ⟨none, none, ⟨0⟩, none⟩ none],
              1, false, ⟨0⟩⟩,
            [.enrolled 0, .enrolled 1, .posted (.woken 1),
              .posted (.woken 1)]) := by
    decide
  have hClosed :
      (fresh 0).run
          [.enroll, .enroll, .sit 0 none none,
            .sit 1 none none, .post, .notify (some 0),
            .post, .close] =
        some
          (⟨⟨0, 2, 2, true⟩,
              [.awake ⟨none, none, ⟨0⟩, none⟩,
                .parked ⟨none, none, ⟨0⟩, none⟩ none],
              1, true, ⟨0⟩⟩,
            [.enrolled 0, .enrolled 1, .posted (.woken 1),
              .posted (.woken 1), .closed (.woken 2)]) := by
    decide
  exact
    ⟨_, _, _, _, hPosted, rfl, rfl, rfl,
      (no_lost_wakeup 0 hPosted).1 rfl rfl,
      hClosed, rfl, rfl,
      (no_lost_wakeup 0 hClosed).2.1 rfl rfl⟩

end Bench

end CondVar
