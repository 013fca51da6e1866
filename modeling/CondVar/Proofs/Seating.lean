import CondVar.Proofs.BenchMoves

/-
  Who is registered, and for whom there are permits.

  The cohort counts as registered exactly the waiters whose
  seats are live.  As long as it is open and no registration
  was taken back unused, there is no permit without a
  registered waiter to take it.

  Main declarations:
    * `Bench.Seated`
    * `Bench.seated_of_run`
    * `Bench.Backed`
    * `Bench.backed_of_run`
-/

namespace CondVar

namespace Bench

------------------------------------------------------------
-- Live Seats
------------------------------------------------------------

/- The cohort counts the live seats. -/
def Seated (b : Bench) : Prop :=
  b.cohort.registered = b.seats.countP Seat.isLive

/- A waiter that is up is registered. -/
theorem isLive_of_up
    {s : Seat}
    {v : Vigil}
    (hUp : s = .fresh ∨ s = .awake v) :
    s.isLive = true := by
  rcases hUp with rfl | rfl
  · rfl
  · rfl

/- A live seat is one that the cohort counts. -/
theorem Seated.registered_pos
    {b : Bench}
    {i : Nat}
    {s : Seat}
    (hSeated : b.Seated)
    (hSeat : b.seats[i]? = some s)
    (hLive : s.isLive = true) :
    0 < b.cohort.registered := by
  rw [hSeated]
  exact
    List.countP_pos_iff.mpr
      ⟨s, List.mem_of_getElem? hSeat, hLive⟩

/- A live seat that stays live is counted as before. -/
theorem Seated.stays
    {b b' : Bench}
    {i : Nat}
    {s : Seat}
    (s' : Seat)
    (hSeated : b.Seated)
    (hSeat : b.seats[i]? = some s)
    (hLive : s.isLive = s'.isLive)
    (hSeats : b'.seats = b.seats.set i s')
    (hCohort : b'.cohort.registered = b.cohort.registered) :
    b'.Seated := by
  have hCount := countP_set_add Seat.isLive s' hSeat
  rw [hLive] at hCount
  rw [Seated, hSeats, hCohort]
  exact hSeated.trans (Nat.add_right_cancel hCount).symm

/- A live seat that is given up is no longer counted. -/
theorem Seated.leaves
    {b b' : Bench}
    {i : Nat}
    {s s' : Seat}
    (hSeated : b.Seated)
    (hSeat : b.seats[i]? = some s)
    (hLive : s.isLive = true)
    (hLeft : s'.isLive = false)
    (hSeats : b'.seats = b.seats.set i s')
    (hCohort :
      b'.cohort.registered = b.cohort.registered - 1) :
    b'.Seated := by
  have hCount := countP_set_add Seat.isLive s' hSeat
  rw [hLive, hLeft] at hCount
  have hLess :
      (b.seats.set i s').countP Seat.isLive + 1 =
        b.seats.countP Seat.isLive :=
    hCount
  have hBefore : b.cohort.registered = _ := hSeated
  rw [Seated, hSeats, hCohort]
  omega

/- Waking up keeps a seat live, and brings none to life. -/
theorem isLive_wake
    (s : Seat) :
    s.wake.isLive = s.isLive := by
  cases s <;> rfl

/- Every move keeps the count of the live seats. -/
theorem Seated.moves
    {b b' : Bench}
    {es : List Event}
    (hSeated : b.Seated)
    (hMoves : b.Moves b' es) :
    b'.Seated := by
  have hOld : b.cohort.registered = _ := hSeated
  cases hMoves with
  | enroll =>
      simp only [Seated, Cohort.enroll, List.countP_append,
        hOld]
      rfl
  | withdraw hSeat =>
      exact hSeated.leaves hSeat rfl rfl rfl rfl
  | settle hSeat hUp hLook =>
      apply hSeated.leaves hSeat (isLive_of_up hUp) _ rfl
      · exact Cohort.registered_settle _ _
      · rfl
  | @park i s v v' wakeAt stalled hSeat hUp hLook =>
      exact
        hSeated.stays (.parked v' wakeAt) hSeat
          (isLive_of_up hUp) rfl rfl
  | @expire i v t hSeat hDue =>
      exact hSeated.stays (.awake v) hSeat rfl rfl rfl
  | @tell i v wakeAt hLeft hSeat =>
      exact hSeated.stays (.awake v) hSeat rfl rfl rfl
  | rouse hAlarm =>
      simp only [Seated, rouse, List.countP_map, hOld]
      exact
        List.countP_congr
          (fun s _ => by simp [isLive_wake])
  | _ => exact hSeated

/- In every run, the cohort counts the live seats. -/
theorem seated_of_run
    (epoch : Nat)
    {as : List Action}
    {b : Bench}
    {es : List Event}
    (hRun : (fresh epoch).run as = some (b, es)) :
    b.Seated := by
  have hStart : (fresh epoch).Seated := rfl
  exact
    run_induction
      (P := fun b _ => b.Seated)
      (fun hOld hMoves => hOld.moves hMoves)
      [] hStart hRun

------------------------------------------------------------
-- Permits and Those They Are For
------------------------------------------------------------

/- An open cohort stays open only if it was open before. -/
theorem Moves.open_before
    {b b' : Bench}
    {es : List Event}
    (hMoves : b.Moves b' es)
    (hOpen : b'.cohort.closed = false) :
    b.cohort.closed = false := by
  cases hMoves with
  | settle hSeat hUp hLook =>
      exact (Cohort.closed_settle _ _).symm.trans hOpen
  | close hStill => exact hStill
  | _ => exact hOpen

/- Along any stretch, too. -/
theorem open_before_of_run
    {b b' : Bench}
    {as : List Action}
    {es : List Event}
    (hRun : b.run as = some (b', es))
    (hOpen : b'.cohort.closed = false) :
    b.cohort.closed = false := by
  have hBack :=
    run_induction
      (P := fun b' _ =>
        b'.cohort.closed = false → b.cohort.closed = false)
      (fun hOld hMoves hNow => hOld (hMoves.open_before hNow))
      [] id hRun
  exact hBack hOpen

/-
  Each permit of an open cohort has a registered waiter to
  take it.
-/
def Backed (b : Bench) : Prop :=
  b.cohort.closed = false →
    b.cohort.permits ≤ b.cohort.registered

/-
  A move that takes no registration back keeps each permit
  backed: whoever settles without a permit has found none.
-/
theorem Backed.moves
    {b b' : Bench}
    {es : List Event}
    (hBacked : b.Backed)
    (hMoves : b.Moves b' es)
    (hKept : ∀ i, Event.withdrew i ∉ es) :
    b'.Backed := by
  intro hOpen
  have hOld := hBacked (hMoves.open_before hOpen)
  cases hMoves with
  | enroll => exact Nat.le_succ_of_le hOld
  | @withdraw i hSeat =>
      exact absurd List.mem_cons_self (hKept i)
  | @settle i s v o hSeat hUp hLook =>
      have hGrants := Vigil.grants_of_look hLook
      change (b.cohort.settle o).permits ≤
        (b.cohort.settle o).registered
      rw [Cohort.permits_settle, Cohort.registered_settle]
      cases o with
      | signaled =>
          rw [if_pos rfl]
          exact Nat.sub_le_sub_right hOld 1
      | timedOut =>
          rw [if_neg nofun, hGrants.2]
          exact Nat.zero_le _
      | interrupted =>
          have hStill : b.cohort.closed = false :=
            (Cohort.closed_settle _ _).symm.trans hOpen
          rw [show b.cohort.closed = true from hGrants]
            at hStill
          cases hStill
  | post hStill hLacks => exact hLacks
  | _ => exact hOld

/-
  As long as no registration was taken back, each permit is
  backed.
-/
theorem backed_of_run
    (epoch : Nat)
    {as : List Action}
    {b : Bench}
    {es : List Event}
    (hRun : (fresh epoch).run as = some (b, es))
    (hKept : ∀ i, Event.withdrew i ∉ es) :
    b.Backed := by
  have hBacked :=
    run_induction
      (P := fun b past =>
        (∀ i, Event.withdrew i ∉ past) → b.Backed)
      (fun hOld hMoves hAll =>
        (hOld
            (fun i hMem =>
              hAll i (List.mem_append_left _ hMem))).moves
          hMoves
          (fun i hMem =>
            hAll i (List.mem_append_right _ hMem)))
      [] (fun _ _ => Nat.le_refl 0) hRun
  exact hBacked hKept

end Bench

end CondVar
