import CondVar.Proofs.Receipts
import CondVar.Proofs.Seating

/-
  A cohort from its first waiter to its end and beyond.

  A waiter's registration begins once and ends once, with its
  wait or unused.  What a cohort counts as registered are the
  registrations that have begun and not ended, and its permits
  are those that were left and not taken, whether it is open
  or closed.  Its first close tells how many registrations are
  left, and after that nothing but interruptions happens.

  Main declarations:
    * `Bench.lives`
    * `Bench.Turnover`
    * `Bench.Attendance`
    * `Bench.Over`
    * `Bench.registrations_balance`
-/

namespace CondVar

namespace Bench

------------------------------------------------------------
-- Arrivals and Departures
------------------------------------------------------------

/- The seat of a waiter that registers. -/
def Event.arrival? : Event → Option Nat
| .enrolled i => some i
| _ => none

/- The seat of a waiter whose registration ends. -/
def Event.departure? : Event → Option Nat
| .withdrew i => some i
| .settled i _ => some i
| _ => none

/- The seats of those that have registered, in this order. -/
def arrivals (es : List Event) : List Nat :=
  es.filterMap Event.arrival?

/- The seats of those whose registrations have ended. -/
def departures (es : List Event) : List Nat :=
  es.filterMap Event.departure?

@[simp] theorem arrivals_append
    (es es' : List Event) :
    arrivals (es ++ es') = arrivals es ++ arrivals es' :=
  List.filterMap_append

@[simp] theorem departures_append
    (es es' : List Event) :
    departures (es ++ es') = departures es ++ departures es' :=
  List.filterMap_append

/- Which of the waiters that have a seat are registered. -/
def lives (b : Bench) : List Bool :=
  b.seats.map Seat.isLive

/- The cohort counts the waiters that are registered. -/
theorem Seated.count_lives
    {b : Bench}
    (hSeated : b.Seated) :
    b.cohort.registered = b.lives.count true := by
  rw [hSeated, lives, List.count, List.countP_map]
  exact List.countP_congr (fun s _ => by simp)

/- A changed seat changes one entry. -/
theorem lives_set
    {b b' : Bench}
    {i : Nat}
    (s' : Seat)
    (hSeats : b'.seats = b.seats.set i s') :
    b'.lives = b.lives.set i s'.isLive := by
  rw [lives, hSeats, List.map_set, lives]

/- A seat that stays as live as it was changes none. -/
theorem lives_set_of_eq
    {b b' : Bench}
    {i : Nat}
    {s : Seat}
    (s' : Seat)
    (hSeat : b.seats[i]? = some s)
    (hLive : s.isLive = s'.isLive)
    (hSeats : b'.seats = b.seats.set i s') :
    b'.lives = b.lives := by
  have hOld : b.lives[i]? = some s'.isLive := by
    rw [lives, List.getElem?_map, hSeat, ← hLive]
    rfl
  rcases List.getElem?_eq_some_iff.mp hOld with ⟨hLt, hGet⟩
  rw [lives_set s' hSeats, ← hGet, List.set_getElem_self]

------------------------------------------------------------
-- What a Move Does to the Registrations
------------------------------------------------------------

/-
  A move begins one registration, ends one that there was, or
  leaves them all as they are.
-/
inductive Turnover (b b' : Bench) : List Event → Prop where
| arrives
    (hLives : b'.lives = b.lives ++ [true])
    (hNumber :
      b'.cohort.registered = b.cohort.registered + 1) :
    Turnover b b' [.enrolled b.lives.length]
| departs {e : Event} {i : Nat}
    (hArrival : e.arrival? = none)
    (hDeparture : e.departure? = some i)
    (hLive : b.lives[i]? = some true)
    (hLives : b'.lives = b.lives.set i false)
    (hNumber :
      b'.cohort.registered = b.cohort.registered - 1) :
    Turnover b b' [e]
| stays {es : List Event}
    (hArrivals : arrivals es = [])
    (hDepartures : departures es = [])
    (hLives : b'.lives = b.lives)
    (hNumber :
      b'.cohort.registered = b.cohort.registered) :
    Turnover b b' es

/- Every move is one of these. -/
theorem Moves.turnover
    {b b' : Bench}
    {es : List Event}
    (hMoves : b.Moves b' es) :
    b.Turnover b' es := by
  have hEntry :
      ∀ {i : Nat} {s : Seat},
        b.seats[i]? = some s →
          b.lives[i]? = some s.isLive := by
    intro i s hSeat
    rw [lives, List.getElem?_map, hSeat]
    rfl
  cases hMoves with
  | enroll =>
      have hLength : b.seats.length = b.lives.length :=
        (List.length_map _).symm
      rw [hLength]
      exact .arrives List.map_append rfl
  | withdraw hSeat =>
      exact
        .departs rfl rfl (hEntry hSeat)
          (lives_set .withdrawn rfl) rfl
  | @settle i s v o hSeat hUp hLook =>
      refine
        .departs rfl rfl ?_ (lives_set (.settled o) rfl) ?_
      · rw [hEntry hSeat, isLive_of_up hUp]
      · exact Cohort.registered_settle _ _
  | @park i s v v' wakeAt stalled hSeat hUp hLook =>
      have hLives :
          (b.setSeat i (.parked v' wakeAt)).lives = b.lives :=
        lives_set_of_eq (.parked v' wakeAt) hSeat
          (isLive_of_up hUp) rfl
      cases stalled with
      | none => exact .stays rfl rfl hLives rfl
      | some d => exact .stays rfl rfl hLives rfl
  | @expire i v t hSeat hDue =>
      exact
        .stays rfl rfl
          (lives_set_of_eq (.awake v) hSeat rfl rfl) rfl
  | @tell i v wakeAt hLeft hSeat =>
      exact
        .stays rfl rfl
          (lives_set_of_eq (.awake v) hSeat rfl rfl) rfl
  | rouse hAlarm =>
      refine .stays rfl rfl ?_ rfl
      simp only [lives, Bench.rouse, List.map_map]
      exact List.map_congr_left (fun s _ => isLive_wake s)
  | _ => exact .stays rfl rfl rfl rfl

/-
  What the past tells of the registrations: whose have begun,
  that those which have ended did so once, and how many there
  are left.
-/
structure Attendance
    (past : List Event)
    (b : Bench) : Prop where
  arrivals : arrivals past = List.range b.lives.length
  departures :
    ∀ i,
      (departures past).count i =
        if b.lives[i]? = some false then 1 else 0
  registered :
    b.cohort.registered + (Bench.departures past).length =
      (Bench.arrivals past).length

/- Every move keeps the attendance. -/
theorem Attendance.moves
    {b b' : Bench}
    {past es : List Event}
    (hAttendance : Attendance past b)
    (hSeated : b.Seated)
    (hMoves : b.Moves b' es) :
    Attendance (past ++ es) b' := by
  have hBegun := hAttendance.arrivals
  have hEnded := hAttendance.departures
  have hLeft := hAttendance.registered
  cases hMoves.turnover with
  | arrives hLives hNumber =>
      have hArrival :
          Bench.arrivals [.enrolled b.lives.length] =
            [b.lives.length] := rfl
      have hNone :
          Bench.departures [.enrolled b.lives.length] = [] :=
        rfl
      constructor
      · rw [arrivals_append, hBegun, hArrival, hLives,
          List.length_append, List.length_singleton,
          List.range_succ]
      · intro i
        rw [departures_append, hNone, List.append_nil,
          hEnded, hLives]
        by_cases hLt : i < b.lives.length
        · rw [List.getElem?_append_left hLt]
        · -- The new entry does not say that it has ended.
          have hOut : b.lives.length ≤ i := Nat.le_of_not_lt hLt
          rw [List.getElem?_eq_none hOut,
            List.getElem?_append_right hOut]
          cases i - b.lives.length with
          | zero => rfl
          | succ k => rfl
      · rw [arrivals_append, departures_append, hArrival,
          hNone, List.append_nil, List.length_append,
          List.length_singleton, hNumber]
        omega
  | @departs e i hArrival hDeparture hLive hLives hNumber =>
      have hNone : Bench.arrivals [e] = [] := by
        simp [Bench.arrivals, hArrival]
      have hOne : Bench.departures [e] = [i] := by
        simp [Bench.departures, hDeparture]
      have hLt : i < b.lives.length :=
        (List.getElem?_eq_some_iff.mp hLive).1
      constructor
      · rw [arrivals_append, hNone, List.append_nil, hBegun,
          hLives, List.length_set]
      · intro j
        rw [departures_append, hOne, List.count_append,
          hEnded, hLives]
        by_cases hSame : i = j
        · subst j
          rw [hLive, List.getElem?_set_self hLt,
            List.count_singleton_self]
          rfl
        · rw [List.getElem?_set_ne hSame,
            List.count_singleton]
          simp [hSame]
      · have hCounted : 0 < b.cohort.registered := by
          rw [hSeated.count_lives]
          exact
            List.count_pos_iff.mpr
              (List.mem_of_getElem? hLive)
        rw [arrivals_append, departures_append, hNone, hOne,
          List.append_nil, List.length_append,
          List.length_singleton, hNumber]
        omega
  | stays hArrivals hDepartures hLives hNumber =>
      constructor
      · rw [arrivals_append, hArrivals, List.append_nil,
          hBegun, hLives]
      · rw [departures_append, hDepartures, List.append_nil,
          hLives]
        exact hEnded
      · rw [arrivals_append, departures_append, hArrivals,
          hDepartures, List.append_nil, List.append_nil,
          hNumber]
        exact hLeft

/- Every run of a fresh bench keeps it. -/
theorem attendance_of_run
    (epoch : Nat)
    {as : List Action}
    {b : Bench}
    {es : List Event}
    (hRun : (fresh epoch).run as = some (b, es)) :
    Attendance es b := by
  have hStart : Attendance [] (fresh epoch) :=
    ⟨rfl, fun i => rfl, rfl⟩
  have hSeated : (fresh epoch).Seated := rfl
  have hBoth :=
    run_induction
      (P := fun b past => b.Seated ∧ Attendance past b)
      (fun hOld hMoves =>
        ⟨hOld.1.moves hMoves, hOld.2.moves hOld.1 hMoves⟩)
      [] ⟨hSeated, hStart⟩ hRun
  exact hBoth.2

------------------------------------------------------------
-- After the Close
------------------------------------------------------------

/- A cohort is closed after a move if it was or is told to be. -/
theorem Moves.closed_iff
    {b b' : Bench}
    {es : List Event}
    (hMoves : b.Moves b' es) :
    b'.cohort.closed = true ↔
      b.cohort.closed = true ∨ ∃ r, .closed r ∈ es := by
  cases hMoves with
  | settle hSeat hUp hLook =>
      simp [Cohort.closed_settle]
  | @park i s v v' wakeAt stalled hSeat hUp hLook =>
      cases stalled with
      | none => simp [setSeat]
      | some d => simp [setSeat]
  | close hOpen => simp
  | closeAgain hClosed => simp [hClosed]
  | _ =>
      simp [Cohort.enroll, Cohort.withdraw, setSeat,
        Bench.rouse]

/- A cohort is closed exactly if the past tells of a close. -/
theorem closed_iff_of_run
    (epoch : Nat)
    {as : List Action}
    {b : Bench}
    {es : List Event}
    (hRun : (fresh epoch).run as = some (b, es)) :
    b.cohort.closed = true ↔ ∃ r, .closed r ∈ es := by
  have hStart :
      (fresh epoch).cohort.closed = true ↔
        ∃ r, Event.closed r ∈ [] := by
    simp [fresh, Cohort.fresh]
  exact
    run_induction
      (P := fun b past =>
        b.cohort.closed = true ↔ ∃ r, .closed r ∈ past)
      (fun hOld hMoves => by
        rw [hMoves.closed_iff, hOld]
        simp only [List.mem_append, exists_or])
      [] hStart hRun

/- Whether an event can be told of a cohort that is closed. -/
def Event.isLate : Event → Bool
| .settled _ o => o = .interrupted
| .posted r => r = .nobody
| .closed r => r = .nobody
| _ => true

/- A move of a closed cohort keeps its permits. -/
theorem Moves.late
    {b b' : Bench}
    {es : List Event}
    (hMoves : b.Moves b' es)
    (hClosed : b.cohort.closed = true) :
    b'.cohort.closed = true ∧
      b'.cohort.permits = b.cohort.permits ∧
      ∀ e ∈ es, e.isLate = true := by
  refine ⟨hMoves.closed_iff.mpr (Or.inl hClosed), ?_⟩
  cases hMoves with
  | @settle i s v o hSeat hUp hLook =>
      have hGrants := Vigil.grants_of_look hLook
      cases hGrants.interrupted_iff.mpr hClosed
      exact ⟨rfl, by simp [Event.isLate]⟩
  | @park i s v v' wakeAt stalled hSeat hUp hLook =>
      have hOpen : b.cohort.closed = false :=
        (Vigil.look_eq_park hLook).1
      rw [hClosed] at hOpen
      cases hOpen
  | post hOpen hLacks =>
      rw [hClosed] at hOpen
      cases hOpen
  | close hOpen =>
      rw [hClosed] at hOpen
      cases hOpen
  | _ =>
      exact ⟨rfl, by simp [Event.isLate]⟩

/- So does any stretch. -/
theorem late_of_run
    {b b' : Bench}
    {as : List Action}
    {es : List Event}
    (hClosed : b.cohort.closed = true)
    (hRun : b.run as = some (b', es)) :
    b'.cohort.closed = true ∧
      b'.cohort.permits = b.cohort.permits ∧
      ∀ e ∈ es, e.isLate = true :=
  run_induction
    (P := fun b' past =>
      b'.cohort.closed = true ∧
        b'.cohort.permits = b.cohort.permits ∧
        ∀ e ∈ past, e.isLate = true)
    (fun hOld hMoves => by
      rcases hMoves.late hOld.1 with ⟨hStill, hSame, hLate⟩
      refine ⟨hStill, hSame.trans hOld.2.1, ?_⟩
      intro e hMem
      rcases List.mem_append.mp hMem with hPast | hNew
      · exact hOld.2.2 e hPast
      · exact hLate e hNew)
    [] ⟨hClosed, rfl, fun e hMem => nomatch hMem⟩ hRun

/-
  What is left of a cohort that is over, with this number of
  permits: posts and closes find nobody and change nothing,
  and every wait is interrupted as soon as its waiter looks.
-/
structure Over
    (n : Nat)
    (b : Bench) : Prop where
  closed : b.cohort.closed = true
  permits : b.cohort.permits = n
  post : b.step .post = some (b, [.posted .nobody])
  close : b.step .close = some (b, [.closed .nobody])
  sit :
    ∀ i deadline stall,
      b.seats[i]? = some .fresh →
        ∃ b',
          b.step (.sit i deadline stall) =
            some (b', [.settled i .interrupted]) ∧
          b'.cohort.permits = n
  recheck :
    ∀ i v,
      b.seats[i]? = some (.awake v) →
        ∃ b',
          b.step (.recheck i) =
            some (b', [.settled i .interrupted]) ∧
          b'.cohort.permits = n

/-
  Whoever looks at a closed cohort is interrupted and takes no
  permit.
-/
theorem look_of_closed
    {b : Bench}
    (hClosed : b.cohort.closed = true)
    (i : Nat)
    (v : Vigil) :
    ∃ b',
      b.look i v = (b', [.settled i .interrupted]) ∧
        b'.cohort.permits = b.cohort.permits := by
  have hSettles :=
    (v.look_eq_interrupted_iff
      (b.cohort.sighting b.clock)).mpr hClosed
  refine
    ⟨{ b.setSeat i (.settled .interrupted) with
        cohort := b.cohort.settle .interrupted }, ?_, rfl⟩
  simp only [look, hSettles]

/- A cohort that is closed is over. -/
theorem over_of_closed
    {b : Bench}
    (hClosed : b.cohort.closed = true) :
    Over b.cohort.permits b := by
  refine ⟨hClosed, rfl, ?_, ?_, ?_, ?_⟩
  · simp [step, Cohort.post, hClosed, WakeReport.count]
  · simp [step, Cohort.close, hClosed]
  · intro i deadline stall hSeat
    rcases
        look_of_closed hClosed i
          (.start deadline stall b.clock) with
      ⟨b', hLook, hSame⟩
    exact ⟨b', by simp only [step, hSeat, hLook], hSame⟩
  · intro i v hSeat
    rcases look_of_closed hClosed i v with
      ⟨b', hLook, hSame⟩
    exact ⟨b', by simp only [step, hSeat, hLook], hSame⟩

/- The first close reports those that are registered. -/
theorem step_close_of_open
    {b : Bench}
    (hOpen : b.cohort.closed = false) :
    b.step .close =
      some
        ({ b with
            cohort := { b.cohort with closed := true }
            alarm := true },
          [.closed (.ofCount b.cohort.registered)]) := by
  simp [step, Cohort.close, hOpen]

------------------------------------------------------------
-- The Whole Course
------------------------------------------------------------

/- What one step takes away was there. -/
theorem Seated.takes
    {b b' : Bench}
    {es : List Event}
    (hSeated : b.Seated)
    (hMoves : b.Moves b' es) :
    (∀ i ∈ departures es,
      b'.cohort.registered + 1 = b.cohort.registered) ∧
    (∀ i ∈ signaled es,
      b'.cohort.permits + 1 = b.cohort.permits) := by
  cases hMoves with
  | withdraw hSeat =>
      have hCounted := hSeated.registered_pos hSeat rfl
      refine ⟨fun i _ => ?_, nofun⟩
      simp only [Cohort.withdraw]
      omega
  | @settle i s v o hSeat hUp hLook =>
      have hCounted :=
        hSeated.registered_pos hSeat (isLive_of_up hUp)
      constructor
      · intro j _
        simp only [Cohort.registered_settle]
        omega
      · intro j hMem
        cases o with
        | signaled =>
            have hGrants := Vigil.grants_of_look hLook
            have hPermit : 0 < b.cohort.permits := hGrants.2
            simp only [Cohort.settle]
            omega
        | interrupted => cases hMem
        | timedOut => cases hMem
  | @park i s v v' wakeAt stalled hSeat hUp hLook =>
      cases stalled with
      | none => exact ⟨nofun, nofun⟩
      | some d => exact ⟨nofun, nofun⟩
  | _ => exact ⟨nofun, nofun⟩

/-
  Any actions, one after the other, on a cohort that begins
  with nobody registered.  Each waiter registers once, and its
  registration ends once, exactly if it is no longer counted;
  so those registered are those that came without those that
  went.  The permits are the posts received without the
  waiters signaled.  Neither number is ever taken below zero.
  The cohort is closed if a close was made.  The first close
  reports how many waiters are registered at that moment, and
  whatever follows on it, the cohort is over and keeps its
  permits, every post and every other close finds nobody, and
  every wait that ends is interrupted.
-/
theorem registrations_balance
    (epoch : Nat)
    {as : List Action}
    {b : Bench}
    {es : List Event}
    (hRun : (fresh epoch).run as = some (b, es)) :
    (arrivals es = List.range b.seats.length ∧
      (departures es).Nodup ∧
      (∀ i,
        i ∈ departures es ↔
          ∃ s, b.seats[i]? = some s ∧ s.isLive = false) ∧
      b.cohort.registered + (departures es).length =
        (arrivals es).length) ∧
    b.cohort.permits + (signaled es).length = sent es ∧
    (∀ a b' es',
      b.step a = some (b', es') →
        (∀ i ∈ departures es',
          b'.cohort.registered + 1 = b.cohort.registered) ∧
        (∀ i ∈ signaled es',
          b'.cohort.permits + 1 = b.cohort.permits)) ∧
    (b.cohort.closed = true ↔ ∃ r, .closed r ∈ es) ∧
    (b.cohort.closed = false →
      ∃ b',
        b.step .close =
          some
            (b',
              [.closed
                (.ofCount (b.seats.countP Seat.isLive))]) ∧
        ∀ later b'' es'',
          b'.run later = some (b'', es'') →
            Over b.cohort.permits b'' ∧
            (∀ i o,
              .settled i o ∈ es'' → o = .interrupted) ∧
            (∀ r, .posted r ∈ es'' → r = .nobody) ∧
            (∀ r, .closed r ∈ es'' → r = .nobody)) := by
  have hSeated := seated_of_run epoch hRun
  have hAttendance := attendance_of_run epoch hRun
  have hLength : b.lives.length = b.seats.length :=
    List.length_map _
  refine
    ⟨⟨?_, ?_, ?_, hAttendance.registered⟩, ?_, ?_,
      closed_iff_of_run epoch hRun, ?_⟩
  · rw [hAttendance.arrivals, hLength]
  · apply List.nodup_iff_count.mpr
    intro i
    rw [hAttendance.departures]
    split
    · exact Nat.le_refl 1
    · exact Nat.zero_le 1
  · intro i
    have hEntry :
        b.lives[i]? = some false ↔
          ∃ s, b.seats[i]? = some s ∧ s.isLive = false := by
      rw [lives, List.getElem?_map, Option.map_eq_some_iff]
    rw [← List.count_pos_iff, hAttendance.departures,
      ← hEntry]
    split
    · exact iff_of_true Nat.one_pos ‹_›
    · exact iff_of_false (Nat.lt_irrefl 0) ‹_›
  · have hPermits := permits_add_signaled hRun
    rw [hPermits]
    exact Nat.zero_add _
  · intro a b' es' hStep
    exact hSeated.takes (moves_of_step hStep)
  · intro hOpen
    have hCount : b.cohort.registered = _ := hSeated
    rw [← hCount]
    refine ⟨_, step_close_of_open hOpen, ?_⟩
    intro later b'' es'' hLater
    rcases late_of_run rfl hLater with ⟨hClosed, hSame, hLate⟩
    have hOver := over_of_closed hClosed
    rw [hSame] at hOver
    refine ⟨hOver, ?_, ?_, ?_⟩
    · intro i o hMem
      simpa [Event.isLate] using hLate _ hMem
    · intro r hMem
      simpa [Event.isLate] using hLate _ hMem
    · intro r hMem
      simpa [Event.isLate] using hLate _ hMem

/-
  Three waiters register.  One is signaled, one leaves unused,
  and the close reports the third.  Another one registers
  after that and waits at once.
-/
theorem registrations_balance_one_left :
    ∃ b b' b'' es es'',
      (fresh 0).run
          [.enroll, .enroll, .enroll, .post,
            .sit 1 none none, .withdraw 0] =
        some (b, es) ∧
      departures es = [1, 0] ∧
      b.cohort.registered = 1 ∧
      b.step .close = some (b', [.closed (.woken 1)]) ∧
      b'.run [.enroll, .post, .sit 3 (some ⟨0⟩) none] =
        some (b'', es'') ∧
      .settled 3 .interrupted ∈ es'' ∧
      b''.cohort.permits = 0 ∧
      b''.step .close = some (b'', [.closed .nobody]) := by
  have hRun :
      (fresh 0).run
          [.enroll, .enroll, .enroll, .post,
            .sit 1 none none, .withdraw 0] =
        some
          (⟨⟨0, 1, 0, false⟩,
              [.withdrawn, .settled .signaled, .fresh], 1,
              false, ⟨0⟩⟩,
            [.enrolled 0, .enrolled 1, .enrolled 2,
              .posted (.woken 1), .settled 1 .signaled,
              .withdrew 0]) := by
    decide
  rcases registrations_balance 0 hRun with
    ⟨⟨_, _, _, hNumber⟩, _, _, _, hClose⟩
  rcases hClose rfl with ⟨b', hStep, hThen⟩
  have hClosed :
      b' =
        ⟨⟨0, 1, 0, true⟩,
          [.withdrawn, .settled .signaled, .fresh], 1, true,
          ⟨0⟩⟩ := by
    cases hStep
    rfl
  subst hClosed
  have hLater :
      (⟨⟨0, 1, 0, true⟩,
          [.withdrawn, .settled .signaled, .fresh], 1, true,
          ⟨0⟩⟩ : Bench).run
          [.enroll, .post, .sit 3 (some ⟨0⟩) none] =
        some
          (⟨⟨0, 1, 0, true⟩,
              [.withdrawn, .settled .signaled, .fresh,
                .settled .interrupted],
              1, true, ⟨0⟩⟩,
            [.enrolled 3, .posted .nobody,
              .settled 3 .interrupted]) := by
    decide
  rcases hThen _ _ _ hLater with ⟨hOver, _⟩
  exact
    ⟨_, _, _, _, _, hRun, rfl, Nat.add_right_cancel hNumber,
      hStep, hLater, by simp, hOver.permits, hOver.close⟩

end Bench

end CondVar
