import CondVar.Proofs.BenchMoves

/-
  What the events of a run tell of permits and seats.

  Permits are conserved: a post that is received leaves one,
  and a waiter that is signaled takes one.  A waiter is
  signaled once at most, and it has registered before.

  Main declarations:
    * `Bench.signaled`
    * `Bench.sent`
    * `Bench.permits_add_signaled`
    * `Bench.Recorded`
    * `Bench.recorded_of_run`
    * `Bench.exists_run_before_enrolled`
-/

namespace CondVar

namespace Bench

------------------------------------------------------------
-- Signals Received
------------------------------------------------------------

/- The seat of a waiter that was signaled. -/
def Event.signaled? : Event → Option Nat
| .settled i .signaled => some i
| _ => none

/- The seats whose waiters were signaled, in this order. -/
def signaled (es : List Event) : List Nat :=
  es.filterMap Event.signaled?

/- How many posts have left a permit. -/
def sent (es : List Event) : Nat :=
  es.count (.posted (.woken 1))

@[simp] theorem signaled_append
    (es es' : List Event) :
    signaled (es ++ es') = signaled es ++ signaled es' :=
  List.filterMap_append

@[simp] theorem sent_append
    (es es' : List Event) :
    sent (es ++ es') = sent es + sent es' :=
  List.count_append

/- Reports of stalls signal nobody. -/
theorem signaled_stalled
    (i : Nat)
    (stalled : Option Duration) :
    signaled (stalled.map (Event.stalled i)).toList = [] := by
  cases stalled <;> rfl

/- Reports of stalls leave no permits. -/
theorem sent_stalled
    (i : Nat)
    (stalled : Option Duration) :
    sent (stalled.map (Event.stalled i)).toList = 0 := by
  cases stalled <;> rfl

------------------------------------------------------------
-- Permits Are Conserved
------------------------------------------------------------

/-
  A permit is left by a post and taken by a waiter that is
  signaled, and by nothing else.
-/
theorem permits_moves
    {b b' : Bench}
    {es : List Event}
    (hMoves : b.Moves b' es) :
    b'.cohort.permits + (signaled es).length =
      b.cohort.permits + sent es := by
  cases hMoves with
  | enroll => rfl
  | withdraw hSeat => rfl
  | @settle i s v o hSeat hUp hLook =>
      change (b.cohort.settle o).permits + _ = _
      rw [Cohort.permits_settle]
      cases o with
      | signaled =>
          rw [Vigil.look_eq_signaled_iff] at hLook
          have hSome : 0 < b.cohort.permits := hLook.2
          change b.cohort.permits - 1 + 1 = b.cohort.permits
          omega
      | interrupted => rfl
      | timedOut => rfl
  | park hSeat hUp hLook =>
      rw [signaled_stalled, sent_stalled]
      rfl
  | expire hSeat hDue => rfl
  | post hOpen hLacks => rfl
  | drop hDropped => rfl
  | tell hLeft hSeat => rfl
  | tellNobody hLeft hNone => rfl
  | close hOpen =>
      change b.cohort.permits + 0 =
        b.cohort.permits + sent [.closed _]
      simp [sent]
  | closeAgain hClosed => rfl
  | rouse hAlarm => rfl
  | tick hLater => rfl

/-
  Along any stretch of a run, the permits at its end and the
  waiters signaled are as many as the permits at its start
  and the posts that have left one.
-/
theorem permits_add_signaled
    {b b' : Bench}
    {as : List Action}
    {es : List Event}
    (hRun : b.run as = some (b', es)) :
    b'.cohort.permits + (signaled es).length =
      b.cohort.permits + sent es := by
  have hBalance :=
    run_induction
      (P := fun b' past =>
        b'.cohort.permits + (signaled past).length =
          b.cohort.permits + sent past)
      (fun hOld hMoves => by
        have hNew := permits_moves hMoves
        rw [signaled_append, sent_append,
          List.length_append]
        omega)
      [] rfl hRun
  exact hBalance

------------------------------------------------------------
-- Seats and Their Events
------------------------------------------------------------

/-
  What past events tell of the seats: a waiter is signaled
  once at most and has its outcome from then on, and whoever
  registered has a seat.
-/
structure Recorded
    (b : Bench)
    (past : List Event) : Prop where
  nodup : (signaled past).Nodup
  settled :
    ∀ i ∈ signaled past,
      b.seats[i]? = some (.settled .signaled)
  seated :
    ∀ i, Event.enrolled i ∈ past → i < b.seats.length

/- What tells of no signal and adds no seat is recorded. -/
theorem Recorded.still
    {b b' : Bench}
    {past es : List Event}
    (hRecorded : b.Recorded past)
    (hSignaled : signaled es = [])
    (hSeated : ∀ i, Event.enrolled i ∉ es)
    (hLength : b'.seats.length = b.seats.length)
    (hSettled :
      ∀ j ∈ signaled past,
        b'.seats[j]? = some (.settled .signaled)) :
    b'.Recorded (past ++ es) := by
  constructor
  · rw [signaled_append, hSignaled, List.append_nil]
    exact hRecorded.nodup
  · intro j hMem
    rw [signaled_append, hSignaled, List.append_nil] at hMem
    exact hSettled j hMem
  · intro j hMem
    rw [hLength]
    rcases List.mem_append.mp hMem with hOld | hNew
    · exact hRecorded.seated j hOld
    · exact absurd hNew (hSeated j)

/-
  A seat whose waiter has no outcome yet can change without
  touching the waiters that were signaled.
-/
theorem Recorded.settled_set
    {b : Bench}
    {past : List Event}
    (hRecorded : b.Recorded past)
    {i : Nat}
    {s : Seat}
    (s' : Seat)
    (hSeat : b.seats[i]? = some s)
    (hOpen : s.isLive = true) :
    ∀ j ∈ signaled past,
      (b.seats.set i s')[j]? = some (.settled .signaled) := by
  intro j hSignaled
  have hOld := hRecorded.settled j hSignaled
  have hOther : i ≠ j := by
    intro hSame
    subst j
    rw [hSeat] at hOld
    cases hOld
    cases hOpen
  rw [List.getElem?_set_ne hOther]
  exact hOld

/- Such a change is recorded if it tells of no signal. -/
theorem Recorded.setSeat
    {b b' : Bench}
    {past es : List Event}
    (hRecorded : b.Recorded past)
    {i : Nat}
    {s s' : Seat}
    (hSeat : b.seats[i]? = some s)
    (hOpen : s.isLive = true)
    (hSeats : b'.seats = b.seats.set i s')
    (hSignaled : signaled es = [])
    (hSeated : ∀ j, Event.enrolled j ∉ es) :
    b'.Recorded (past ++ es) := by
  apply hRecorded.still hSignaled hSeated
  · rw [hSeats, List.length_set]
  · rw [hSeats]
    exact hRecorded.settled_set s' hSeat hOpen

/- The signaling of a waiter is recorded. -/
theorem Recorded.signals
    {b b' : Bench}
    {past : List Event}
    (hRecorded : b.Recorded past)
    {i : Nat}
    {s : Seat}
    (hSeat : b.seats[i]? = some s)
    (hOpen : s.isLive = true)
    (hSeats :
      b'.seats = b.seats.set i (.settled .signaled)) :
    b'.Recorded (past ++ [.settled i .signaled]) := by
  have hNew : i ∉ signaled past := by
    intro hMem
    have hOld := hRecorded.settled i hMem
    rw [hSeat] at hOld
    cases hOld
    cases hOpen
  have hSelf :
      ∀ j,
        j ∈ signaled [.settled i .signaled] → j = i := by
    intro j hMem
    simpa [signaled, Event.signaled?] using hMem
  constructor
  · have hAlone :
        (signaled [.settled i .signaled]).Nodup := by
      simp [signaled, Event.signaled?]
    rw [signaled_append]
    apply List.nodup_append.mpr
    refine ⟨hRecorded.nodup, hAlone, ?_⟩
    intro j hMem k hk hSame
    rw [hSame, hSelf k hk] at hMem
    exact hNew hMem
  · intro j hMem
    rw [signaled_append] at hMem
    rw [hSeats]
    rcases List.mem_append.mp hMem with hOld | hSelf'
    · exact hRecorded.settled_set _ hSeat hOpen j hOld
    · rw [hSelf j hSelf']
      exact
        List.getElem?_set_self
          (List.getElem?_eq_some_iff.mp hSeat).1
  · intro j hMem
    rw [hSeats, List.length_set]
    exact hRecorded.seated j (by simpa using hMem)

/- The registration of a waiter is recorded. -/
theorem Recorded.enrolls
    {b b' : Bench}
    {past : List Event}
    (hRecorded : b.Recorded past)
    (hSeats : b'.seats = b.seats ++ [.fresh]) :
    b'.Recorded (past ++ [.enrolled b.seats.length]) := by
  have hQuiet :
      signaled (past ++ [.enrolled b.seats.length]) =
        signaled past := by
    rw [signaled_append]
    exact List.append_nil _
  constructor
  · rw [hQuiet]
    exact hRecorded.nodup
  · rw [hQuiet]
    intro j hMem
    have hGet := hRecorded.settled j hMem
    rw [hSeats,
      List.getElem?_append_left
        (List.getElem?_eq_some_iff.mp hGet).1]
    exact hGet
  · intro j hMem
    rw [hSeats, List.length_append]
    rcases List.mem_append.mp hMem with hOld | hNew
    · exact Nat.lt_succ_of_lt (hRecorded.seated j hOld)
    · cases List.mem_singleton.mp hNew
      exact Nat.lt_succ_self _

/- Every move is recorded. -/
theorem Recorded.moves
    {b b' : Bench}
    {past es : List Event}
    (hRecorded : b.Recorded past)
    (hMoves : b.Moves b' es) :
    b'.Recorded (past ++ es) := by
  cases hMoves with
  | enroll => exact hRecorded.enrolls rfl
  | withdraw hSeat =>
      exact hRecorded.setSeat hSeat rfl rfl rfl (by simp)
  | @settle i s v o hSeat hUp hLook =>
      have hOpen : s.isLive = true := by
        rcases hUp with rfl | rfl <;> rfl
      cases o with
      | signaled => exact hRecorded.signals hSeat hOpen rfl
      | interrupted =>
          exact hRecorded.setSeat hSeat hOpen rfl rfl (by simp)
      | timedOut =>
          exact hRecorded.setSeat hSeat hOpen rfl rfl (by simp)
  | @park i s v v' wakeAt stalled hSeat hUp hLook =>
      have hOpen : s.isLive = true := by
        rcases hUp with rfl | rfl <;> rfl
      exact
        hRecorded.setSeat hSeat hOpen rfl
          (signaled_stalled i stalled) (by simp)
  | expire hSeat hDue =>
      exact hRecorded.setSeat hSeat rfl rfl rfl (by simp)
  | post hOpen hLacks =>
      exact
        hRecorded.still rfl (by simp) rfl hRecorded.settled
  | drop hDropped =>
      exact
        hRecorded.still rfl (by simp) rfl hRecorded.settled
  | tell hLeft hSeat =>
      exact hRecorded.setSeat hSeat rfl rfl rfl (by simp)
  | tellNobody hLeft hNone =>
      exact
        hRecorded.still rfl (by simp) rfl hRecorded.settled
  | close hOpen =>
      exact
        hRecorded.still rfl (by simp) rfl hRecorded.settled
  | closeAgain hClosed =>
      exact
        hRecorded.still rfl (by simp) rfl hRecorded.settled
  | rouse hAlarm =>
      apply hRecorded.still rfl (by simp)
      · exact List.length_map _
      · intro j hMem
        change (b.seats.map Seat.wake)[j]? = _
        rw [List.getElem?_map, hRecorded.settled j hMem]
        rfl
  | tick hLater =>
      exact
        hRecorded.still rfl (by simp) rfl hRecorded.settled

/- A fresh bench has nothing to record. -/
theorem recorded_fresh
    (epoch : Nat) :
    (fresh epoch).Recorded [] := by
  constructor
  · exact List.nodup_nil
  · intro i hMem
    cases hMem
  · intro i hMem
    cases hMem

/- Every run of a fresh bench is recorded. -/
theorem recorded_of_run
    {epoch : Nat}
    {as : List Action}
    {b : Bench}
    {es : List Event}
    (hRun : (fresh epoch).run as = some (b, es)) :
    b.Recorded es :=
  run_induction
    (P := fun b past => b.Recorded past)
    (fun hOld hMoves => hOld.moves hMoves)
    [] (recorded_fresh epoch) hRun

/- A seat is added when a waiter registers, and only then. -/
theorem length_moves
    {b b' : Bench}
    {es : List Event}
    (hMoves : b.Moves b' es) :
    b'.seats.length = b.seats.length ∨
      (b'.seats.length = b.seats.length + 1 ∧
        es = [.enrolled b.seats.length]) := by
  cases hMoves with
  | enroll => exact Or.inr ⟨List.length_append, rfl⟩
  | withdraw hSeat => exact Or.inl List.length_set
  | settle hSeat hUp hLook => exact Or.inl List.length_set
  | park hSeat hUp hLook => exact Or.inl List.length_set
  | expire hSeat hDue => exact Or.inl List.length_set
  | post hOpen hLacks => exact Or.inl rfl
  | drop hDropped => exact Or.inl rfl
  | tell hLeft hSeat => exact Or.inl List.length_set
  | tellNobody hLeft hNone => exact Or.inl rfl
  | close hOpen => exact Or.inl rfl
  | closeAgain hClosed => exact Or.inl rfl
  | rouse hAlarm => exact Or.inl (List.length_map _)
  | tick hLater => exact Or.inl rfl

/-
  A run can be taken up to the moment before a waiter of it
  registers.
-/
theorem exists_run_before_enrolled
    {b b' : Bench}
    {as : List Action}
    {es : List Event}
    (hRun : b.run as = some (b', es))
    {i : Nat}
    (hNew : b.seats.length ≤ i)
    (hSeated : i < b'.seats.length) :
    ∃ before after b₁ es₁ es₂,
      as = before ++ after ∧
        b.run before = some (b₁, es₁) ∧
        b₁.run after = some (b', .enrolled i :: es₂) ∧
        b₁.seats.length = i ∧
        es = es₁ ++ .enrolled i :: es₂ := by
  induction as generalizing b es with
  | nil =>
      cases hRun
      omega
  | cons a as ih =>
      rcases run_cons hRun with
        ⟨b₁, es₁, es₂, hStep, hTail, rfl⟩
      by_cases hLater : b₁.seats.length ≤ i
      · rcases ih hTail hLater with
          ⟨before, after, b₂, es₃, es₄, rfl, hBefore,
            hAfter, hLength, rfl⟩
        refine
          ⟨a :: before, after, b₂, es₁ ++ es₃, es₄, rfl,
            ?_, hAfter, hLength, ?_⟩
        · simp [run, hStep, hBefore]
        · rw [List.append_assoc]
      · rcases length_moves (moves_of_step hStep) with
          hSame | ⟨hMore, rfl⟩
        · omega
        · have hHere : b.seats.length = i := by
            omega
          subst i
          exact
            ⟨[], a :: as, b, [], es₂, rfl, rfl, hRun, rfl,
              rfl⟩

end Bench

end CondVar
