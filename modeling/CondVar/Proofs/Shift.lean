import CondVar.Proofs.Look
import CondVar.Proofs.Standing

/-
  What a move does to the cohorts.

  As far as the cohorts are concerned, a move either is of no
  concern to them or is one of the few that `Machine.Shift`
  lists, by the standing of its thread before and after, its
  facts, and the cohorts it leaves.

  Main declarations:
    * `Machine.Shift`
    * `Machine.Moves.shift`
-/

namespace CondVar

------------------------------------------------------------
-- Facts That Concern No Cohort
------------------------------------------------------------

/- Whether a fact tells nothing of any cohort. -/
def Fact.isPrivate : Fact → Bool
| .judged => true
| .wrote => true
| .signaled _ => true
| .finished _ => true
| _ => false

/- Whether a thread has nothing to do with any cohort. -/
def Standing.isFree : Standing → Bool
| .away => true
| .inside => true
| _ => false

namespace Turn

variable {V : Type}

/- A thread that begins, continues, or ends a call is free. -/
theorem isFree_phase
    (side : Side)
    (next : Turn V) :
    (next.phase side).standing.isFree = true := by
  cases next <;> cases side <;> rfl

/- The facts of a turn concern no cohort. -/
theorem isPrivate_facts
    (next : Turn V) :
    ∀ f ∈ next.facts, f.isPrivate = true := by
  intro f hMem
  rcases finished_of_mem_facts hMem with ⟨e, rfl⟩
  rfl

end Turn

------------------------------------------------------------
-- Shifts
------------------------------------------------------------

namespace Machine

variable {V : Type}

/-
  The standing of a thread before and after a move, the facts
  of the move, and the cohorts and the number of the current
  one after it.
-/
inductive Shift (m : Machine V) :
    Standing → Standing → List Fact →
      List Cohort → Nat → Prop where
| stand {s : Standing} {facts : List Fact}
    (hOther : ∀ g, s ≠ .signaling g)
    (hPrivate : ∀ f ∈ facts, f.isPrivate = true) :
    Shift m s s facts m.cohorts m.current
| turn {s s' : Standing} {facts : List Fact}
    (hFree : s.isFree = true)
    (hFree' : s'.isFree = true)
    (hPrivate : ∀ f ∈ facts, f.isPrivate = true) :
    Shift m s s' facts m.cohorts m.current
| signal :
    Shift m .away (.signaling m.current) [] m.cohorts
      m.current
| drop {g : Nat}
    (hDropped :
      (m.cohort g).closed = true ∨
        (m.cohort g).registered ≤ (m.cohort g).permits) :
    Shift m (.signaling g) .away
      [.posted (m.cohort g).epoch .nobody,
        .signaled .nobody]
      m.cohorts m.current
| post {g : Nat}
    (hOpen : (m.cohort g).closed = false)
    (hLacks :
      (m.cohort g).permits < (m.cohort g).registered) :
    Shift m (.signaling g) .away
      [.posted (m.cohort g).epoch (.woken 1)]
      (m.cohorts.set g
        { m.cohort g with
          permits := (m.cohort g).permits + 1 })
      m.current
| enroll :
    Shift m .inside (.door m.current) []
      (m.cohorts.set m.current (m.cohort m.current).enroll)
      m.current
| withdraw {g : Nat} {misuse : Misuse} :
    Shift m (.door g) .away [.finished (.misused misuse)]
      (m.cohorts.set g (m.cohort g).withdraw) m.current
| count {g : Nat} :
    Shift m (.door g) (.enrolled g)
      [.registered (m.cohort g).epoch] m.cohorts m.current
| depart {g : Nat} :
    Shift m (.enrolled g) (.waiting g)
      [.departed (m.cohort g).epoch] m.cohorts m.current
| stay {g : Nat} :
    Shift m (.waiting g) (.waiting g) [] m.cohorts m.current
| park {g : Nat} {wakeAt : Option Instant}
    {stalled : Option Duration}
    (hOpen : (m.cohort g).closed = false)
    (hNone : (m.cohort g).permits = 0) :
    Shift m (.waiting g) (.waiting g)
      ((stalled.map
          (Fact.stalled (m.cohort g).epoch)).toList ++
        [.parked (m.cohort g).epoch wakeAt])
      m.cohorts m.current
| settle {g : Nat} {o : Outcome}
    (hGrants : (m.cohort g).Grants o) :
    Shift m (.waiting g) (.ended g o)
      [.settled (m.cohort g).epoch o]
      (m.cohorts.set g ((m.cohort g).settle o))
      m.current
| regain {g : Nat} {o : Outcome} :
    Shift m (.ended g o) (.regained g o)
      [.regained (m.cohort g).epoch o] m.cohorts m.current
| leave {g : Nat} {o : Outcome} {left : Option Duration}
    {s : Standing} {facts : List Fact}
    (hFree : s.isFree = true)
    (hPrivate : ∀ f ∈ facts, f.isPrivate = true) :
    Shift m (.regained g o) s
      (.returned (m.cohort g).epoch o left :: facts)
      m.cohorts m.current
| close
    (hOpen : (m.cohort m.current).closed = false) :
    Shift m .inside
      (.retiring m.current
        (.ofCount (m.cohort m.current).registered))
      [.closed (m.cohort m.current).epoch
        (.ofCount (m.cohort m.current).registered)]
      (m.cohorts.set m.current
        { m.cohort m.current with closed := true })
      m.current
| closeAgain
    (hClosed : (m.cohort m.current).closed = true) :
    Shift m .inside (.retiring m.current .nobody)
      [.closed (m.cohort m.current).epoch .nobody]
      m.cohorts m.current
| renew {g : Nat} {r : WakeReport} :
    Shift m (.retiring g r) .away
      [.interrupted (m.cohort g).epoch r]
      (m.cohorts ++ [.fresh ((m.cohort g).epoch + 1)])
      m.cohorts.length

/- Every move is one of the shifts. -/
theorem Moves.shift
    {m rest : Machine V}
    {t : Nat}
    {ph ph' : Phase V}
    {facts : List Fact}
    (hMoves : m.Moves t ph ph' facts rest) :
    m.Shift ph.standing ph'.standing facts rest.cohorts
      rest.current := by
  have hNone : ∀ f ∈ ([] : List Fact), f.isPrivate = true :=
    fun f hMem => nomatch hMem
  have hAway : ∀ g, Standing.away ≠ .signaling g :=
    fun g => Standing.noConfusion
  cases hMoves with
  | @acquire side hFree =>
      cases side <;> exact .stand hAway hNone
  | @release side hHeld =>
      cases side <;> exact .stand hAway hNone
  | @write side v hHeld =>
      cases side <;>
        exact .stand hAway (by simp [Fact.isPrivate])
  | @call side c hHeld =>
      exact .turn rfl (Turn.isFree_phase side _) hNone
  | signal => exact .signal
  | interrupt => exact .turn rfl rfl hNone
  | interruptHeld hHeld => exact .turn rfl rfl hNone
  | interruptForeign hHeld =>
      exact .stand hAway (by simp [Fact.isPrivate])
  | @judge side a =>
      have hPrivate :
          ∀ f ∈ Fact.judged ::
              (a.judge (m.lock side).value).1.facts,
            f.isPrivate = true := by
        intro f hMem
        rcases List.mem_cons.mp hMem with rfl | hTurn
        · rfl
        · exact Turn.isPrivate_facts _ f hTurn
      cases side <;>
        exact .turn rfl (Turn.isFree_phase _ _) hPrivate
  | enterForeign =>
      exact .stand hAway (by simp [Fact.isPrivate])
  | enroll => exact .enroll
  | count hCounted => exact .count
  | refuse hRefused =>
      exact .stand (fun g => Standing.noConfusion) hNone
  | withdraw => exact .withdraw
  | depart => exact .depart
  | watch => exact .stay
  | settle hLook =>
      exact .settle (Vigil.grants_of_look hLook)
  | park hLook =>
      have hSeen := Vigil.look_eq_park hLook
      exact .park hSeen.1 hSeen.2.1
  | expire hDue => exact .stay
  | measure =>
      exact .stand (fun g => Standing.noConfusion) hNone
  | regain hFree => exact .regain
  | @resume a g o left hCounted =>
      exact
        .leave (Turn.isFree_phase .bound _)
          (Turn.isPrivate_facts _)
  | underflow hRefused =>
      exact .leave rfl (by simp [Fact.isPrivate])
  | drop hDropped => exact .drop hDropped
  | post hOpen hLacks => exact .post hOpen hLacks
  | announce hPhase hParked =>
      exact .stand hAway (by simp [Fact.isPrivate])
  | announceNobody hNobody =>
      exact .stand hAway (by simp [Fact.isPrivate])
  | takeLock hFree => exact .turn rfl rfl hNone
  | close hOpen => exact .close hOpen
  | closeAgain hClosed => exact .closeAgain hClosed
  | rouse =>
      exact .stand (fun g => Standing.noConfusion) hNone
  | renew => exact .renew
  | renewTaken => exact .renew

end Machine

end CondVar
