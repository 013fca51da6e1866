import CondVar.Machine.Step

/-
  What a single step can do to a machine.

  A step that is not the arrival of a thread or the passing
  of time is taken by one thread: it leaves one phase for
  another, changes what is shared, and may wake parked
  threads.  `Machine.Moves` lists these steps with all that
  must hold for them to be taken.

  Main declarations:
    * `Machine.Moves`
    * `Machine.Steps`
    * `Machine.stepsBy_of_step`
    * `Machine.steps_of_step`
    * `Machine.run_cons`
    * `Machine.Reaches.of_run`
-/

namespace CondVar

------------------------------------------------------------
-- Turns
------------------------------------------------------------

namespace Turn

variable {V : Type}

/- The phase in which a thread takes a turn of its call. -/
def phase
    (side : Side) :
    Turn V → Phase V
| .block a => .entering side a
| .judge a => .judging side a
| .finish _ => .idle

/- The facts of a turn. -/
def facts : Turn V → List Fact
| .block _ => []
| .judge _ => []
| .finish e => [.finished e]

/- A turn tells of nothing but the end of its call. -/
theorem finished_of_mem_facts
    {next : Turn V}
    {f : Fact}
    (hMem : f ∈ next.facts) :
    ∃ e, f = .finished e := by
  cases next with
  | block a => cases hMem
  | judge a => cases hMem
  | finish e => exact ⟨e, List.mem_singleton.mp hMem⟩

end Turn

namespace Machine

variable {V : Type}

/- A turn moves its thread and tells its facts. -/
theorem turn_eq
    (m : Machine V)
    (t : Nat)
    (side : Side)
    (next : Turn V) :
    m.turn t side next =
      (m.setPhase t (next.phase side), next.facts) := by
  cases next <;> rfl

/- The first turn of a call ends nothing. -/
theorem facts_begin
    (c : Call V) :
    c.begin.facts = [] := by
  unfold Call.begin
  split <;> rfl

------------------------------------------------------------
-- Moves of One Thread
------------------------------------------------------------

/-
  A thread `t`, its phase before and after a step, the facts
  of the step, and the machine as the step leaves it except
  that the thread has yet to enter its new phase.
-/
inductive Moves (m : Machine V) (t : Nat) :
    Phase V → Phase V → List Fact → Machine V → Prop where
| acquire {side : Side}
    (hFree : (m.lock side).holder = none) :
    Moves m t .idle .idle [] (m.setHolder side (some t))
| release {side : Side}
    (hHeld : m.holds t side = true) :
    Moves m t .idle .idle [] (m.setHolder side none)
| write {side : Side} {v : V}
    (hHeld : m.holds t side = true) :
    Moves m t .idle .idle [.wrote] (m.setValue side v)
| call {side : Side} {c : Call V}
    (hHeld : m.holds t side = true) :
    Moves m t .idle (c.begin.phase side) [] m
| signal :
    Moves m t .idle (.signaling m.current) [] m
| interrupt :
    Moves m t .idle .locking [] m
| interruptHeld
    (hHeld : m.holds t .bound = true) :
    Moves m t .idle (.closing false) [] m
| interruptForeign
    (hHeld : m.holds t .foreign = true) :
    Moves m t .idle .idle
      [.finished (.misused .foreignLock)] m
| judge {side : Side} {a : Attempt V} :
    Moves m t (.judging side a)
      ((a.judge (m.lock side).value).1.phase side)
      (.judged :: (a.judge (m.lock side).value).1.facts)
      (m.setValue side (a.judge (m.lock side).value).2)
| enterForeign {a : Attempt V} :
    Moves m t (.entering .foreign a) .idle
      [.finished (.misused .foreignLock)] m
| enroll {a : Attempt V} :
    Moves m t (.entering .bound a) (.ticketed a m.current) []
      (m.setCohort m.current (m.cohort m.current).enroll)
| count {a : Attempt V} {g : Nat}
    (hCounted : m.tally.add.2 = none) :
    Moves m t (.ticketed a g) (.enrolled a g)
      [.registered (m.cohort g).epoch]
      { m with tally := m.tally.add.1 }
| refuse {a : Attempt V} {g : Nat} {misuse : Misuse}
    (hRefused : m.tally.add.2 = some misuse) :
    Moves m t (.ticketed a g) (.withdrawing g misuse) []
      { m with tally := m.tally.add.1 }
| withdraw {g : Nat} {misuse : Misuse} :
    Moves m t (.withdrawing g misuse) .idle
      [.finished (.misused misuse)]
      (m.setCohort g (m.cohort g).withdraw)
| depart {a : Attempt V} {g : Nat} :
    Moves m t (.enrolled a g) (.departed a g)
      [.departed (m.cohort g).epoch]
      (m.setHolder .bound none)
| watch {a : Attempt V} {g : Nat} :
    Moves m t (.departed a g) (.watching a g (m.start a)) []
      m
| settle {a : Attempt V} {g : Nat} {v : Vigil} {o : Outcome}
    (hLook :
      v.look ((m.cohort g).sighting m.clock) = .settle o) :
    Moves m t (.watching a g v) (.settled a g v o)
      [.settled (m.cohort g).epoch o]
      (m.setCohort g ((m.cohort g).settle o))
| park {a : Attempt V} {g : Nat} {v v' : Vigil}
    {wakeAt : Option Instant} {stalled : Option Duration}
    (hLook :
      v.look ((m.cohort g).sighting m.clock) =
        .park v' wakeAt stalled) :
    Moves m t (.watching a g v) (.parked a g v' wakeAt)
      ((stalled.map
          (Fact.stalled (m.cohort g).epoch)).toList ++
        [.parked (m.cohort g).epoch wakeAt])
      m
| expire {a : Attempt V} {g : Nat} {v : Vigil}
    {wakeAt : Instant}
    (hDue : wakeAt ≤ m.clock) :
    Moves m t (.parked a g v (some wakeAt))
      (.watching a g v) [] m
| measure {a : Attempt V} {g : Nat} {v : Vigil}
    {o : Outcome} :
    Moves m t (.settled a g v o)
      (.returning a g o (a.left (m.clock.since v.started) o))
      [] m
| regain {a : Attempt V} {g : Nat} {o : Outcome}
    {left : Option Duration}
    (hFree : m.bound.holder = none) :
    Moves m t (.returning a g o left) (.regained a g o left)
      [.regained (m.cohort g).epoch o]
      (m.setHolder .bound (some t))
| resume {a : Attempt V} {g : Nat} {o : Outcome}
    {left : Option Duration}
    (hCounted : m.tally.remove.2 = none) :
    Moves m t (.regained a g o left)
      ((a.resume o left).phase .bound)
      (.returned (m.cohort g).epoch o left ::
        (a.resume o left).facts)
      { m with tally := m.tally.remove.1 }
| underflow {a : Attempt V} {g : Nat} {o : Outcome}
    {left : Option Duration} {misuse : Misuse}
    (hRefused : m.tally.remove.2 = some misuse) :
    Moves m t (.regained a g o left) .idle
      [.returned (m.cohort g).epoch o left,
        .finished (.misused misuse)]
      { m with tally := m.tally.remove.1 }
| drop {g : Nat}
    (hDropped :
      (m.cohort g).closed = true ∨
        (m.cohort g).registered ≤ (m.cohort g).permits) :
    Moves m t (.signaling g) .idle
      [.posted (m.cohort g).epoch .nobody,
        .signaled .nobody]
      m
| post {g : Nat}
    (hOpen : (m.cohort g).closed = false)
    (hLacks :
      (m.cohort g).permits < (m.cohort g).registered) :
    Moves m t (.signaling g) (.announcing g)
      [.posted (m.cohort g).epoch (.woken 1)]
      (m.setCohort g
        { m.cohort g with
          permits := (m.cohort g).permits + 1 })
| announce {g w : Nat} {ph : Phase V}
    (hPhase : m.threads[w]? = some ph)
    (hParked : ph.isParkedOn g = true) :
    Moves m t (.announcing g) .idle [.signaled (.woken 1)]
      (m.setPhase w (ph.wake g))
| announceNobody {g : Nat}
    (hNone : m.hasParked g = false) :
    Moves m t (.announcing g) .idle [.signaled (.woken 1)] m
| takeLock
    (hFree : m.bound.holder = none) :
    Moves m t .locking (.closing true) []
      (m.setHolder .bound (some t))
| close {taken : Bool}
    (hOpen : (m.cohort m.current).closed = false) :
    Moves m t (.closing taken)
      (.rousing taken m.current
        (.ofCount (m.cohort m.current).registered))
      [.closed (m.cohort m.current).epoch
        (.ofCount (m.cohort m.current).registered)]
      (m.setCohort m.current
        { m.cohort m.current with closed := true })
| closeAgain {taken : Bool}
    (hClosed : (m.cohort m.current).closed = true) :
    Moves m t (.closing taken)
      (.renewing taken m.current .nobody)
      [.closed (m.cohort m.current).epoch .nobody]
      m
| rouse {taken : Bool} {g : Nat} {r : WakeReport} :
    Moves m t (.rousing taken g r) (.renewing taken g r) []
      { m with threads := m.threads.map (Phase.wake g) }
| renew {g : Nat} {r : WakeReport} :
    Moves m t (.renewing false g r) .idle
      [.interrupted (m.cohort g).epoch r]
      { m with
        cohorts :=
          m.cohorts ++ [.fresh ((m.cohort g).epoch + 1)]
        current := m.cohorts.length }
| renewTaken {g : Nat} {r : WakeReport} :
    Moves m t (.renewing true g r) .idle
      [.interrupted (m.cohort g).epoch r]
      (setHolder
        { m with
          cohorts :=
            m.cohorts ++ [.fresh ((m.cohort g).epoch + 1)]
          current := m.cohorts.length }
        .bound none)

/-
  A step: a thread arrives, time passes, or a thread moves.
  Its notes are the facts of the move.
-/
inductive Steps (m : Machine V) :
    Machine V → List Note → Prop where
| join :
    Steps m { m with threads := m.threads ++ [.idle] } []
| tick {now : Instant}
    (hLater : m.clock ≤ now) :
    Steps m { m with clock := now } []
| move {t : Nat} {ph ph' : Phase V} {facts : List Fact}
    {rest : Machine V}
    (hPhase : m.threads[t]? = some ph)
    (hMoves : m.Moves t ph ph' facts rest) :
    Steps m (rest.setPhase t ph')
      (facts.map (Note.mk t m.clock))

/-
  A step by the thread that takes it, if one does.
-/
inductive StepsBy (m : Machine V) :
    Option Nat → Machine V → List Note → Prop where
| join :
    StepsBy m none
      { m with threads := m.threads ++ [.idle] } []
| tick {now : Instant}
    (hLater : m.clock ≤ now) :
    StepsBy m none { m with clock := now } []
| move {t : Nat} {ph ph' : Phase V} {facts : List Fact}
    {rest : Machine V}
    (hPhase : m.threads[t]? = some ph)
    (hMoves : m.Moves t ph ph' facts rest) :
    StepsBy m (some t) (rest.setPhase t ph')
      (facts.map (Note.mk t m.clock))

/- It is a step, whoever takes it. -/
theorem StepsBy.steps
    {m m' : Machine V}
    {taker : Option Nat}
    {ns : List Note}
    (hStepsBy : m.StepsBy taker m' ns) :
    m.Steps m' ns := by
  cases hStepsBy with
  | join => exact .join
  | tick hLater => exact .tick hLater
  | move hPhase hMoves => exact .move hPhase hMoves

------------------------------------------------------------
-- Every Step Is a Move
------------------------------------------------------------

/- A thread that stays in its phase changes no phase. -/
theorem setPhase_of_phase
    {m : Machine V}
    {t : Nat}
    {ph : Phase V}
    (hPhase : m.threads[t]? = some ph) :
    m.setPhase t ph = m := by
  rcases List.getElem?_eq_some_iff.mp hPhase with
    ⟨hLt, rfl⟩
  unfold setPhase
  rw [List.set_getElem_self]

/- The value behind a lock does not move any thread. -/
@[simp] theorem threads_setValue
    (m : Machine V)
    (side : Side)
    (v : V) :
    (m.setValue side v).threads = m.threads := by
  cases side <;> rfl

/- Who holds a lock does not move any thread. -/
@[simp] theorem threads_setHolder
    (m : Machine V)
    (side : Side)
    (holder : Option Nat) :
    (m.setHolder side holder).threads = m.threads := by
  cases side <;> rfl

/- A move that leaves its thread where it is makes a step. -/
theorem StepsBy.stay
    {m rest : Machine V}
    {t : Nat}
    {ph : Phase V}
    {facts : List Fact}
    (hPhase : m.threads[t]? = some ph)
    (hMoves : m.Moves t ph ph facts rest)
    (hThreads : rest.threads = m.threads) :
    m.StepsBy (some t) rest
      (facts.map (Note.mk t m.clock)) := by
  have hSteps := StepsBy.move hPhase hMoves
  rw [← hThreads] at hPhase
  rw [setPhase_of_phase hPhase] at hSteps
  exact hSteps

/- An idle thread is one of the threads, and idle. -/
theorem phase_of_isIdle
    {m : Machine V}
    {t : Nat}
    (hIdle : m.isIdle t = true) :
    m.threads[t]? = some .idle := by
  unfold isIdle at hIdle
  split at hIdle
  · assumption
  · cases hIdle

/- The step of a thread that is inside a call is a move. -/
theorem moves_of_advance
    {m m' : Machine V}
    {t : Nat}
    {ph : Phase V}
    {facts : List Fact}
    (hPhase : m.threads[t]? = some ph)
    (hAdvance : m.advance t = some (m', facts)) :
    ∃ ph' rest,
      m.Moves t ph ph' facts rest ∧
        m' = rest.setPhase t ph' := by
  simp only [advance, hPhase] at hAdvance
  cases ph with
  | idle => cases hAdvance
  | judging side a =>
      simp only [judge, turn_eq] at hAdvance
      cases hAdvance
      exact ⟨_, _, .judge, rfl⟩
  | entering side a =>
      cases side with
      | bound =>
          cases hAdvance
          exact ⟨_, _, .enroll, rfl⟩
      | foreign =>
          cases hAdvance
          exact ⟨_, _, .enterForeign, rfl⟩
  | ticketed a g =>
      simp only [count] at hAdvance
      split at hAdvance
      · rename_i tally hAdd
        cases hAdvance
        have hCounted : m.tally.add.2 = none := by
          rw [hAdd]
        have hTally : m.tally.add.1 = tally := by
          rw [hAdd]
        subst hTally
        exact ⟨_, _, .count hCounted, rfl⟩
      · rename_i tally misuse hAdd
        cases hAdvance
        have hRefused : m.tally.add.2 = some misuse := by
          rw [hAdd]
        have hTally : m.tally.add.1 = tally := by
          rw [hAdd]
        subst hTally
        exact ⟨_, _, .refuse hRefused, rfl⟩
  | withdrawing g misuse =>
      cases hAdvance
      exact ⟨_, _, .withdraw, rfl⟩
  | enrolled a g =>
      cases hAdvance
      exact ⟨_, _, .depart, rfl⟩
  | departed a g =>
      cases hAdvance
      exact ⟨_, _, .watch, rfl⟩
  | watching a g v =>
      simp only [look] at hAdvance
      split at hAdvance
      · rename_i o hLook
        cases hAdvance
        exact ⟨_, _, .settle hLook, rfl⟩
      · rename_i v' wakeAt stalled hLook
        cases hAdvance
        exact ⟨_, _, .park hLook, rfl⟩
  | parked a g v wakeAt => cases hAdvance
  | settled a g v o =>
      cases hAdvance
      exact ⟨_, _, .measure, rfl⟩
  | returning a g o left =>
      simp only [regain] at hAdvance
      split at hAdvance
      · rename_i hFree
        cases hAdvance
        exact ⟨_, _, .regain hFree, rfl⟩
      · cases hAdvance
  | regained a g o left =>
      simp only [resume] at hAdvance
      split at hAdvance
      · rename_i tally hRemove
        rw [turn_eq] at hAdvance
        cases hAdvance
        have hCounted : m.tally.remove.2 = none := by
          rw [hRemove]
        have hTally : m.tally.remove.1 = tally := by
          rw [hRemove]
        subst hTally
        exact ⟨_, _, .resume hCounted, rfl⟩
      · rename_i tally misuse hRemove
        cases hAdvance
        have hRefused : m.tally.remove.2 = some misuse := by
          rw [hRemove]
        have hTally : m.tally.remove.1 = tally := by
          rw [hRemove]
        subst hTally
        exact ⟨_, _, .underflow hRefused, rfl⟩
  | signaling g =>
      simp only [post, Cohort.post] at hAdvance
      by_cases hDropped :
          (m.cohort g).closed = true ∨
            (m.cohort g).registered ≤ (m.cohort g).permits
      · simp only [if_pos hDropped] at hAdvance
        cases hAdvance
        exact ⟨_, _, .drop hDropped, rfl⟩
      · simp only [if_neg hDropped] at hAdvance
        cases hAdvance
        rw [not_or] at hDropped
        exact
          ⟨_, _,
            .post (Bool.eq_false_iff.mpr hDropped.1)
              (Nat.lt_of_not_le hDropped.2),
            rfl⟩
  | announcing g => cases hAdvance
  | locking =>
      simp only [takeLock] at hAdvance
      split at hAdvance
      · rename_i hFree
        cases hAdvance
        exact ⟨_, _, .takeLock hFree, rfl⟩
      · cases hAdvance
  | closing taken =>
      simp only [close] at hAdvance
      split at hAdvance
      · rename_i hClosed
        cases hAdvance
        exact ⟨_, _, .closeAgain hClosed, rfl⟩
      · rename_i hOpen
        simp only [Cohort.close, if_neg hOpen] at hAdvance
        cases hAdvance
        exact
          ⟨_, _, .close (Bool.eq_false_iff.mpr hOpen), rfl⟩
  | rousing taken g r =>
      cases hAdvance
      exact ⟨_, _, .rouse, rfl⟩
  | renewing taken g r =>
      cases taken with
      | false =>
          cases hAdvance
          exact ⟨_, _, .renew, rfl⟩
      | true =>
          cases hAdvance
          exact ⟨_, _, .renewTaken, rfl⟩

/- The telling of a signal is a move. -/
theorem moves_of_notify
    {m m' : Machine V}
    {t : Nat}
    {target : Option Nat}
    {facts : List Fact}
    (hNotify : m.notify t target = some (m', facts)) :
    ∃ ph ph' rest,
      m.threads[t]? = some ph ∧
        ph ≠ .idle ∧
        m.Moves t ph ph' facts rest ∧
        m' = rest.setPhase t ph' := by
  unfold notify at hNotify
  split at hNotify
  · rename_i g hPhase
    split at hNotify
    · split at hNotify
      · cases hNotify
      · rename_i hNone
        cases hNotify
        exact
          ⟨_, _, _, hPhase, nofun,
            .announceNobody (Bool.eq_false_iff.mpr hNone),
            rfl⟩
    · split at hNotify
      · rename_i ph hTarget
        split at hNotify
        · rename_i hParked
          cases hNotify
          exact
            ⟨_, _, _, hPhase, nofun,
              .announce hTarget hParked, rfl⟩
        · cases hNotify
      · cases hNotify
  · cases hNotify

/- A noted step tells the facts of the step. -/
theorem eq_of_noted
    {m' : Machine V}
    {t : Nat}
    {time : Instant}
    {after : After V}
    {ns : List Note}
    (hNoted : noted time t after = some (m', ns)) :
    ∃ facts,
      after = some (m', facts) ∧
        ns = facts.map (Note.mk t time) := by
  cases after with
  | none => cases hNoted
  | some result =>
      cases hNoted
      exact ⟨_, rfl, rfl⟩

/- Time goes on and never back. -/
theorem tick_of_step
    {m m' : Machine V}
    {d : Duration}
    {ns : List Note}
    (hStep : m.step (.tick d) = some (m', ns)) :
    ∃ now,
      m.clock ≤ now ∧ m' = { m with clock := now } ∧
        ns = [] := by
  rcases Option.map_eq_some_iff.mp hStep with
    ⟨now, hAfter, hEq⟩
  cases hEq
  have hNanos := Instant.nanos_of_after? hAfter
  exact ⟨now, Nat.le.intro hNanos.symm, rfl, rfl⟩

/- An idle thread that takes a lock finds it free. -/
theorem acquire_of_step
    {m m' : Machine V}
    {t : Nat}
    {side : Side}
    {ns : List Note}
    (hStep : m.step (.acquire t side) = some (m', ns)) :
    m.threads[t]? = some .idle ∧
      (m.lock side).holder = none ∧
      m' = m.setHolder side (some t) ∧ ns = [] := by
  rcases eq_of_noted hStep with ⟨facts, hAcquire, rfl⟩
  unfold acquire at hAcquire
  split at hAcquire
  · rename_i hIdle
    cases hAcquire
    exact ⟨phase_of_isIdle hIdle.1, hIdle.2, rfl, rfl⟩
  · cases hAcquire

/- An idle thread that releases a lock has held it. -/
theorem release_of_step
    {m m' : Machine V}
    {t : Nat}
    {side : Side}
    {ns : List Note}
    (hStep : m.step (.release t side) = some (m', ns)) :
    m.threads[t]? = some .idle ∧
      m.holds t side = true ∧
      m' = m.setHolder side none ∧ ns = [] := by
  rcases eq_of_noted hStep with ⟨facts, hRelease, rfl⟩
  unfold release at hRelease
  split at hRelease
  · rename_i hIdle
    cases hRelease
    exact ⟨phase_of_isIdle hIdle.1, hIdle.2, rfl, rfl⟩
  · cases hRelease

/- An idle thread that sets a value holds the lock. -/
theorem write_of_step
    {m m' : Machine V}
    {t : Nat}
    {side : Side}
    {v : V}
    {ns : List Note}
    (hStep : m.step (.write t side v) = some (m', ns)) :
    m.threads[t]? = some .idle ∧
      m.holds t side = true ∧
      m' = m.setValue side v ∧
      ns = [Fact.wrote].map (Note.mk t m.clock) := by
  rcases eq_of_noted hStep with ⟨facts, hWrite, rfl⟩
  unfold write at hWrite
  split at hWrite
  · rename_i hIdle
    cases hWrite
    exact ⟨phase_of_isIdle hIdle.1, hIdle.2, rfl, rfl⟩
  · cases hWrite

/- An idle thread that begins to wait holds the lock. -/
theorem call_of_step
    {m m' : Machine V}
    {t : Nat}
    {side : Side}
    {c : Call V}
    {ns : List Note}
    (hStep : m.step (.call t side c) = some (m', ns)) :
    m.threads[t]? = some .idle ∧
      m.holds t side = true ∧
      m' = m.setPhase t (c.begin.phase side) ∧ ns = [] := by
  rcases eq_of_noted hStep with ⟨facts, hCall, rfl⟩
  unfold call at hCall
  split at hCall
  · rename_i hIdle
    rw [turn_eq, facts_begin] at hCall
    cases hCall
    exact ⟨phase_of_isIdle hIdle.1, hIdle.2, rfl, rfl⟩
  · cases hCall

/- An idle thread that signals has read the current cohort. -/
theorem signal_of_step
    {m m' : Machine V}
    {t : Nat}
    {ns : List Note}
    (hStep : m.step (.signal t) = some (m', ns)) :
    m.threads[t]? = some .idle ∧
      m' = m.setPhase t (.signaling m.current) ∧
      ns = [] := by
  rcases eq_of_noted hStep with ⟨facts, hSignal, rfl⟩
  unfold signal at hSignal
  split at hSignal
  · rename_i hIdle
    cases hSignal
    exact ⟨phase_of_isIdle hIdle, rfl, rfl⟩
  · cases hSignal

/- An idle thread that interrupts wants the lock. -/
theorem interrupt_of_step
    {m m' : Machine V}
    {t : Nat}
    {ns : List Note}
    (hStep : m.step (.interrupt t) = some (m', ns)) :
    m.threads[t]? = some .idle ∧
      m' = m.setPhase t .locking ∧ ns = [] := by
  rcases eq_of_noted hStep with ⟨facts, hInterrupt, rfl⟩
  unfold interrupt at hInterrupt
  split at hInterrupt
  · rename_i hIdle
    cases hInterrupt
    exact ⟨phase_of_isIdle hIdle, rfl, rfl⟩
  · cases hInterrupt

/- An idle thread that has the bound lock may interrupt. -/
theorem interruptHeld_of_step
    {m m' : Machine V}
    {t : Nat}
    {ns : List Note}
    (hStep :
      m.step (.interruptHeld t .bound) = some (m', ns)) :
    m.threads[t]? = some .idle ∧
      m.holds t .bound = true ∧
      m' = m.setPhase t (.closing false) ∧ ns = [] := by
  rcases eq_of_noted hStep with ⟨facts, hInterrupt, rfl⟩
  unfold interruptHeld at hInterrupt
  split at hInterrupt
  · rename_i hIdle
    cases hInterrupt
    exact ⟨phase_of_isIdle hIdle.1, hIdle.2, rfl, rfl⟩
  · cases hInterrupt

/- An idle thread cannot interrupt with the other lock. -/
theorem interruptForeign_of_step
    {m m' : Machine V}
    {t : Nat}
    {ns : List Note}
    (hStep :
      m.step (.interruptHeld t .foreign) = some (m', ns)) :
    m.threads[t]? = some .idle ∧
      m.holds t .foreign = true ∧ m' = m ∧
      ns =
        [Fact.finished (.misused .foreignLock)].map
          (Note.mk t m.clock) := by
  rcases eq_of_noted hStep with ⟨facts, hInterrupt, rfl⟩
  unfold interruptHeld at hInterrupt
  split at hInterrupt
  · rename_i hIdle
    cases hInterrupt
    exact ⟨phase_of_isIdle hIdle.1, hIdle.2, rfl, rfl⟩
  · cases hInterrupt

/- The labels by which a thread goes on with its call. -/
inductive Goes (t : Nat) : Label V → Prop where
| advance : Goes t (.advance t)
| notify {target : Option Nat} : Goes t (.notify t target)
| expire : Goes t (.expire t)

/- A thread that goes on with its call makes a move. -/
theorem moves_of_goes
    {m m' : Machine V}
    {t : Nat}
    {l : Label V}
    {ns : List Note}
    (hGoes : Goes t l)
    (hStep : m.step l = some (m', ns)) :
    ∃ ph ph' facts rest,
      m.threads[t]? = some ph ∧
        ph ≠ .idle ∧
        m.Moves t ph ph' facts rest ∧
        m' = rest.setPhase t ph' ∧
        ns = facts.map (Note.mk t m.clock) := by
  cases hGoes with
  | advance =>
      rcases eq_of_noted hStep with ⟨facts, hAdvance, rfl⟩
      cases hPhase : m.threads[t]? with
      | none =>
          simp only [advance, hPhase] at hAdvance
          cases hAdvance
      | some ph =>
          have hBusy : ph ≠ .idle := by
            rintro rfl
            simp only [advance, hPhase] at hAdvance
            cases hAdvance
          rcases moves_of_advance hPhase hAdvance with
            ⟨ph', rest, hMoves, hRest⟩
          exact
            ⟨ph, ph', facts, rest, rfl, hBusy, hMoves, hRest,
              rfl⟩
  | notify =>
      rcases eq_of_noted hStep with ⟨facts, hNotify, rfl⟩
      rcases moves_of_notify hNotify with
        ⟨ph, ph', rest, hPhase, hBusy, hMoves, hRest⟩
      exact
        ⟨ph, ph', facts, rest, hPhase, hBusy, hMoves, hRest,
          rfl⟩
  | expire =>
      rcases eq_of_noted hStep with ⟨facts, hExpire, rfl⟩
      unfold expire at hExpire
      split at hExpire
      · rename_i a g v wakeAt hPhase
        split at hExpire
        · rename_i hDue
          cases hExpire
          exact
            ⟨_, _, _, m, hPhase, nofun,
              .expire hDue, rfl, rfl⟩
        · cases hExpire
      · cases hExpire

/-
  Every step that can be taken is one of the steps listed, by
  the thread that its label names.
-/
theorem stepsBy_of_step
    {m m' : Machine V}
    {l : Label V}
    {ns : List Note}
    (hStep : m.step l = some (m', ns)) :
    m.StepsBy l.thread? m' ns := by
  have hGoing :
      ∀ {t : Nat}, Goes t l → m.StepsBy (some t) m' ns := by
    intro t hGoes
    rcases moves_of_goes hGoes hStep with
      ⟨ph, ph', facts, rest, hPhase, _, hMoves, rfl, rfl⟩
    exact .move hPhase hMoves
  cases l with
  | join =>
      cases hStep
      exact .join
  | tick d =>
      rcases tick_of_step hStep with ⟨now, hLater, rfl, rfl⟩
      exact .tick hLater
  | acquire t side =>
      rcases acquire_of_step hStep with
        ⟨hIdle, hFree, rfl, rfl⟩
      exact
        .stay hIdle (.acquire hFree)
          (threads_setHolder m side (some t))
  | release t side =>
      rcases release_of_step hStep with
        ⟨hIdle, hHeld, rfl, rfl⟩
      exact
        .stay hIdle (.release hHeld)
          (threads_setHolder m side none)
  | write t side v =>
      rcases write_of_step hStep with ⟨hIdle, hHeld, rfl, rfl⟩
      exact
        .stay hIdle (.write hHeld) (threads_setValue m side v)
  | call t side c =>
      rcases call_of_step hStep with ⟨hIdle, hHeld, rfl, rfl⟩
      exact .move hIdle (.call hHeld)
  | signal t =>
      rcases signal_of_step hStep with ⟨hIdle, rfl, rfl⟩
      exact .move hIdle .signal
  | interrupt t =>
      rcases interrupt_of_step hStep with ⟨hIdle, rfl, rfl⟩
      exact .move hIdle .interrupt
  | interruptHeld t side =>
      cases side with
      | bound =>
          rcases interruptHeld_of_step hStep with
            ⟨hIdle, hHeld, rfl, rfl⟩
          exact .move hIdle (.interruptHeld hHeld)
      | foreign =>
          rcases interruptForeign_of_step hStep with
            ⟨hIdle, hHeld, rfl, rfl⟩
          exact .stay hIdle (.interruptForeign hHeld) rfl
  | advance t => exact hGoing .advance
  | notify t target => exact hGoing .notify
  | expire t => exact hGoing .expire

/- So a step, whoever takes it, is one of those listed. -/
theorem steps_of_step
    {m m' : Machine V}
    {l : Label V}
    {ns : List Note}
    (hStep : m.step l = some (m', ns)) :
    m.Steps m' ns :=
  (stepsBy_of_step hStep).steps

------------------------------------------------------------
-- Runs
------------------------------------------------------------

/- A run begins with the step of its first label. -/
theorem run_cons
    {m m'' : Machine V}
    {l : Label V}
    {ls : List (Label V)}
    {ns : List Note}
    (hRun : m.run (l :: ls) = some (m'', ns)) :
    ∃ m' ns₁ ns₂,
      m.step l = some (m', ns₁) ∧
        m'.run ls = some (m'', ns₂) ∧ ns = ns₁ ++ ns₂ := by
  rw [run] at hRun
  rcases Option.bind_eq_some_iff.mp hRun with
    ⟨⟨m', ns₁⟩, hStep, hRest⟩
  rcases Option.bind_eq_some_iff.mp hRest with
    ⟨⟨m₂, ns₂⟩, hTail, hEq⟩
  cases hEq
  exact ⟨m', ns₁, ns₂, hStep, hTail, rfl⟩

/- What a run of labels arrives at is reached. -/
theorem Reaches.of_run
    {m m' m'' : Machine V}
    {past ns : List Note}
    {ls : List (Label V)}
    (hReaches : m.Reaches past m')
    (hRun : m'.run ls = some (m'', ns)) :
    m.Reaches (past ++ ns) m'' := by
  induction ls generalizing m' past ns with
  | nil =>
      cases hRun
      rw [List.append_nil]
      exact hReaches
  | cons l ls ih =>
      rcases run_cons hRun with
        ⟨m₁, ns₁, ns₂, hStep, hTail, rfl⟩
      rw [← List.append_assoc]
      exact ih (hReaches.step hStep) hTail

/- What is reached from a machine that was reached, is. -/
theorem Reaches.trans
    {m m' m'' : Machine V}
    {past ns : List Note}
    (hReaches : m.Reaches past m')
    (hOn : m'.Reaches ns m'') :
    m.Reaches (past ++ ns) m'' := by
  induction hOn with
  | refl =>
      rw [List.append_nil]
      exact hReaches
  | step _ hStep ih =>
      rw [← List.append_assoc]
      exact ih.step hStep

/-
  What holds of a machine and its history before every step
  and after it holds wherever the machine gets.
-/
theorem Reaches.invariant
    {P : List Note → Machine V → Prop}
    {m m' : Machine V}
    {ns : List Note}
    (hReaches : m.Reaches ns m')
    (hStart : P [] m)
    (hSteps :
      ∀ {m₁ m₂ : Machine V} {past ns : List Note},
        P past m₁ → m₁.Steps m₂ ns → P (past ++ ns) m₂) :
    P ns m' := by
  induction hReaches with
  | refl => exact hStart
  | step _ hStep ih => exact hSteps ih (steps_of_step hStep)

end Machine

end CondVar
