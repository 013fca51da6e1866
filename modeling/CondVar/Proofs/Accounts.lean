import CondVar.Proofs.Crowd
import CondVar.Proofs.Timely
import Mathlib.Algebra.BigOperators.Group.Finset.Piecewise

/-
  What the tally and the cohorts count, taken together.

  The tally counts a thread from its registration until it
  has the lock again and returns, and a cohort only until the
  wait is settled.  While nobody has the lock, the threads
  that are in the tally and in no cohort are those that are
  settled and want the lock back.

  Main declarations:
    * `Machine.Census.sum_registered`
    * `Machine.Sound.isCounted_iff`
    * `Machine.Moves.idle_of_finished`
    * `Machine.waiters_accounted`
-/

namespace CondVar

------------------------------------------------------------
-- Registered Anywhere
------------------------------------------------------------

namespace Standing

/- Whether a thread is registered with some cohort. -/
def isEnlisted : Standing → Bool
| .door _ => true
| .enrolled _ => true
| .waiting _ => true
| _ => false

/- Whether a thread has its outcome and wants the lock back. -/
def isEnded : Standing → Bool
| .ended _ _ => true
| _ => false

/- A thread is registered with one cohort, or with none. -/
theorem sum_isRegistered
    {s : Standing}
    {n : Nat}
    (hNumber : ∀ g, s.isRegistered g = true → g < n) :
    ∑ g ∈ Finset.range n, (s.isRegistered g).toNat =
      s.isEnlisted.toNat := by
  have hOne :
      ∀ {g' : Nat}, g' < n →
        ∑ g ∈ Finset.range n, (decide (g' = g)).toNat = 1 := by
    intro g' hLt
    simp only [toNat_eq_ite, decide_eq_true_eq]
    rw [Finset.sum_ite_eq, if_pos (Finset.mem_range.mpr hLt)]
  cases s with
  | door g => exact hOne (hNumber g (decide_eq_true rfl))
  | enrolled g => exact hOne (hNumber g (decide_eq_true rfl))
  | waiting g => exact hOne (hNumber g (decide_eq_true rfl))
  | _ => exact Finset.sum_const_zero

/-
  Counting the registered cohort by cohort counts each of
  them once.
-/
theorem sum_countP_isRegistered
    {ss : List Standing}
    {n : Nat}
    (hNumber :
      ∀ s ∈ ss, ∀ g, s.isRegistered g = true → g < n) :
    ∑ g ∈ Finset.range n, ss.countP (isRegistered g) =
      ss.countP isEnlisted := by
  induction ss with
  | nil => exact Finset.sum_const_zero
  | cons s ss ih =>
      have hHead :=
        sum_isRegistered (hNumber s List.mem_cons_self)
      have hTail :=
        ih
          (fun s' hMem =>
            hNumber s' (List.mem_cons_of_mem _ hMem))
      simp only [toNat_eq_ite] at hHead
      simp only [List.countP_cons, Finset.sum_add_distrib]
      rw [hTail, hHead]

end Standing

namespace Phase

variable {V : Type}

/- Whether a thread blocks: it has released the lock to wait. -/
def isBlocked : Phase V → Bool
| .departed _ _ => true
| .watching _ _ _ => true
| .parked _ _ _ _ => true
| .settled _ _ _ _ => true
| .returning _ _ _ _ => true
| _ => false

/- A thread that blocks is counted. -/
theorem isCounted_of_isBlocked
    {ph : Phase V}
    (hBlocked : ph.isBlocked = true) :
    ph.standing.isCounted = true := by
  cases ph <;> first | rfl | cases hBlocked

end Phase

namespace Machine

variable {V : Type}

/- The cohorts count all that are registered, each once. -/
theorem Census.sum_registered
    {m : Machine V}
    (hCensus : m.Census)
    (hOrderly : m.Orderly) :
    ∑ g ∈ Finset.range m.cohorts.length,
        (m.cohort g).registered =
      m.standings.countP Standing.isEnlisted := by
  rw [Finset.sum_congr rfl (fun g _ => hCensus g)]
  apply Standing.sum_countP_isRegistered
  intro s hMem g hRegistered
  rcases List.getElem?_of_mem hMem with ⟨t, hStanding⟩
  rw [hOrderly.numbered]
  exact
    Nat.lt_succ_of_le
      (hOrderly.le_current_of_registered hStanding hRegistered)

/-
  While nobody has the lock, a thread that is counted is
  registered or has its outcome, and the other way round.
-/
theorem Locked.countP_isCounted
    {m : Machine V}
    (hLocked : m.Locked)
    (hFree : m.bound.holder = none) :
    m.standings.countP Standing.isCounted =
      m.standings.countP Standing.isEnlisted +
        m.standings.countP Standing.isEnded := by
  have hNobody :
      ∀ s ∈ m.standings, s.holdsLock = false := by
    intro s hMem
    rcases List.getElem?_of_mem hMem with ⟨t, hStanding⟩
    cases hHolds : s.holdsLock with
    | false => rfl
    | true =>
        have hHolder := hLocked t s hStanding hHolds
        rw [hFree] at hHolder
        cases hHolder
  generalize m.standings = ss at hNobody
  induction ss with
  | nil => rfl
  | cons s ss ih =>
      have hOne :
          s.isCounted.toNat =
            s.isEnlisted.toNat + s.isEnded.toNat := by
        have hOut := hNobody s List.mem_cons_self
        cases s <;> first | rfl | cases hOut
      have hRest :=
        ih
          (fun s' hMem =>
            hNobody s' (List.mem_cons_of_mem _ hMem))
      simp only [toNat_eq_ite] at hOne
      simp only [List.countP_cons]
      omega

------------------------------------------------------------
-- Calls That End
------------------------------------------------------------

/- A thread is counted for a wait it has not returned from. -/
theorem Sound.isCounted_iff
    {m : Machine V}
    {ns : List Note}
    {t : Nat}
    {s : Standing}
    (hSound : Sound ns m)
    (hStanding : m.standings[t]? = some s) :
    s.isCounted = true ↔
      ∃ x ∈ waits ns, x.isOpen t = true := by
  rw [Standing.isCounted_eq]
  constructor
  · intro hSome
    rcases Option.isSome_iff_exists.mp hSome with
      ⟨status, hWait⟩
    rcases hSound.ledger.exists_wait hStanding hWait with
      ⟨x, hMem, hOpen, _⟩
    exact ⟨x, hMem, hOpen⟩
  · rintro ⟨x, hMem, hOpen⟩
    rcases of_decide_eq_true hOpen with ⟨hMine, hGoing⟩
    cases hWait : s.wait? with
    | some status => rfl
    | none =>
        have hOver :=
          hSound.ledger.returned_of_no_wait hStanding hWait x
            hMem hMine
        rw [hGoing] at hOver
        cases hOver

/- A call ends with its thread outside. -/
theorem Turn.idle_of_finished
    {side : Side}
    {next : Turn V}
    {e : Ending}
    (hFinished : Fact.finished e ∈ next.facts) :
    next.phase side = .idle := by
  cases next with
  | finish e' => rfl
  | _ => cases hFinished

/- A thread whose call ends is outside after that move. -/
theorem Moves.idle_of_finished
    {m rest : Machine V}
    {t : Nat}
    {ph ph' : Phase V}
    {facts : List Fact}
    {e : Ending}
    (hMoves : m.Moves t ph ph' facts rest)
    (hFinished : Fact.finished e ∈ facts) :
    ph' = .idle := by
  cases hMoves with
  | interruptForeign hHeld => rfl
  | judge =>
      rcases List.mem_cons.mp hFinished with hHead | hTurn
      · cases hHead
      · exact Turn.idle_of_finished hTurn
  | enterForeign => rfl
  | withdraw => rfl
  | resume hCounted =>
      rcases List.mem_cons.mp hFinished with hHead | hTurn
      · cases hHead
      · exact Turn.idle_of_finished hTurn
  | underflow hRefused => rfl
  | @park a g v v' wakeAt stalled hLook =>
      cases stalled <;> simp at hFinished
  | _ => simp at hFinished

/- When nobody waits, nobody is counted or registered. -/
theorem ReachesUncrowded.nobody_counted
    {m : Machine V}
    {s : Settings}
    {value foreign : V}
    {ns : List Note}
    (hReaches :
      (fresh s value foreign).ReachesUncrowded ns m)
    (hNobody : m.waiters = 0) :
    m.tally.hasWaiters = false ∧
      ∀ g, (m.cohort g).registered = 0 := by
  have hNot :
      ∀ s ∈ m.standings, s.isWaiter = false := by
    intro s hMem
    exact
      Bool.eq_false_iff.mpr
        (List.countP_eq_zero.mp hNobody s hMem)
  constructor
  · have hZero : m.tally.count.toNat = 0 := by
      rw [hReaches.tallied.counted, List.countP_eq_zero]
      intro s hMem hCounted
      have hWaiter := Standing.isWaiter_of_isCounted hCounted
      rw [hNot s hMem] at hWaiter
      cases hWaiter
    apply decide_eq_false
    intro hSome
    rw [UInt64.lt_iff_toNat_lt, hZero] at hSome
    exact Nat.not_lt_zero _ hSome
  · intro g
    rw [hReaches.reaches.sound.census g, List.countP_eq_zero]
    intro s hMem hRegistered
    have hWaiter := Standing.isWaiter_of_isRegistered hRegistered
    rw [hNot s hMem] at hWaiter
    cases hWaiter

/-
  A call that ends leaves its thread outside, and the thread
  has returned from all its waits.
-/
theorem Sound.call_over
    {m m' : Machine V}
    {past ns : List Note}
    {l : Label V}
    {n : Note}
    {e : Ending}
    (hSound : Sound (past ++ ns) m')
    (hStep : m.step l = some (m', ns))
    (hMem : n ∈ ns)
    (hFinished : n.fact = .finished e) :
    m'.threads[n.thread]? = some .idle ∧
      ∀ x ∈ waits (past ++ ns),
        x.thread = n.thread → x.returned.isSome = true := by
  have hIdle : m'.threads[n.thread]? = some .idle := by
    cases steps_of_step hStep with
    | join => cases hMem
    | tick hLater => cases hMem
    | move hPhase hMoves =>
        rcases List.mem_map.mp hMem with ⟨f, hFact, rfl⟩
        subst hFinished
        have hOver := hMoves.idle_of_finished hFact
        subst hOver
        exact hMoves.phase_self hPhase
  refine ⟨hIdle, ?_⟩
  exact
    hSound.ledger.returned_of_no_wait
      (standings_of_phase hIdle) rfl

------------------------------------------------------------
-- Every Waiter Is Accounted For
------------------------------------------------------------

/-
  In every history without crowding: while nobody has the
  lock, the tally is the number of those registered with any
  cohort and of those who are settled and want the lock back.
  At any time the tally is the number of threads counted in
  and not out, which are those that the history knows in a
  wait, each cohort's number is that of the threads registered
  with it, and whoever blocks is counted.  The tally refuses
  nobody.  However a call ends, its thread is outside then and
  has been counted out of all its waits.  Once nobody waits,
  the tally is empty and so are all cohorts.
-/
theorem waiters_accounted
    {m : Machine V}
    {s : Settings}
    {value foreign : V}
    {ns : List Note}
    (hReaches :
      (fresh s value foreign).ReachesUncrowded ns m) :
    (m.bound.holder = none →
      m.tally.count.toNat =
        ∑ g ∈ Finset.range m.cohorts.length,
            (m.cohort g).registered +
          m.standings.countP Standing.isEnded) ∧
    m.tally.count.toNat =
      m.standings.countP Standing.isCounted ∧
    (∀ g,
      (m.cohort g).registered =
        m.standings.countP (Standing.isRegistered g)) ∧
    (∀ (t : Nat) ph,
      m.threads[t]? = some ph →
        (ph.standing.isCounted = true ↔
          ∃ x ∈ waits ns, x.isOpen t = true) ∧
        (ph.isBlocked = true →
          ph.standing.isCounted = true)) ∧
    (∀ n ∈ ns, n.fact.isMiscount = false) ∧
    (∀ l m' ns',
      m.step l = some (m', ns') →
        ∀ n ∈ ns', ∀ e,
          n.fact = .finished e →
            m'.threads[n.thread]? = some .idle ∧
              ∀ x ∈ waits (ns ++ ns'),
                x.thread = n.thread →
                  x.returned.isSome = true) ∧
    (m.waiters = 0 →
      m.tally.hasWaiters = false ∧
        ∀ g, (m.cohort g).registered = 0) := by
  have hSound := hReaches.reaches.sound
  have hTally := hReaches.tallied.counted
  refine
    ⟨?_, hTally, hSound.census, ?_, hReaches.no_miscount, ?_,
      hReaches.nobody_counted⟩
  · intro hFree
    rw [hTally,
      hSound.orderly.locked.countP_isCounted hFree,
      hSound.census.sum_registered hSound.orderly]
  · intro t ph hPhase
    exact
      ⟨hSound.isCounted_iff (standings_of_phase hPhase),
        Phase.isCounted_of_isBlocked⟩
  · intro l m' ns' hStep n hMem e hFinished
    have hSound' := (hReaches.reaches.step hStep).sound
    exact hSound'.call_over hStep hMem hFinished

/-
  A wait is signaled and has not got the lock back, so that
  the tally counts it and no cohort does.  The condition of
  its call breaks off when it is evaluated again, and that
  leaves nothing counted.
-/
theorem waiters_accounted_despite_abort :
    ∃ (m m' m'' : Machine Int) (ns ns' ns'' : List Note)
      (message : String),
      (fresh .standard 0 0).ReachesUncrowded ns m ∧
        m.bound.holder = none ∧
        m.tally.count.toNat = 1 ∧
        m.tally.count.toNat =
          ∑ g ∈ Finset.range m.cohorts.length,
              (m.cohort g).registered +
            m.standings.countP Standing.isEnded ∧
        (fresh .standard 0 0).ReachesUncrowded ns' m' ∧
        m'.step (.advance 0) = some (m'', ns'') ∧
        ⟨0, ⟨0⟩, .finished (.aborted message)⟩ ∈ ns'' ∧
        m''.threads[0]? = some .idle ∧
        (fresh .standard 0 0).ReachesUncrowded
          (ns' ++ ns'') m'' ∧
        m''.tally.hasWaiters = false := by
  have hRuns :
      ∃ (m m' m'' : Machine Int) (ns ns' ns'' : List Note)
        (message : String),
        (fresh .standard 0 0).run
            [.join, .join, .acquire 0 .bound,
              .call 0 .bound (.waitWhile (.abortAt 2)),
              .advance 0, .advance 0, .advance 0, .advance 0,
              .advance 0, .acquire 1 .bound, .signal 1,
              .advance 1, .notify 1 none, .release 1 .bound,
              .advance 0] =
          some (m, ns) ∧
        m.run [.advance 0, .advance 0, .advance 0] =
          some (m', ns') ∧
        m'.step (.advance 0) = some (m'', ns'') ∧
        ⟨0, ⟨0⟩, .finished (.aborted message)⟩ ∈ ns'' ∧
        m.bound.holder = none ∧
        m.tally.count = 1 ∧
        m.threads.length = 2 ∧
        m'.threads.length = 2 ∧
        m''.threads.length = 2 ∧
        m''.waiters = 0 :=
    ⟨_, _, _, _, _, _, _, rfl, rfl, rfl,
      List.mem_cons_of_mem _ List.mem_cons_self, rfl, rfl, rfl,
      rfl, rfl, rfl⟩
  rcases hRuns with
    ⟨m, m', m'', ns, ns', ns'', message, hRun, hOn, hStep,
      hAborted, hFree, hOne, hTwo, hTwo', hTwo'', hNobody⟩
  have hFirst := Reaches.of_run .refl hRun
  have hThen := Reaches.of_run hFirst hOn
  have hReaches : ReachesUncrowded _ _ m :=
    .of_threads hFirst (by rw [hTwo]; decide)
  have hReaches' : ReachesUncrowded _ _ m' :=
    .of_threads hThen (by rw [hTwo']; decide)
  have hReaches'' : ReachesUncrowded _ _ m'' :=
    .of_threads (hThen.step hStep) (by rw [hTwo'']; decide)
  have hCount := (waiters_accounted hReaches).1 hFree
  rcases waiters_accounted hReaches' with
    ⟨_, _, _, _, _, hOver, _⟩
  rcases waiters_accounted hReaches'' with
    ⟨_, _, _, _, _, _, hEmpty⟩
  exact
    ⟨m, m', m'', _, _, ns'', message, hReaches, hFree,
      by rw [hOne]; rfl, hCount, hReaches', hStep, hAborted,
      (hOver _ _ _ hStep _ hAborted _ rfl).1, hReaches'',
      (hEmpty hNobody).1⟩

end Machine

end CondVar
