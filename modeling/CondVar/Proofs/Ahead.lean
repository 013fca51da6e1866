import CondVar.Atomic
import CondVar.Proofs.Following
import CondVar.Proofs.Order

/-
  A machine as an atomic system sees it.

  Between the close of the current cohort and its replacement
  the atomic system is ahead: there the new cohort is in place
  at once, and every signal that has read the old one has
  found nobody.  Nobody registers meanwhile, because the lock
  is held.  A signal of which a waiter is yet to be told has
  taken effect as well.

  Main declarations:
    * `Machine.atomic`
    * `Machine.Moves.ahead`
    * `Machine.step_atomic_of_plain`
-/

namespace CondVar

variable {V : Type}

------------------------------------------------------------
-- Phases
------------------------------------------------------------

namespace Phase

/- A thread's phase in the atomic system. -/
def atomic (ph : Phase V) : Phase V :=
  match ph with
  | .signaling _ => .signaling 0
  | .announcing _ => .signaling 0
  | .rousing taken g r => .renewing taken g r
  | _ => ph

/-
  Whether a thread is inside a wait, and awake, or is taking
  the lock for an interrupt.
-/
def isPlain : Phase V → Bool
| .judging _ _ => true
| .entering _ _ => true
| .ticketed _ _ => true
| .withdrawing _ _ => true
| .enrolled _ _ => true
| .departed _ _ => true
| .watching _ _ _ => true
| .settled _ _ _ _ => true
| .returning _ _ _ _ => true
| .regained _ _ _ _ => true
| .locking => true
| _ => false

/- Whether a thread is parked. -/
def isAsleep : Phase V → Bool
| .parked _ _ _ _ => true
| _ => false

/- The phase in which a turn is taken is no signal's. -/
theorem atomic_turn
    (side : Side)
    (next : Turn V) :
    (next.phase side).atomic = next.phase side := by
  cases next <;> rfl

end Phase

------------------------------------------------------------
-- The Atomic View
------------------------------------------------------------

namespace Machine

/- The cohort that is to replace a closed current one. -/
def next (m : Machine V) : List Cohort :=
  if (m.cohort m.current).closed then
    [.fresh (m.current + 1)]
  else
    []

/- The number of the cohort that is the first to be open. -/
def front (m : Machine V) : Nat :=
  if (m.cohort m.current).closed then m.current + 1
  else m.current

/- The machine `rest`, with what comes next after `m`. -/
def aheadOf
    (rest : Machine V)
    (m : Machine V) : Machine V :=
  { rest with
    cohorts := rest.cohorts ++ m.next
    current := m.front
    threads := m.threads.map Phase.atomic }

/- A machine in which a closed cohort is replaced at once. -/
def ahead (m : Machine V) : Machine V :=
  m.aheadOf m

/-
  What a signal is to report if it has taken effect.  One that
  is to post to a closed cohort has, and found nobody.
-/
def answerTo
    (m : Machine V) :
    Phase V → Option WakeReport
| .signaling g =>
    if (m.cohort g).closed then some .nobody else none
| .announcing _ => some (.woken 1)
| _ => none

/- A machine as an atomic system. -/
def atomic (m : Machine V) : Atomic V where
  core := m.ahead
  answers := fun t => m.threads[t]?.bind m.answerTo

/- The atomic view is its core and its answers. -/
theorem atomic_eq
    {a : Atomic V}
    {m : Machine V}
    (hCore : a.core = m.ahead)
    (hAnswers : a.answers = m.atomic.answers) :
    a = m.atomic := by
  cases a with
  | mk core answers =>
      cases hCore
      cases hAnswers
      rfl

/- While the current cohort is open, nothing is ahead. -/
theorem ahead_of_open
    {m : Machine V}
    (hOpen : (m.cohort m.current).closed = false) :
    m.next = [] ∧ m.front = m.current := by
  unfold next front
  rw [hOpen]
  exact ⟨rfl, rfl⟩

/- Once the current cohort is closed, the next is ahead. -/
theorem ahead_of_closed
    {m : Machine V}
    (hClosed : (m.cohort m.current).closed = true) :
    m.next = [.fresh (m.current + 1)] ∧
      m.front = m.current + 1 := by
  unfold next front
  rw [hClosed]
  exact ⟨rfl, rfl⟩

/- A thread's phase in the atomic view. -/
theorem phase_aheadOf
    {m : Machine V}
    {t : Nat}
    {ph : Phase V}
    (hPhase : m.threads[t]? = some ph)
    (rest : Machine V) :
    (rest.aheadOf m).threads[t]? = some ph.atomic := by
  change (m.threads.map Phase.atomic)[t]? = _
  rw [List.getElem?_map, hPhase]
  rfl

/- What is ahead does not change the cohorts there are. -/
theorem cohort_aheadOf
    {m rest : Machine V}
    {g : Nat}
    (hLt : g < rest.cohorts.length) :
    (rest.aheadOf m).cohort g = rest.cohort g := by
  unfold cohort aheadOf
  rw [List.getElem?_append_left hLt]

/- Every cohort up to the current one is there. -/
theorem Orderly.lt_length
    {m : Machine V}
    {g : Nat}
    (hOrderly : m.Orderly)
    (hLe : g ≤ m.current) :
    g < m.cohorts.length := by
  rw [hOrderly.numbered]
  exact Nat.lt_succ_of_le hLe

/- Changing a cohort goes with what is ahead. -/
theorem setCohort_aheadOf
    {m rest : Machine V}
    {g : Nat}
    (hLt : g < rest.cohorts.length)
    (c : Cohort) :
    (rest.aheadOf m).setCohort g c =
      (rest.setCohort g c).aheadOf m := by
  unfold setCohort aheadOf
  rw [List.set_append_left _ _ hLt]

/- Setting a value goes with what is ahead. -/
theorem setValue_aheadOf
    (m rest : Machine V)
    (side : Side)
    (v : V) :
    (rest.aheadOf m).setValue side v =
      (rest.setValue side v).aheadOf m := by
  cases side <;> rfl

/- The locks are the same in the atomic view. -/
theorem lock_aheadOf
    (m rest : Machine V)
    (side : Side) :
    (rest.aheadOf m).lock side = rest.lock side := by
  cases side <;> rfl

/- Who holds a lock is the same in the atomic view. -/
theorem holds_ahead
    (m : Machine V)
    (t : Nat)
    (side : Side) :
    m.ahead.holds t side = m.holds t side := by
  cases side <;> rfl

------------------------------------------------------------
-- Moves Within an Era
------------------------------------------------------------

/- Within an era, the same is ahead. -/
theorem SameEra.ahead_eq
    {m rest : Machine V}
    (hSame : m.SameEra rest)
    (hThreads : rest.threads = m.threads)
    (t : Nat)
    (ph : Phase V) :
    (rest.setPhase t ph).ahead =
      (rest.aheadOf m).setPhase t ph.atomic := by
  have hClosed :
      (rest.cohort rest.current).closed =
        (m.cohort m.current).closed := by
    rw [hSame.current]
    exact hSame.closed m.current
  have hNext : (rest.setPhase t ph).next = m.next := by
    change
      (if (rest.cohort rest.current).closed then _ else _) = _
    rw [hClosed]
    change (if _ then [Cohort.fresh (rest.current + 1)] else _) = _
    rw [hSame.current]
    rfl
  have hFront : (rest.setPhase t ph).front = m.front := by
    change
      (if (rest.cohort rest.current).closed
        then rest.current + 1 else rest.current) = _
    rw [hClosed, hSame.current]
    rfl
  unfold ahead aheadOf
  rw [hNext, hFront]
  unfold setPhase
  rw [List.map_set, hThreads]

/- What a signal is to report depends on its cohort alone. -/
theorem answerTo_congr
    {m m' : Machine V}
    {ph : Phase V}
    (hClosed :
      ∀ g, ph = .signaling g →
        (m'.cohort g).closed = (m.cohort g).closed) :
    m'.answerTo ph = m.answerTo ph := by
  cases ph with
  | signaling g => simp only [answerTo, hClosed g rfl]
  | _ => rfl

/- Within an era, a signal has the same to report. -/
theorem SameEra.answerTo_eq
    {m rest : Machine V}
    (hSame : m.SameEra rest) :
    rest.answerTo = m.answerTo := by
  funext ph
  exact answerTo_congr (fun g _ => hSame.closed g)

/- A thread's new phase may change what its signal reports. -/
theorem answers_setPhase
    {m rest : Machine V}
    {t : Nat}
    {ph : Phase V}
    (hThreads : rest.threads = m.threads)
    (hReports :
      ∀ (u : Nat) (x : Phase V),
        m.threads[u]? = some x →
          rest.answerTo x = m.answerTo x)
    (hPhase : m.threads[t]? = some ph)
    (ph' : Phase V) :
    (rest.setPhase t ph').atomic.answers =
      fun u =>
        if u = t then rest.answerTo ph'
        else m.atomic.answers u := by
  funext u
  change
    (rest.threads.set t ph')[u]?.bind rest.answerTo =
      if u = t then rest.answerTo ph'
      else m.threads[u]?.bind m.answerTo
  rw [hThreads]
  rcases List.getElem?_eq_some_iff.mp hPhase with ⟨hLt, _⟩
  split
  · rename_i hSelf
    rw [hSelf, List.getElem?_set_self hLt]
    rfl
  · rename_i hOther
    rw [List.getElem?_set_ne (Ne.symm hOther)]
    cases hThere : m.threads[u]? with
    | none => rfl
    | some x => exact hReports u x hThere

/-
  A move leaves the answers as they are if the thread has the
  same to report before and after.
-/
theorem answers_of_eq
    {m rest : Machine V}
    {t : Nat}
    {ph ph' : Phase V}
    (hThreads : rest.threads = m.threads)
    (hReports :
      ∀ (u : Nat) (x : Phase V),
        m.threads[u]? = some x →
          rest.answerTo x = m.answerTo x)
    (hPhase : m.threads[t]? = some ph)
    (hReport : rest.answerTo ph' = m.answerTo ph) :
    (rest.setPhase t ph').atomic.answers =
      m.atomic.answers := by
  rw [answers_setPhase hThreads hReports hPhase ph']
  funext u
  split
  · rename_i hSelf
    change _ = m.threads[u]?.bind m.answerTo
    rw [hSelf, hPhase, hReport]
    rfl
  · rfl

/- The same for a move within an era. -/
theorem SameEra.answers_eq
    {m rest : Machine V}
    {t : Nat}
    {ph ph' : Phase V}
    (hSame : m.SameEra rest)
    (hThreads : rest.threads = m.threads)
    (hPhase : m.threads[t]? = some ph)
    (hReport : m.answerTo ph' = m.answerTo ph) :
    (rest.setPhase t ph').atomic.answers =
      m.atomic.answers := by
  apply answers_of_eq hThreads ?_ hPhase
  · rw [hSame.answerTo_eq]
    exact hReport
  · intro u x _
    rw [hSame.answerTo_eq]

/- A wait's own moves end no era and move no other thread. -/
theorem Moves.sameEra_of_plain
    {m rest : Machine V}
    {t : Nat}
    {ph ph' : Phase V}
    {facts : List Fact}
    (hMoves : m.Moves t ph ph' facts rest)
    (hPlain : ph.isPlain = true) :
    m.SameEra rest ∧ rest.threads = m.threads := by
  cases hMoves with
  | @judge side a =>
      cases side with
      | bound => exact ⟨.of_eq rfl rfl, rfl⟩
      | foreign => exact ⟨.of_eq rfl rfl, rfl⟩
  | enterForeign => exact ⟨.of_eq rfl rfl, rfl⟩
  | enroll => exact ⟨.of_set rfl rfl rfl rfl, rfl⟩
  | count hCounted => exact ⟨.of_eq rfl rfl, rfl⟩
  | refuse hRefused => exact ⟨.of_eq rfl rfl, rfl⟩
  | withdraw => exact ⟨.of_set rfl rfl rfl rfl, rfl⟩
  | depart => exact ⟨.of_eq rfl rfl, rfl⟩
  | watch => exact ⟨.of_eq rfl rfl, rfl⟩
  | settle hLook =>
      exact ⟨.of_set rfl rfl (by simp) (by simp), rfl⟩
  | park hLook => exact ⟨.of_eq rfl rfl, rfl⟩
  | measure => exact ⟨.of_eq rfl rfl, rfl⟩
  | regain hFree => exact ⟨.of_eq rfl rfl, rfl⟩
  | resume hCounted => exact ⟨.of_eq rfl rfl, rfl⟩
  | underflow hRefused => exact ⟨.of_eq rfl rfl, rfl⟩
  | takeLock hFree => exact ⟨.of_eq rfl rfl, rfl⟩
  | _ => cases hPlain

/-
  A wait's own moves are the same in the atomic view.  They
  concern cohorts that are there, and nobody registers while
  the current one is closed.
-/
theorem Moves.ahead
    {m rest : Machine V}
    {t : Nat}
    {ph ph' : Phase V}
    {facts : List Fact}
    (hOrderly : m.Orderly)
    (hPhase : m.threads[t]? = some ph)
    (hMoves : m.Moves t ph ph' facts rest)
    (hPlain : ph.isPlain = true) :
    m.ahead.Moves t ph ph' facts (rest.aheadOf m) := by
  have hStanding := standings_of_phase hPhase
  have hFits := hOrderly.fits t _ hStanding
  have hCohort :
      ∀ {g : Nat}, g ≤ m.current →
        m.ahead.cohort g = m.cohort g :=
    fun hLe => cohort_aheadOf (hOrderly.lt_length hLe)
  have hSet :
      ∀ {g : Nat} (c : Cohort), g ≤ m.current →
        m.ahead.setCohort g c = (m.setCohort g c).aheadOf m :=
    fun c hLe => setCohort_aheadOf (hOrderly.lt_length hLe) c
  cases hMoves with
  | @judge side a =>
      rw [← setValue_aheadOf, ← lock_aheadOf m m side]
      exact .judge
  | enterForeign => exact .enterForeign
  | @enroll a =>
      have hHolder := hOrderly.locked t _ hStanding rfl
      have hOpen :=
        hOrderly.open_of_holder hHolder hStanding nofun
      have hCurrent : m.ahead.current = m.current :=
        (ahead_of_open hOpen).2
      have hMove :=
        Moves.enroll (m := m.ahead) (t := t) (a := a)
      rw [hCurrent, hCohort (Nat.le_refl _),
        hSet _ (Nat.le_refl _)] at hMove
      exact hMove
  | @count a g hCounted =>
      rw [← hCohort (Nat.le_of_eq hFits)]
      exact .count hCounted
  | refuse hRefused => exact .refuse hRefused
  | @withdraw g misuse =>
      rw [← hSet _ (Nat.le_of_eq hFits),
        ← hCohort (Nat.le_of_eq hFits)]
      exact .withdraw
  | @depart a g =>
      rw [← hCohort (Nat.le_of_eq hFits)]
      exact .depart
  | watch => exact .watch
  | @settle a g v o hLook =>
      rw [← hSet _ hFits, ← hCohort hFits]
      rw [← hCohort hFits] at hLook
      exact .settle hLook
  | @park a g v v' wakeAt stalled hLook =>
      rw [← hCohort hFits]
      rw [← hCohort hFits] at hLook
      exact .park hLook
  | measure => exact .measure
  | @regain a g o left hFree =>
      rw [← hCohort hFits]
      exact .regain hFree
  | @resume a g o left hCounted =>
      rw [← hCohort hFits]
      exact .resume hCounted
  | @underflow a g o left misuse hRefused =>
      rw [← hCohort hFits]
      exact .underflow hRefused
  | takeLock hFree => exact .takeLock hFree
  | _ => cases hPlain

------------------------------------------------------------
-- Steps Within an Era
------------------------------------------------------------

/- A wait's own moves have nothing to do with signals. -/
theorem answerTo_of_plain
    {m rest : Machine V}
    {t : Nat}
    {ph ph' : Phase V}
    {facts : List Fact}
    (hMoves : m.Moves t ph ph' facts rest)
    (hPlain : ph.isPlain = true) :
    m.answerTo ph = none ∧ m.answerTo ph' = none := by
  have hTurn :
      ∀ (side : Side) (next : Turn V),
        m.answerTo (next.phase side) = none := by
    intro side next
    cases next <;> rfl
  cases hMoves with
  | judge => exact ⟨rfl, hTurn _ _⟩
  | resume hCounted => exact ⟨rfl, hTurn _ _⟩
  | _ => first | exact ⟨rfl, rfl⟩ | cases hPlain

/- A wait's own moves leave it a wait's phase, or idle. -/
theorem atomic_of_plain
    {m rest : Machine V}
    {t : Nat}
    {ph ph' : Phase V}
    {facts : List Fact}
    (hMoves : m.Moves t ph ph' facts rest)
    (hPlain : ph.isPlain = true) :
    ph.atomic = ph ∧ ph'.atomic = ph' := by
  cases hMoves with
  | judge => exact ⟨rfl, Phase.atomic_turn _ _⟩
  | resume hCounted => exact ⟨rfl, Phase.atomic_turn _ _⟩
  | _ => first | exact ⟨rfl, rfl⟩ | cases hPlain

/-
  A wait's own move is a step of the atomic system, unless the
  waiter falls asleep by it.
-/
theorem step_atomic_of_plain
    {m rest : Machine V}
    {t : Nat}
    {ph ph' : Phase V}
    {facts : List Fact}
    (hOrderly : m.Orderly)
    (hPhase : m.threads[t]? = some ph)
    (hMoves : m.Moves t ph ph' facts rest)
    (hPlain : ph.isPlain = true)
    (hAwake : ph'.isAsleep = false) :
    m.atomic.step (.advance t) =
      some
        ((rest.setPhase t ph').atomic,
          facts.map (Note.mk t m.clock)) := by
  have hAhead := hMoves.ahead hOrderly hPhase hPlain
  have hThere := phase_aheadOf hPhase m
  rcases atomic_of_plain hMoves hPlain with ⟨hSelf, hSelf'⟩
  rcases answerTo_of_plain hMoves hPlain with
    ⟨hNone, hNone'⟩
  rcases hMoves.sameEra_of_plain hPlain with
    ⟨hSame, hThreads⟩
  rw [hSelf] at hThere
  have hActs : ph.acts = true := by
    cases ph <;> first | rfl | cases hPlain
  have hCore :
      m.ahead.advance t =
        some ((rest.setPhase t ph').ahead, facts) := by
    rw [hSame.ahead_eq hThreads, hSelf']
    exact advance_of_moves hThere hAhead hActs
  have hAnswers :=
    hSame.answers_eq hThreads hPhase
      (hNone'.trans hNone.symm)
  have hKeep :
      m.atomic.keep (m.ahead.advance t) =
        some ((rest.setPhase t ph').atomic, facts) := by
    rw [hCore]
    exact
      congrArg (fun a => some (a, facts))
        (atomic_eq rfl hAnswers.symm)
  have hAdvance :
      m.atomic.advance t =
        some ((rest.setPhase t ph').atomic, facts) := by
    have hCoreThere : m.atomic.core.threads[t]? = some ph :=
      hThere
    simp only [Atomic.advance, hCoreThere]
    cases ph with
    | watching a g v =>
        cases hMoves with
        | settle hLook =>
            have hFits :=
              hOrderly.fits t _ (standings_of_phase hPhase)
            have hLook' := hLook
            rw [← cohort_aheadOf (m := m)
              (hOrderly.lt_length hFits)] at hLook'
            change v.look ((m.atomic.core.cohort g).sighting
              m.atomic.core.clock) = _ at hLook'
            simp only [hLook']
            exact hKeep
        | park hLook => cases hAwake
    | idle => cases hPlain
    | parked a g v wakeAt => cases hPlain
    | signaling g => cases hPlain
    | announcing g => cases hPlain
    | closing taken => cases hPlain
    | rousing taken g r => cases hPlain
    | renewing taken g r => cases hPlain
    | _ => exact hKeep
  simp only [Atomic.step, hAdvance, Atomic.noted]
  rfl

end Machine

end CondVar
