import CondVar.Proofs.Counting
import CondVar.Proofs.MachineMoves

/-
  What a thread's phase means to the others.

  Many phases differ only in what the thread knows itself.
  To the others it matters whether the thread holds the bound
  lock for its call, and with which cohort it is registered,
  has its outcome, is about to post, or is about to replace.
  `Phase.standing` keeps just that, and waking up does not
  change it.

  Main declarations:
    * `Standing`
    * `Phase.standing`
    * `Machine.standings`
    * `Machine.Moves.standings_eq`
    * `Machine.Locked`
    * `Machine.Locked.steps`
-/

namespace CondVar

------------------------------------------------------------
-- Standings
------------------------------------------------------------

/-
  `away`: of no concern to others.  `inside`: holding the
  bound lock for a call, without a cohort.  `door`: registered
  with a cohort, holding the lock, not counted.  `enrolled`:
  registered, counted, holding the lock.  `waiting`: the same
  without the lock.  `ended`: with an outcome, without the
  lock.  `regained`: with an outcome, holding the lock.
  `signaling`: about to post to a cohort.  `retiring`: holding
  the lock, about to replace a cohort it has closed.
-/
inductive Standing where
| away : Standing
| inside : Standing
| door (cohort : Nat) : Standing
| enrolled (cohort : Nat) : Standing
| waiting (cohort : Nat) : Standing
| ended (cohort : Nat) (o : Outcome) : Standing
| regained (cohort : Nat) (o : Outcome) : Standing
| signaling (cohort : Nat) : Standing
| retiring (cohort : Nat) (r : WakeReport) : Standing
deriving DecidableEq

namespace Standing

/- Whether a thread holds the bound lock for its call. -/
def holdsLock : Standing → Bool
| .inside => true
| .door _ => true
| .enrolled _ => true
| .regained _ _ => true
| .retiring _ _ => true
| _ => false

/- Whether a thread is registered with a cohort. -/
def isRegistered
    (g : Nat) : Standing → Bool
| .door g' => g' = g
| .enrolled g' => g' = g
| .waiting g' => g' = g
| _ => false

/- Whether a thread has been counted and has no outcome. -/
def isPending
    (g : Nat) : Standing → Bool
| .enrolled g' => g' = g
| .waiting g' => g' = g
| _ => false

end Standing

namespace Phase

variable {V : Type}

/- What a phase means to the other threads. -/
def standing : Phase V → Standing
| .idle => .away
| .judging .bound _ => .inside
| .judging .foreign _ => .away
| .entering .bound _ => .inside
| .entering .foreign _ => .away
| .ticketed _ g => .door g
| .withdrawing g _ => .door g
| .enrolled _ g => .enrolled g
| .departed _ g => .waiting g
| .watching _ g _ => .waiting g
| .parked _ g _ _ => .waiting g
| .settled _ g _ o => .ended g o
| .returning _ g o _ => .ended g o
| .regained _ g o _ => .regained g o
| .signaling g => .signaling g
| .announcing _ => .away
| .locking => .away
| .closing _ => .inside
| .rousing _ g r => .retiring g r
| .renewing _ g r => .retiring g r

/- Waking up concerns nobody but the parked thread. -/
@[simp] theorem standing_wake
    (g : Nat)
    (ph : Phase V) :
    (ph.wake g).standing = ph.standing :=
  ph.apply_wake standing (fun _ _ _ _ => rfl) g

end Phase

------------------------------------------------------------
-- Standings in a Machine
------------------------------------------------------------

namespace Machine

variable {V : Type}

/- The standings of all threads, in their order. -/
def standings (m : Machine V) : List Standing :=
  m.threads.map Phase.standing

/- A thread stands as its phase says. -/
theorem standings_of_phase
    {m : Machine V}
    {t : Nat}
    {ph : Phase V}
    (hPhase : m.threads[t]? = some ph) :
    m.standings[t]? = some ph.standing := by
  rw [standings, List.getElem?_map, hPhase]
  rfl

/- Waking threads leaves all standings. -/
theorem map_standing_wake
    (g : Nat)
    (phs : List (Phase V)) :
    (phs.map (Phase.wake g)).map Phase.standing =
      phs.map Phase.standing := by
  rw [List.map_map]
  exact List.map_congr_left
    (fun ph _ => Phase.standing_wake g ph)

/- Waking one thread leaves all standings. -/
theorem standings_setPhase_wake
    {m : Machine V}
    {w : Nat}
    {ph : Phase V}
    (g : Nat)
    (hPhase : m.threads[w]? = some ph) :
    (m.setPhase w (ph.wake g)).standings = m.standings := by
  have hStanding := standings_of_phase hPhase
  rw [← Phase.standing_wake g] at hStanding
  rcases List.getElem?_eq_some_iff.mp hStanding with
    ⟨hLt, hGet⟩
  change (m.threads.set w (ph.wake g)).map _ = m.standings
  rw [List.map_set, ← hGet]
  exact List.set_getElem_self hLt

/-
  A move changes the standing of its own thread and of no
  other.
-/
theorem Moves.standings_eq
    {m rest : Machine V}
    {t : Nat}
    {ph ph' : Phase V}
    {facts : List Fact}
    (hMoves : m.Moves t ph ph' facts rest) :
    (rest.setPhase t ph').standings =
      m.standings.set t ph'.standing := by
  have hRest : rest.standings = m.standings := by
    cases hMoves with
    | acquire hFree => rw [standings, threads_setHolder]; rfl
    | release hHeld => rw [standings, threads_setHolder]; rfl
    | write hHeld => rw [standings, threads_setValue]; rfl
    | judge => rw [standings, threads_setValue]; rfl
    | announce hPhase hParked =>
        exact standings_setPhase_wake _ hPhase
    | rouse => exact map_standing_wake _ _
    | _ => rfl
  change (rest.threads.set t ph').map _ = _
  rw [List.map_set]
  exact congrArg (fun l => l.set t ph'.standing) hRest

------------------------------------------------------------
-- Phases in a Machine
------------------------------------------------------------

/- A thread that stands somewhere is in a phase for that. -/
theorem phase_of_standing
    {m : Machine V}
    {t : Nat}
    {s : Standing}
    (hStanding : m.standings[t]? = some s) :
    ∃ ph, m.threads[t]? = some ph ∧ ph.standing = s :=
  Option.map_eq_some_iff.mp
    ((List.getElem?_map ..).symm.trans hStanding)

/- A move adds and removes no thread. -/
theorem Moves.length_threads
    {m rest : Machine V}
    {t : Nat}
    {ph ph' : Phase V}
    {facts : List Fact}
    (hMoves : m.Moves t ph ph' facts rest) :
    (rest.setPhase t ph').threads.length =
      m.threads.length := by
  have hStandings := congrArg List.length hMoves.standings_eq
  rw [List.length_set] at hStandings
  simpa [standings] using hStandings

/- After its move, a thread is in its new phase. -/
theorem Moves.phase_self
    {m rest : Machine V}
    {t : Nat}
    {ph ph' : Phase V}
    {facts : List Fact}
    (hMoves : m.Moves t ph ph' facts rest)
    (hPhase : m.threads[t]? = some ph) :
    (rest.setPhase t ph').threads[t]? = some ph' := by
  rcases List.getElem?_eq_some_iff.mp hPhase with ⟨hLt, _⟩
  have hLength := hMoves.length_threads
  change (rest.threads.set t ph').length = _ at hLength
  rw [List.length_set] at hLength
  exact List.getElem?_set_self (hLength ▸ hLt)

/- A move leaves another thread in its phase or wakes it. -/
theorem Moves.phase_other
    {m rest : Machine V}
    {t u : Nat}
    {ph ph' x : Phase V}
    {facts : List Fact}
    (hMoves : m.Moves t ph ph' facts rest)
    (hOther : u ≠ t)
    (hThere : (rest.setPhase t ph').threads[u]? = some x) :
    ∃ y, m.threads[u]? = some y ∧
      (x = y ∨ ∃ g, x = y.wake g) := by
  change (rest.threads.set t ph')[u]? = some x at hThere
  rw [List.getElem?_set_ne hOther.symm] at hThere
  cases hMoves with
  | acquire hFree =>
      rw [threads_setHolder] at hThere
      exact ⟨x, hThere, Or.inl rfl⟩
  | release hHeld =>
      rw [threads_setHolder] at hThere
      exact ⟨x, hThere, Or.inl rfl⟩
  | write hHeld =>
      rw [threads_setValue] at hThere
      exact ⟨x, hThere, Or.inl rfl⟩
  | judge =>
      rw [threads_setValue] at hThere
      exact ⟨x, hThere, Or.inl rfl⟩
  | @announce g w y hPhase hParked =>
      by_cases hSame : u = w
      · subst hSame
        have hNew := hThere
        change (m.threads.set u (y.wake g))[u]? = _ at hNew
        rw [List.getElem?_set] at hNew
        simp only [if_true] at hNew
        split at hNew
        · exact
            ⟨y, hPhase,
              Or.inr ⟨g, (Option.some.inj hNew).symm⟩⟩
        · cases hNew
      · change (m.threads.set w (y.wake g))[u]? = _ at hThere
        rw [List.getElem?_set_ne (Ne.symm hSame)] at hThere
        exact ⟨x, hThere, Or.inl rfl⟩
  | @rouse taken g r =>
      change (m.threads.map (Phase.wake g))[u]? = _ at hThere
      rw [List.getElem?_map] at hThere
      rcases Option.map_eq_some_iff.mp hThere with
        ⟨y, hPhase, rfl⟩
      exact ⟨y, hPhase, Or.inr ⟨g, rfl⟩⟩
  | _ => exact ⟨x, hThere, Or.inl rfl⟩

------------------------------------------------------------
-- Who Holds the Lock
------------------------------------------------------------

/-
  A thread whose standing says so holds the bound lock.  So
  there is one such thread at most.
-/
def Locked (m : Machine V) : Prop :=
  ∀ t s,
    m.standings[t]? = some s →
      s.holdsLock = true → m.bound.holder = some t

/- A turn of a call holds the lock only for the bound one. -/
theorem side_of_holdsLock_phase
    {side : Side}
    {next : Turn V}
    (hLock : (next.phase side).standing.holdsLock = true) :
    side = .bound := by
  cases side with
  | bound => rfl
  | foreign => cases next <;> cases hLock

/-
  A thread has the lock where its new standing says so, if it
  did where the old one said so, and no other thread gets or
  loses the lock by its move.
-/
theorem Moves.holder_spec
    {m rest : Machine V}
    {t : Nat}
    {ph ph' : Phase V}
    {facts : List Fact}
    (hMoves : m.Moves t ph ph' facts rest)
    (hHeld :
      ph.standing.holdsLock = true →
        m.bound.holder = some t) :
    (ph'.standing.holdsLock = true →
      rest.bound.holder = some t) ∧
    ∀ u, u ≠ t →
      (rest.bound.holder = some u ↔
        m.bound.holder = some u) := by
  -- The lock changes hands only from or to the thread itself.
  have hGained :
      m.bound.holder = none →
        ∀ u, u ≠ t →
          (some t = some u ↔ m.bound.holder = some u) := by
    intro hFree u hOther
    simp [hFree, hOther.symm]
  have hLost :
      m.bound.holder = some t →
        ∀ u, u ≠ t →
          (none = some u ↔ m.bound.holder = some u) := by
    intro hMine u hOther
    simp [hMine, hOther.symm]
  have hKept :
      ∀ u, u ≠ t →
        (m.bound.holder = some u ↔
          m.bound.holder = some u) :=
    fun _ _ => Iff.rfl
  have hNever :
      ∀ {P : Prop}, false = true → P := fun h => nomatch h
  cases hMoves with
  | @acquire side hFree =>
      cases side with
      | bound => exact ⟨hNever, hGained hFree⟩
      | foreign => exact ⟨hNever, hKept⟩
  | @release side hMine =>
      cases side with
      | bound =>
          exact ⟨hNever, hLost (of_decide_eq_true hMine)⟩
      | foreign => exact ⟨hNever, hKept⟩
  | @write side v hMine =>
      cases side <;> exact ⟨hNever, hKept⟩
  | call hMine =>
      refine ⟨?_, hKept⟩
      intro hLock
      have hSide := side_of_holdsLock_phase hLock
      subst hSide
      exact of_decide_eq_true hMine
  | signal => exact ⟨hNever, hKept⟩
  | interrupt => exact ⟨hNever, hKept⟩
  | interruptHeld hMine =>
      exact ⟨fun _ => of_decide_eq_true hMine, hKept⟩
  | interruptForeign hMine => exact ⟨hNever, hKept⟩
  | @judge side a =>
      cases side with
      | bound => exact ⟨fun _ => hHeld rfl, hKept⟩
      | foreign =>
          refine ⟨?_, hKept⟩
          intro hLock
          have hSide := side_of_holdsLock_phase hLock
          cases hSide
  | enterForeign => exact ⟨hNever, hKept⟩
  | enroll => exact ⟨hHeld, hKept⟩
  | count hCounted => exact ⟨hHeld, hKept⟩
  | refuse hRefused => exact ⟨hHeld, hKept⟩
  | withdraw => exact ⟨hNever, hKept⟩
  | depart => exact ⟨hNever, hLost (hHeld rfl)⟩
  | watch => exact ⟨hNever, hKept⟩
  | settle hLook => exact ⟨hNever, hKept⟩
  | park hLook => exact ⟨hNever, hKept⟩
  | expire hDue => exact ⟨hNever, hKept⟩
  | measure => exact ⟨hNever, hKept⟩
  | regain hFree => exact ⟨fun _ => rfl, hGained hFree⟩
  | resume hCounted => exact ⟨fun _ => hHeld rfl, hKept⟩
  | underflow hRefused => exact ⟨hNever, hKept⟩
  | drop hDropped => exact ⟨hNever, hKept⟩
  | post hOpen hLacks => exact ⟨hNever, hKept⟩
  | announce hPhase hParked => exact ⟨hNever, hKept⟩
  | announceNobody hNone => exact ⟨hNever, hKept⟩
  | takeLock hFree => exact ⟨fun _ => rfl, hGained hFree⟩
  | close hOpen => exact ⟨hHeld, hKept⟩
  | closeAgain hClosed => exact ⟨hHeld, hKept⟩
  | rouse => exact ⟨hHeld, hKept⟩
  | renew => exact ⟨hNever, hKept⟩
  | renewTaken => exact ⟨hNever, hLost (hHeld rfl)⟩

/- A thread that arrives stands away from everything. -/
theorem standings_join
    (m : Machine V) :
    standings { m with threads := m.threads ++ [.idle] } =
      m.standings ++ [.away] :=
  List.map_append

/-
  A thread that arrives is the only one whose standing is not
  listed before.
-/
theorem standing_join
    {m : Machine V}
    {t : Nat}
    {s : Standing}
    (hStanding :
      (standings
        { m with threads := m.threads ++ [.idle] })[t]? =
        some s) :
    m.standings[t]? = some s ∨ s = .away := by
  rw [standings_join] at hStanding
  by_cases hLt : t < m.standings.length
  · rw [List.getElem?_append_left hLt] at hStanding
    exact Or.inl hStanding
  · rw [List.getElem?_append_right (Nat.le_of_not_lt hLt)]
      at hStanding
    exact
      Or.inr
        (List.mem_singleton.mp
          (List.mem_of_getElem? hStanding))

/-
  After a move, a thread stands as its new phase says or, if
  it is another thread, as it did.
-/
theorem Moves.standing_cases
    {m rest : Machine V}
    {t u : Nat}
    {ph ph' : Phase V}
    {facts : List Fact}
    {s : Standing}
    (hMoves : m.Moves t ph ph' facts rest)
    (hStanding :
      (rest.setPhase t ph').standings[u]? = some s) :
    (u = t ∧ s = ph'.standing) ∨
      (u ≠ t ∧ m.standings[u]? = some s) := by
  rw [hMoves.standings_eq] at hStanding
  exact getElem?_set_cases hStanding

/- After its move, a thread stands as its new phase says. -/
theorem Moves.standing_self
    {m rest : Machine V}
    {t : Nat}
    {ph ph' : Phase V}
    {facts : List Fact}
    (hMoves : m.Moves t ph ph' facts rest)
    (hPhase : m.threads[t]? = some ph) :
    (rest.setPhase t ph').standings[t]? =
      some ph'.standing := by
  have hStanding := standings_of_phase hPhase
  rcases List.getElem?_eq_some_iff.mp hStanding with
    ⟨hLt, _⟩
  rw [hMoves.standings_eq, List.getElem?_set_self hLt]

/- After its move, all others stand as they did. -/
theorem Moves.standing_other
    {m rest : Machine V}
    {t u : Nat}
    {ph ph' : Phase V}
    {facts : List Fact}
    (hMoves : m.Moves t ph ph' facts rest)
    (hOther : u ≠ t) :
    (rest.setPhase t ph').standings[u]? =
      m.standings[u]? := by
  rw [hMoves.standings_eq, List.getElem?_set_ne hOther.symm]

/- Every step leaves the lock with whoever stands to hold it. -/
theorem Locked.steps
    {m m' : Machine V}
    {ns : List Note}
    (hLocked : m.Locked)
    (hSteps : m.Steps m' ns) :
    m'.Locked := by
  intro u s hStanding hLock
  cases hSteps with
  | join =>
      rcases standing_join hStanding with hOld | rfl
      · exact hLocked u s hOld hLock
      · cases hLock
  | tick hLater => exact hLocked u s hStanding hLock
  | move hPhase hMoves =>
      have hHolder :=
        hMoves.holder_spec
          (hLocked _ _ (standings_of_phase hPhase))
      rcases hMoves.standing_cases hStanding with
        ⟨rfl, rfl⟩ | ⟨hOther, hOld⟩
      · exact hHolder.1 hLock
      · exact
          (hHolder.2 u hOther).mpr (hLocked u s hOld hLock)

/- Nobody stands to hold the lock of a fresh machine. -/
theorem locked_fresh
    (s : Settings)
    (value : V)
    (foreign : V) :
    (fresh s value foreign).Locked := by
  intro t s hStanding
  cases hStanding

/-
  A thread that holds the lock is the only one that stands to
  hold it.
-/
theorem Locked.unique
    {m : Machine V}
    {t u : Nat}
    {s : Standing}
    (hLocked : m.Locked)
    (hHolder : m.bound.holder = some t)
    (hStanding : m.standings[u]? = some s)
    (hLock : s.holdsLock = true) :
    u = t := by
  have hOther := hLocked u s hStanding hLock
  rw [hHolder] at hOther
  exact (Option.some.inj hOther).symm

end Machine

end CondVar
