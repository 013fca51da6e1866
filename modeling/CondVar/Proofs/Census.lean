import CondVar.Proofs.Counting
import CondVar.Proofs.Order

/-
  What the number of registered waiters counts.

  A cohort counts its waiters by adding one when a waiter
  registers and taking one away when its wait is settled or
  its registration is taken back.  That number is the number
  of threads whose standing says they are registered.

  Main declarations:
    * `Machine.Census`
    * `Machine.Census.steps`
    * `Machine.Census.registered_pos`
    * `Machine.Census.registered_eq_pending`
-/

namespace CondVar

------------------------------------------------------------
-- Counting Standings
------------------------------------------------------------

namespace Standing

/- A thread without a cohort is not registered. -/
theorem isRegistered_of_isFree
    (g : Nat)
    {s : Standing}
    (hFree : s.isFree = true) :
    s.isRegistered g = false := by
  cases s with
  | away => rfl
  | inside => rfl
  | _ => cases hFree

end Standing

------------------------------------------------------------
-- The Census
------------------------------------------------------------

namespace Machine

variable {V : Type}

/- Every cohort counts the threads registered with it. -/
def Census (m : Machine V) : Prop :=
  ∀ g,
    (m.cohort g).registered =
      m.standings.countP (Standing.isRegistered g)

/- A cohort counts each thread that is registered with it. -/
theorem Census.registered_pos
    {m : Machine V}
    {t g : Nat}
    {s : Standing}
    (hCensus : m.Census)
    (hStanding : m.standings[t]? = some s)
    (hRegistered : s.isRegistered g = true) :
    0 < (m.cohort g).registered := by
  rw [hCensus g]
  exact
    List.countP_pos_iff.mpr
      ⟨s, List.mem_of_getElem? hStanding, hRegistered⟩

/- Nobody is registered with a cohort that is still to come. -/
theorem Orderly.le_current_of_registered
    {m : Machine V}
    {t g : Nat}
    {s : Standing}
    (hOrderly : m.Orderly)
    (hStanding : m.standings[t]? = some s)
    (hRegistered : s.isRegistered g = true) :
    g ≤ m.current := by
  have hFits := hOrderly.fits t s hStanding
  cases s with
  | door g' =>
      cases of_decide_eq_true hRegistered
      exact Nat.le_of_eq hFits
  | enrolled g' =>
      cases of_decide_eq_true hRegistered
      exact Nat.le_of_eq hFits
  | waiting g' =>
      cases of_decide_eq_true hRegistered
      exact hFits
  | _ => cases hRegistered

/- Replacing a cohort changes the count of that one only. -/
theorem registered_of_set
    {m rest : Machine V}
    {g : Nat}
    {c : Cohort}
    {s s' : Standing}
    (hCohorts : rest.cohorts = m.cohorts.set g c)
    (hLt : g < m.cohorts.length)
    (hHere :
      c.registered + (s.isRegistered g).toNat =
        (m.cohort g).registered + (s'.isRegistered g).toNat)
    (hThere :
      ∀ h, h ≠ g → s.isRegistered h = s'.isRegistered h)
    (h : Nat) :
    (rest.cohort h).registered + (s.isRegistered h).toNat =
      (m.cohort h).registered + (s'.isRegistered h).toNat := by
  rw [cohort_of_set hCohorts]
  by_cases hSame : h = g
  · subst hSame
    rw [if_pos ⟨rfl, hLt⟩]
    exact hHere
  · rw [if_neg (fun h => hSame h.1), hThere h hSame]

/- The end of a registration counts its thread out. -/
theorem registered_of_end
    {m rest : Machine V}
    {g : Nat}
    {c : Cohort}
    {s s' : Standing}
    (hCohorts : rest.cohorts = m.cohorts.set g c)
    (hLt : g < m.cohorts.length)
    (hCount : c.registered = (m.cohort g).registered - 1)
    (hPos : 0 < (m.cohort g).registered)
    (hOn : ∀ h, s.isRegistered h = decide (g = h))
    (hOff : ∀ h, s'.isRegistered h = false)
    (h : Nat) :
    (rest.cohort h).registered + (s.isRegistered h).toNat =
      (m.cohort h).registered + (s'.isRegistered h).toNat := by
  refine registered_of_set hCohorts hLt ?_ ?_ h
  · rw [hOn, hOff, hCount, decide_eq_true rfl]
    exact Nat.sub_add_cancel hPos
  · intro k hOther
    rw [hOn, hOff, decide_eq_false hOther.symm]

/- A cohort's count moves with the standing of the thread. -/
theorem Orderly.registered_moves
    {m rest : Machine V}
    {t : Nat}
    {ph ph' : Phase V}
    {facts : List Fact}
    (hOrderly : m.Orderly)
    (hCensus : m.Census)
    (hPhase : m.threads[t]? = some ph)
    (hMoves : m.Moves t ph ph' facts rest)
    (h : Nat) :
    (rest.cohort h).registered +
        (ph.standing.isRegistered h).toNat =
      (m.cohort h).registered +
        (ph'.standing.isRegistered h).toNat := by
  have hStanding := standings_of_phase hPhase
  have hFits := hOrderly.fits t _ hStanding
  have hLength := hOrderly.numbered
  have hShift := hMoves.shift
  generalize ph.standing = s at *
  generalize ph'.standing = s' at *
  generalize hCohorts : rest.cohorts = cohorts' at hShift
  generalize rest.current = current' at hShift
  have hKept :
      rest.cohorts = m.cohorts →
        s.isRegistered h = s'.isRegistered h →
          (rest.cohort h).registered +
              (s.isRegistered h).toNat =
            (m.cohort h).registered +
              (s'.isRegistered h).toNat := by
    intro hSame hAlike
    rw [cohort_of_eq hSame, hAlike]
  have hPos :
      ∀ {g : Nat},
        s.isRegistered g = true →
          0 < (m.cohort g).registered :=
    fun hRegistered =>
      hCensus.registered_pos hStanding hRegistered
  cases hShift with
  | stand hOther hFacts => exact hKept hCohorts rfl
  | turn hFree hFree' hFacts =>
      apply hKept hCohorts
      rw [Standing.isRegistered_of_isFree h hFree,
        Standing.isRegistered_of_isFree h hFree']
  | signal => exact hKept hCohorts rfl
  | drop hDropped => exact hKept hCohorts rfl
  | @post g hOpen hLacks =>
      exact
        registered_of_set hCohorts
          (by have := hFits.1; omega) rfl (fun _ _ => rfl) h
  | enroll =>
      refine
        registered_of_set hCohorts (by omega) ?_ ?_ h
      · simp [Standing.isRegistered, Cohort.enroll]
      · intro k hOther
        exact (decide_eq_false hOther.symm).symm
  | @withdraw g misuse =>
      exact
        registered_of_end hCohorts
          (by have : g = m.current := hFits; omega) rfl
          (hPos (decide_eq_true rfl)) (fun _ => rfl)
          (fun _ => rfl) h
  | count => exact hKept hCohorts rfl
  | depart => exact hKept hCohorts rfl
  | stay => exact hKept hCohorts rfl
  | park hOpen hNone => exact hKept hCohorts rfl
  | @settle g o hGrants =>
      exact
        registered_of_end hCohorts
          (by have : g ≤ m.current := hFits; omega)
          (Cohort.registered_settle _ _)
          (hPos (decide_eq_true rfl)) (fun _ => rfl)
          (fun _ => rfl) h
  | regain => exact hKept hCohorts rfl
  | leave hFree hFacts =>
      apply hKept hCohorts
      rw [Standing.isRegistered_of_isFree h hFree]
      rfl
  | close hOpen =>
      exact
        registered_of_set hCohorts (by omega) rfl
          (fun _ _ => rfl) h
  | closeAgain hClosed => exact hKept hCohorts rfl
  | renew =>
      rw [cohort_of_append hCohorts]
      split
      · rename_i hLast
        have hNobody : (m.cohort h).registered = 0 := by
          unfold cohort
          rw [List.getElem?_eq_none (Nat.le_of_eq hLast.symm)]
          rfl
        rw [hNobody]
        rfl
      · rfl

/- Every step of an orderly machine keeps the census true. -/
theorem Census.steps
    {m m' : Machine V}
    {ns : List Note}
    (hCensus : m.Census)
    (hOrderly : m.Orderly)
    (hSteps : m.Steps m' ns) :
    m'.Census := by
  intro g
  cases hSteps with
  | join =>
      rw [standings_join, List.countP_append]
      exact hCensus g
  | tick hLater => exact hCensus g
  | @move t ph ph' facts rest hPhase hMoves =>
      have hCount :=
        hOrderly.registered_moves hCensus hPhase hMoves g
      have hStandings :=
        countP_set_add (Standing.isRegistered g)
          ph'.standing (standings_of_phase hPhase)
      rw [← hMoves.standings_eq] at hStandings
      have hBefore := hCensus g
      change (rest.cohort g).registered = _
      omega

/- Nobody is registered in a fresh machine. -/
theorem census_fresh
    (s : Settings)
    (value : V)
    (foreign : V) :
    (fresh s value foreign).Census := by
  intro g
  cases g with
  | zero => rfl
  | succ g => rfl

/-
  While a thread that does not register has the lock, all who
  are registered have been counted: nobody is at the door.
-/
theorem Census.registered_eq_pending
    {m : Machine V}
    {t : Nat}
    {s : Standing}
    (hCensus : m.Census)
    (hLocked : m.Locked)
    (hHolder : m.bound.holder = some t)
    (hStanding : m.standings[t]? = some s)
    (hStays : ∀ g, s ≠ .door g)
    (g : Nat) :
    (m.cohort g).registered =
      m.standings.countP (Standing.isPending g) := by
  rw [hCensus g]
  apply List.countP_congr
  intro s' hMem
  rcases List.getElem?_of_mem hMem with ⟨u, hTheirs⟩
  cases s' with
  | door g' =>
      have hSame := hLocked.unique hHolder hTheirs rfl
      subst hSame
      rw [hStanding] at hTheirs
      exact absurd (Option.some.inj hTheirs) (hStays g')
  | _ => rfl

end Machine

end CondVar
