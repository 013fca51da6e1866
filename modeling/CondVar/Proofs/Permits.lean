import CondVar.Proofs.Crowd
import CondVar.Proofs.Timely

/-
  What signals leave and waits take.

  A signal that is received leaves one permit with its
  cohort, and a wait that is settled as signaled takes one.
  Nothing else changes the permits of a cohort.  As long as a
  cohort is open and nobody's registration is taken back, it
  has no more permits than waiters.

  Main declarations:
    * `Machine.Trade`
    * `Machine.Orderly.trade`
    * `Machine.Balanced`
    * `Machine.Permitted`
    * `Machine.ReachesUncrowded.permitted`
-/

namespace CondVar

------------------------------------------------------------
-- Facts About Permits
------------------------------------------------------------

namespace Fact

/- Whether a fact tells of a permit left with a cohort. -/
def isLeft
    (f : Fact)
    (g : Nat) : Bool :=
  f = .posted g (.woken 1)

/- Whether a fact tells of a permit taken from a cohort. -/
def isTaken
    (f : Fact)
    (g : Nat) : Bool :=
  f = .settled g .signaled

/- Whether a fact tells of a permit of a cohort. -/
def isOfPermit
    (f : Fact)
    (g : Nat) : Bool :=
  f.isLeft g || f.isTaken g

/- Only a signal that is received leaves a permit. -/
@[simp]
theorem isLeft_iff
    {f : Fact}
    {g : Nat} :
    f.isLeft g = true ↔ f = .posted g (.woken 1) :=
  decide_eq_true_iff

/- Only a wait that is settled as signaled takes a permit. -/
@[simp]
theorem isTaken_iff
    {f : Fact}
    {g : Nat} :
    f.isTaken g = true ↔ f = .settled g .signaled :=
  decide_eq_true_iff

/- A permit is told of when it is left and when it is taken. -/
@[simp]
theorem isOfPermit_iff
    {f : Fact}
    {g : Nat} :
    f.isOfPermit g = true ↔
      f = .posted g (.woken 1) ∨ f = .settled g .signaled := by
  unfold isOfPermit
  rw [Bool.or_eq_true, isLeft_iff, isTaken_iff]

/- No permit is told of by any other fact. -/
@[simp]
theorem isOfPermit_eq_false_iff
    {f : Fact}
    {g : Nat} :
    f.isOfPermit g = false ↔
      f ≠ .posted g (.woken 1) ∧ f ≠ .settled g .signaled := by
  rw [← Bool.not_eq_true, isOfPermit_iff, not_or]

/- What concerns no cohort tells of no permit. -/
theorem isOfPermit_of_isPrivate
    {f : Fact}
    (g : Nat)
    (hPrivate : f.isPrivate = true) :
    f.isOfPermit g = false := by
  cases f with
  | posted e r => cases hPrivate
  | settled e o => cases hPrivate
  | _ => rfl

end Fact

------------------------------------------------------------
-- Trades
------------------------------------------------------------

namespace Machine

variable {V : Type}

/-
  What a move is to the permits of one cohort: nothing, or
  one is left for a waiter that has none to look forward to,
  or one is taken.
-/
inductive Trade (m m' : Machine V) (g : Nat) :
    List Fact → Prop where
| none {facts : List Fact}
    (hPermits :
      (m'.cohort g).permits = (m.cohort g).permits)
    (hFacts : ∀ f ∈ facts, f.isOfPermit g = false) :
    Trade m m' g facts
| leaves
    (hOpen : (m.cohort g).closed = false)
    (hLacks :
      (m.cohort g).permits < (m.cohort g).registered)
    (hPermits :
      (m'.cohort g).permits = (m.cohort g).permits + 1) :
    Trade m m' g [.posted g (.woken 1)]
| takes
    (hOpen : (m.cohort g).closed = false)
    (hPermits :
      (m'.cohort g).permits + 1 = (m.cohort g).permits) :
    Trade m m' g [.settled g .signaled]

/- What a move of an orderly machine is to the permits. -/
theorem Orderly.trade
    {m rest : Machine V}
    {t : Nat}
    {ph ph' : Phase V}
    {facts : List Fact}
    (hOrderly : m.Orderly)
    (hPhase : m.threads[t]? = some ph)
    (hMoves : m.Moves t ph ph' facts rest)
    (g : Nat) :
    m.Trade rest g facts := by
  have hFits :=
    hOrderly.fits t _ (standings_of_phase hPhase)
  have hLength := hOrderly.numbered
  have hShift := hMoves.shift
  generalize ph.standing = s at *
  generalize ph'.standing = s' at *
  generalize hCohorts : rest.cohorts = cohorts' at hShift
  generalize rest.current = current' at hShift
  have hKept :
      rest.cohorts = m.cohorts →
        (rest.cohort g).permits = (m.cohort g).permits :=
    fun hSame =>
      congrArg Cohort.permits (cohort_of_eq hSame g)
  have hSet :
      ∀ {h : Nat} {c : Cohort},
        rest.cohorts = m.cohorts.set h c →
          (h = g → c.permits = (m.cohort h).permits) →
            (rest.cohort g).permits =
              (m.cohort g).permits := by
    intro h c hSame hAlike
    rw [cohort_of_set hSame]
    split
    · rename_i hHere
      rw [hAlike hHere.1.symm, hHere.1]
    · rfl
  have hPrivate :
      ∀ {facts : List Fact},
        (∀ f ∈ facts, f.isPrivate = true) →
          ∀ f ∈ facts, f.isOfPermit g = false :=
    fun h f hMem => Fact.isOfPermit_of_isPrivate g (h f hMem)
  cases hShift with
  | stand hOther hFacts =>
      exact .none (hKept hCohorts) (hPrivate hFacts)
  | turn hFree hFree' hFacts =>
      exact .none (hKept hCohorts) (hPrivate hFacts)
  | signal => exact .none (hKept hCohorts) nofun
  | drop hDropped =>
      apply Trade.none (hKept hCohorts)
      simp
  | @post h hOpen hLacks =>
      have hLe : h ≤ m.current := hFits.1
      rw [hOrderly.epochs h hLe]
      by_cases hSame : h = g
      · subst hSame
        apply Trade.leaves hOpen hLacks
        rw [cohort_of_set hCohorts, if_pos ⟨rfl, by omega⟩]
      · apply Trade.none
        · exact hSet hCohorts (fun h => absurd h hSame)
        · simp [hSame]
  | enroll =>
      exact .none (hSet hCohorts (fun _ => rfl)) nofun
  | withdraw =>
      apply Trade.none (hSet hCohorts (fun _ => rfl))
      simp
  | count =>
      apply Trade.none (hKept hCohorts)
      simp
  | depart =>
      apply Trade.none (hKept hCohorts)
      simp
  | stay => exact .none (hKept hCohorts) nofun
  | @park h wakeAt stalled hOpen hNone =>
      apply Trade.none (hKept hCohorts)
      cases stalled <;>
        simp
  | @settle h o hGrants =>
      have hLe : h ≤ m.current := hFits
      rw [hOrderly.epochs h hLe]
      by_cases hTakes : h = g ∧ o = .signaled
      · rcases hTakes with ⟨rfl, rfl⟩
        rcases hGrants with ⟨hOpen, hSome⟩
        apply Trade.takes hOpen
        rw [cohort_of_set hCohorts, if_pos ⟨rfl, by omega⟩]
        exact Nat.sub_add_cancel hSome
      · apply Trade.none
        · apply hSet hCohorts
          intro hSame
          rw [Cohort.permits_settle,
            if_neg (fun h => hTakes ⟨hSame, h⟩)]
        · simpa using hTakes
  | regain =>
      apply Trade.none (hKept hCohorts)
      simp
  | leave hFree hFacts =>
      apply Trade.none (hKept hCohorts)
      intro f hMem
      rcases List.mem_cons.mp hMem with rfl | hTurn
      · rfl
      · exact hPrivate hFacts f hTurn
  | close hOpen =>
      apply Trade.none (hSet hCohorts (fun _ => rfl))
      simp
  | closeAgain hClosed =>
      apply Trade.none (hKept hCohorts)
      simp
  | renew =>
      apply Trade.none
      · rw [cohort_of_append hCohorts]
        split
        · rename_i hLast
          unfold cohort
          rw [List.getElem?_eq_none (Nat.le_of_eq hLast.symm)]
          rfl
        · rfl
      · simp

------------------------------------------------------------
-- Left and Taken
------------------------------------------------------------

end Machine

/- The number of signals that left a permit with a cohort. -/
def permitsLeft
    (ns : List Note)
    (g : Nat) : Nat :=
  ns.countP (·.fact.isLeft g)

/- The number of waits that took a permit of a cohort. -/
def permitsTaken
    (ns : List Note)
    (g : Nat) : Nat :=
  ns.countP (·.fact.isTaken g)

/- A step leaves as many permits as its facts tell. -/
theorem permitsLeft_append
    (past : List Note)
    (facts : List Fact)
    (t : Nat)
    (time : Instant)
    (g : Nat) :
    permitsLeft (past ++ facts.map (Note.mk t time)) g =
      permitsLeft past g + facts.countP (·.isLeft g) := by
  unfold permitsLeft
  rw [List.countP_append, List.countP_map]
  rfl

/- A step takes as many permits as its facts tell. -/
theorem permitsTaken_append
    (past : List Note)
    (facts : List Fact)
    (t : Nat)
    (time : Instant)
    (g : Nat) :
    permitsTaken (past ++ facts.map (Note.mk t time)) g =
      permitsTaken past g + facts.countP (·.isTaken g) := by
  unfold permitsTaken
  rw [List.countP_append, List.countP_map]
  rfl

/- Facts that tell of no permit leave none and take none. -/
theorem countP_of_no_permit
    {facts : List Fact}
    {g : Nat}
    (hFacts : ∀ f ∈ facts, f.isOfPermit g = false) :
    facts.countP (·.isLeft g) = 0 ∧
      facts.countP (·.isTaken g) = 0 := by
  have hNeither :
      ∀ f ∈ facts, f.isLeft g = false ∧ f.isTaken g = false :=
    fun f hMem => Bool.or_eq_false_iff.mp (hFacts f hMem)
  constructor
  · apply List.countP_eq_zero.mpr
    intro f hMem
    exact Bool.eq_false_iff.mp (hNeither f hMem).1
  · apply List.countP_eq_zero.mpr
    intro f hMem
    exact Bool.eq_false_iff.mp (hNeither f hMem).2

namespace Machine

variable {V : Type}

/- Every permit that was left was taken or is still there. -/
def Balanced
    (ns : List Note)
    (m : Machine V) : Prop :=
  ∀ g,
    permitsLeft ns g =
      permitsTaken ns g + (m.cohort g).permits

/- There are no permits before the first signal. -/
theorem permits_fresh
    (s : Settings)
    (value : V)
    (foreign : V)
    (g : Nat) :
    ((fresh s value foreign).cohort g).permits = 0 := by
  cases g with
  | zero => rfl
  | succ g => rfl

/- Every step of an orderly machine keeps the balance. -/
theorem Balanced.steps
    {m m' : Machine V}
    {past ns : List Note}
    (hBalanced : Balanced past m)
    (hOrderly : m.Orderly)
    (hSteps : m.Steps m' ns) :
    Balanced (past ++ ns) m' := by
  intro g
  have hBefore := hBalanced g
  cases hSteps with
  | join =>
      rw [List.append_nil]
      exact hBefore
  | tick hLater =>
      rw [List.append_nil]
      exact hBefore
  | @move t ph ph' facts rest hPhase hMoves =>
      change
        permitsLeft (past ++ _) g =
          permitsTaken (past ++ _) g + (rest.cohort g).permits
      rw [permitsLeft_append, permitsTaken_append]
      cases hOrderly.trade hPhase hMoves g with
      | none hPermits hFacts =>
          have hZero := countP_of_no_permit hFacts
          omega
      | leaves hOpen hLacks hPermits =>
          simp
          omega
      | takes hOpen hPermits =>
          simp
          omega

------------------------------------------------------------
-- No More Permits Than Waiters
------------------------------------------------------------

/-
  A thread's registration ends by an outcome that the cohort
  grants, unless the tally has refused the thread.
-/
theorem Moves.registration_ends
    {m rest : Machine V}
    {t g : Nat}
    {ph ph' : Phase V}
    {facts : List Fact}
    (hMoves : m.Moves t ph ph' facts rest)
    (hAdmitted : ph.isRefused = false)
    (hWas : ph.standing.isRegistered g = true)
    (hNot : ph'.standing.isRegistered g = false) :
    ∃ o,
      (m.cohort g).Grants o ∧
        facts = [.settled (m.cohort g).epoch o] := by
  cases hMoves with
  | count hCounted =>
      exact absurd hWas (Bool.eq_false_iff.mp hNot)
  | refuse hRefused =>
      exact absurd hWas (Bool.eq_false_iff.mp hNot)
  | withdraw => cases hAdmitted
  | depart => exact absurd hWas (Bool.eq_false_iff.mp hNot)
  | watch => exact absurd hWas (Bool.eq_false_iff.mp hNot)
  | settle hLook =>
      cases of_decide_eq_true hWas
      exact ⟨_, Vigil.grants_of_look hLook, rfl⟩
  | park hLook =>
      exact absurd hWas (Bool.eq_false_iff.mp hNot)
  | expire hDue =>
      exact absurd hWas (Bool.eq_false_iff.mp hNot)
  | @judge side a => cases side <;> cases hWas
  | _ => cases hWas

/-
  `bounded`: an open cohort has no more permits than waiters.
  `waited`: nor has the current one, closed or not, more than
  there are threads that wait.
-/
structure Permitted (m : Machine V) : Prop where
  bounded :
    ∀ g,
      (m.cohort g).closed = false →
        (m.cohort g).permits ≤ (m.cohort g).registered
  waited : (m.cohort m.current).permits ≤ m.waiters

/- There are no permits in a fresh machine. -/
theorem permitted_fresh
    (s : Settings)
    (value : V)
    (foreign : V) :
    (fresh s value foreign).Permitted where
  bounded := by
    intro g hOpen
    rw [permits_fresh]
    exact Nat.zero_le _
  waited := Nat.zero_le _

/- Whoever is registered waits. -/
theorem Census.registered_le_waiters
    {m : Machine V}
    (hCensus : m.Census)
    (g : Nat) :
    (m.cohort g).registered ≤ m.waiters := by
  rw [hCensus g]
  exact
    List.countP_mono_left
      (fun s _ => Standing.isWaiter_of_isRegistered)

/- A move keeps the permits of open cohorts bounded. -/
theorem Permitted.bounded_moves
    {m rest : Machine V}
    {past : List Note}
    {t : Nat}
    {ph ph' : Phase V}
    {facts : List Fact}
    (hPermitted : m.Permitted)
    (hSound : Sound past m)
    (hAdmitted : ph.isRefused = false)
    (hPhase : m.threads[t]? = some ph)
    (hMoves : m.Moves t ph ph' facts rest)
    (g : Nat)
    (hOpen : (rest.cohort g).closed = false) :
    (rest.cohort g).permits ≤ (rest.cohort g).registered := by
  have hCount :=
    hSound.orderly.registered_moves hSound.census hPhase
      hMoves g
  have hOpenBefore : (m.cohort g).closed = false := by
    apply Bool.eq_false_iff.mpr
    intro hClosed
    have hStill :=
      (hSound.orderly.closed_moves_iff hPhase hMoves g).mpr
        (Or.inl hClosed)
    rw [hOpen] at hStill
    cases hStill
  have hBefore := hPermitted.bounded g hOpenBefore
  -- The cohort loses no waiter but by an outcome.
  have hLoss :
      (m.cohort g).registered ≤ (rest.cohort g).registered ∨
        ∃ o,
          (m.cohort g).Grants o ∧ facts = [.settled g o] := by
    cases hWas : ph.standing.isRegistered g with
    | false =>
        rw [hWas] at hCount
        exact Or.inl (Nat.le.intro hCount.symm)
    | true =>
        cases hStill : ph'.standing.isRegistered g with
        | true =>
            rw [hWas, hStill] at hCount
            exact
              Or.inl
                (Nat.le_of_eq (Nat.add_right_cancel hCount).symm)
        | false =>
            rcases
                hMoves.registration_ends hAdmitted hWas hStill
              with ⟨o, hGrants, hFacts⟩
            have hLe :=
              hSound.orderly.le_current_of_registered
                (standings_of_phase hPhase) hWas
            rw [hSound.orderly.epochs g hLe] at hFacts
            exact Or.inr ⟨o, hGrants, hFacts⟩
  cases hSound.orderly.trade hPhase hMoves g with
  | none hPermits hFacts =>
      rw [hPermits]
      rcases hLoss with hMore | ⟨o, hGrants, rfl⟩
      · exact Nat.le_trans hBefore hMore
      · cases o with
        | interrupted => cases hOpenBefore.symm.trans hGrants
        | timedOut =>
            rw [hGrants.2]
            exact Nat.zero_le _
        | signaled =>
            have hTells := hFacts _ List.mem_cons_self
            simp at hTells
  | leaves hWas hLacks hPermits =>
      rw [hPermits]
      rcases hLoss with hMore | ⟨o, hGrants, hFacts⟩
      · exact Nat.lt_of_lt_of_le hLacks hMore
      · cases hFacts
  | takes hWas hPermits =>
      have hOne := Bool.toNat_le (ph.standing.isRegistered g)
      omega

/-
  A thread stops waiting only with the lock held, so nobody
  does while the current cohort is closed.
-/
theorem Orderly.waiters_moves
    {m rest : Machine V}
    {t : Nat}
    {ph ph' : Phase V}
    {facts : List Fact}
    (hOrderly : m.Orderly)
    (hPhase : m.threads[t]? = some ph)
    (hMoves : m.Moves t ph ph' facts rest)
    (hClosed : (m.cohort m.current).closed = true) :
    m.waiters ≤ (rest.setPhase t ph').waiters := by
  have hStanding := standings_of_phase hPhase
  have hCount :=
    hMoves.countP_standings hPhase Standing.isWaiter
  have hStays :
      ph.standing.isWaiter = true →
        ph'.standing.isWaiter = true := by
    intro hWaiter
    have hShift := hMoves.shift
    generalize ph.standing = s at *
    generalize ph'.standing = s' at *
    generalize rest.cohorts = cohorts' at hShift
    generalize rest.current = current' at hShift
    have hNotHolding :
        s.holdsLock = true →
          (∀ g r, s ≠ .retiring g r) → False := by
      intro hHolds hStays
      have hOpen :=
        hOrderly.open_of_holder
          (hOrderly.locked t _ hStanding hHolds) hStanding
          hStays
      rw [hClosed] at hOpen
      cases hOpen
    cases hShift with
    | stand hOther hFacts => exact hWaiter
    | turn hFree hFree' hFacts =>
        rw [Standing.isWaiter_of_isFree hFree] at hWaiter
        cases hWaiter
    | withdraw => exact (hNotHolding rfl nofun).elim
    | leave hFree hFacts => exact (hNotHolding rfl nofun).elim
    | count => rfl
    | depart => rfl
    | stay => rfl
    | park hOpen hNone => rfl
    | settle hGrants => rfl
    | regain => rfl
    | _ => cases hWaiter
  unfold waiters
  cases hWas : ph.standing.isWaiter with
  | false =>
      rw [hWas] at hCount
      exact Nat.le.intro hCount.symm
  | true =>
      rw [hWas, hStays hWas] at hCount
      exact Nat.le_of_eq (Nat.add_right_cancel hCount).symm

/- A move keeps the permits of the current cohort bounded. -/
theorem Permitted.waited_moves
    {m rest : Machine V}
    {past : List Note}
    {t : Nat}
    {ph ph' : Phase V}
    {facts : List Fact}
    (hPermitted : m.Permitted)
    (hSound : Sound past m)
    (hPhase : m.threads[t]? = some ph)
    (hMoves : m.Moves t ph ph' facts rest)
    (hClosed : (rest.cohort rest.current).closed = true) :
    (rest.cohort rest.current).permits ≤
      (rest.setPhase t ph').waiters := by
  have hCount :=
    hMoves.countP_standings hPhase Standing.isWaiter
  have hWaiters :=
    hSound.orderly.waiters_moves hPhase hMoves
  have hEra := hSound.orderly.era hPhase hMoves
  have hTrade :=
    hSound.orderly.trade hPhase hMoves m.current
  generalize ph.standing = s at hCount hEra
  generalize ph'.standing = s' at hCount hEra
  cases hEra with
  | lasts hSame hFits hStays hFacts =>
      rw [hSame.current] at hClosed ⊢
      rw [hSame.closed] at hClosed
      have hMore := hWaiters hClosed
      cases hTrade with
      | none hPermits hNone =>
          rw [hPermits]
          exact Nat.le_trans hPermitted.waited hMore
      | leaves hOpen hLacks hPermits =>
          cases hClosed.symm.trans hOpen
      | takes hOpen hPermits =>
          cases hClosed.symm.trans hOpen
  | closes hOpen hCurrent hCohorts =>
      cases hTrade with
      | none hPermits hNone =>
          rw [hCurrent, hPermits]
          exact
            Nat.le_trans hPermitted.waited
              (Nat.le_of_eq
                (Nat.add_right_cancel hCount).symm)
  | renews hWas hCurrent hCohorts =>
      rw [hCurrent, hSound.orderly.cohort_renewed hCohorts]
        at hClosed
      cases hClosed

/- Every step that refuses nobody keeps permits bounded. -/
theorem Permitted.steps
    {m m' : Machine V}
    {past ns : List Note}
    (hPermitted : m.Permitted)
    (hSound : Sound past m)
    (hTallied : m.Tallied)
    (hSteps : m.Steps m' ns) :
    m'.Permitted := by
  have hCensus := (hSound.steps hSteps).census
  cases hSteps with
  | join =>
      refine ⟨hPermitted.bounded, ?_⟩
      unfold waiters
      rw [standings_join, List.countP_append]
      exact hPermitted.waited
  | tick hLater =>
      exact ⟨hPermitted.bounded, hPermitted.waited⟩
  | @move t ph ph' facts rest hPhase hMoves =>
      have hBounded :=
        hPermitted.bounded_moves hSound
          (hTallied.admitted ph (List.mem_of_getElem? hPhase))
          hPhase hMoves
      refine ⟨hBounded, ?_⟩
      change
        (rest.cohort rest.current).permits ≤
          (rest.setPhase t ph').waiters
      cases hClosed : (rest.cohort rest.current).closed with
      | true =>
          exact
            hPermitted.waited_moves hSound hPhase hMoves
              hClosed
      | false =>
          have hFew := hBounded rest.current hClosed
          have hWait := hCensus.registered_le_waiters
          exact Nat.le_trans hFew (hWait rest.current)

/-
  Without crowding, permits are balanced and bounded all the
  time.
-/
theorem ReachesUncrowded.permitted
    {m : Machine V}
    {s : Settings}
    {value foreign : V}
    {ns : List Note}
    (hReaches :
      (fresh s value foreign).ReachesUncrowded ns m) :
    Balanced ns m ∧ m.Permitted := by
  induction hReaches with
  | refl hRoom =>
      constructor
      · intro g
        rw [permits_fresh]
        rfl
      · exact permitted_fresh s value foreign
  | step hPrevious hStep hRoom ih =>
      have hSteps := steps_of_step hStep
      have hSound := hPrevious.reaches.sound
      exact
        ⟨ih.1.steps hSound.orderly hSteps,
          ih.2.steps hSound hPrevious.tallied hSteps⟩

end Machine

end CondVar
