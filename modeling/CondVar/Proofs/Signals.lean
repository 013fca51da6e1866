import CondVar.Proofs.Timely

/-
  A signal under the lock is not missed.

  While a thread has the lock nobody else registers, closes,
  or replaces a cohort.  So the cohort that it reads is the
  one that it posts to, and if some wait is pending there
  then, the cohort has a permit afterwards.  Only a look takes
  a permit, and it is the first thing that a look finds after
  a close, so the next look settles its wait.

  Main declarations:
    * `Machine.Orderly.permits_moves`
    * `Machine.Promised`
    * `Machine.signal_not_missed`
-/

namespace CondVar

------------------------------------------------------------
-- Looks
------------------------------------------------------------

namespace Fact

/- Whether a fact is told by a look at an epoch's cohort. -/
def isLookAt
    (e : Nat) : Fact → Bool
| .stalled e' _ => e' = e
| .parked e' _ => e' = e
| .settled e' _ => e' = e
| _ => false

/-
  Whether a fact tells that a wait on an epoch took a permit
  or that the epoch's cohort was closed.
-/
def relieves
    (e : Nat) : Fact → Bool
| .settled e' o => e' = e ∧ o = .signaled
| .closed e' _ => e' = e
| _ => false

/- What concerns no cohort is not told by a look. -/
theorem isLookAt_of_isPrivate
    {f : Fact}
    (e : Nat)
    (hPrivate : f.isPrivate = true) :
    f.isLookAt e = false := by
  cases f <;> first | rfl | cases hPrivate

end Fact

namespace Machine

variable {V : Type}

/- A cohort has a permit if its place is not set to none. -/
theorem permits_of_set
    {m rest : Machine V}
    {g h : Nat}
    {c : Cohort}
    (hPermits : 0 < (m.cohort g).permits)
    (hCohorts : rest.cohorts = m.cohorts.set h c)
    (hHere : h = g → 0 < c.permits) :
    0 < (rest.cohort g).permits := by
  rw [cohort_of_set hCohorts]
  split
  · rename_i hSame
    exact hHere hSame.1.symm
  · exact hPermits

/-
  As long as a cohort has a permit, a move either is no look
  at it and leaves a permit, or settles a wait on it, as
  signaled or, after a close, as interrupted.
-/
theorem Orderly.permits_moves
    {m rest : Machine V}
    {t g : Nat}
    {ph ph' : Phase V}
    {facts : List Fact}
    (hOrderly : m.Orderly)
    (hPhase : m.threads[t]? = some ph)
    (hMoves : m.Moves t ph ph' facts rest)
    (hPermits : 0 < (m.cohort g).permits) :
    ((∀ f ∈ facts, f.isLookAt g = false) ∧
      0 < (rest.cohort g).permits) ∨
    facts = [.settled g .signaled] ∨
    (facts = [.settled g .interrupted] ∧
      (m.cohort g).closed = true) := by
  have hFits :=
    hOrderly.fits t _ (standings_of_phase hPhase)
  have hShift := hMoves.shift
  generalize ph.standing = s at *
  generalize ph'.standing = s' at *
  generalize hCohorts : rest.cohorts = cohorts' at hShift
  generalize rest.current = current' at hShift
  have hKept :
      rest.cohorts = m.cohorts →
        0 < (rest.cohort g).permits := by
    intro hSame
    rw [cohort_of_eq hSame]
    exact hPermits
  have hPrivate :
      ∀ {facts : List Fact},
        (∀ f ∈ facts, f.isPrivate = true) →
          ∀ f ∈ facts, f.isLookAt g = false :=
    fun h f hMem => Fact.isLookAt_of_isPrivate g (h f hMem)
  cases hShift with
  | stand hOther hFacts =>
      exact Or.inl ⟨hPrivate hFacts, hKept hCohorts⟩
  | turn hFree hFree' hFacts =>
      exact Or.inl ⟨hPrivate hFacts, hKept hCohorts⟩
  | signal => exact Or.inl ⟨nofun, hKept hCohorts⟩
  | drop hDropped =>
      exact
        Or.inl ⟨by simp [Fact.isLookAt], hKept hCohorts⟩
  | post hOpen hLacks =>
      exact
        Or.inl
          ⟨by simp [Fact.isLookAt],
            permits_of_set hPermits hCohorts
              (fun _ => Nat.succ_pos _)⟩
  | enroll =>
      refine
        Or.inl ⟨nofun, permits_of_set hPermits hCohorts ?_⟩
      rintro rfl
      exact hPermits
  | withdraw =>
      refine
        Or.inl
          ⟨by simp [Fact.isLookAt],
            permits_of_set hPermits hCohorts ?_⟩
      rintro rfl
      exact hPermits
  | count =>
      exact
        Or.inl ⟨by simp [Fact.isLookAt], hKept hCohorts⟩
  | depart =>
      exact
        Or.inl ⟨by simp [Fact.isLookAt], hKept hCohorts⟩
  | stay => exact Or.inl ⟨nofun, hKept hCohorts⟩
  | @park h wakeAt stalled hOpen hNone =>
      have hOther : h ≠ g := by
        rintro rfl
        omega
      refine Or.inl ⟨?_, hKept hCohorts⟩
      rw [hOrderly.epochs h hFits]
      cases stalled <;> simp [Fact.isLookAt, hOther]
  | @settle h o hGrants =>
      rw [hOrderly.epochs h hFits]
      by_cases hSame : h = g
      · subst hSame
        cases o with
        | signaled => exact Or.inr (Or.inl rfl)
        | interrupted => exact Or.inr (Or.inr ⟨rfl, hGrants⟩)
        | timedOut =>
            have hNone : (m.cohort h).permits = 0 := hGrants.2
            omega
      · exact
          Or.inl
            ⟨by simp [Fact.isLookAt, hSame],
              permits_of_set hPermits hCohorts
                (fun h => absurd h hSame)⟩
  | regain =>
      exact
        Or.inl ⟨by simp [Fact.isLookAt], hKept hCohorts⟩
  | leave hFree hFacts =>
      refine Or.inl ⟨?_, hKept hCohorts⟩
      intro f hMem
      rcases List.mem_cons.mp hMem with rfl | hTurn
      · rfl
      · exact hPrivate hFacts f hTurn
  | close hOpen =>
      refine
        Or.inl
          ⟨by simp [Fact.isLookAt],
            permits_of_set hPermits hCohorts ?_⟩
      rintro rfl
      exact hPermits
  | closeAgain hClosed =>
      exact
        Or.inl ⟨by simp [Fact.isLookAt], hKept hCohorts⟩
  | renew =>
      refine Or.inl ⟨by simp [Fact.isLookAt], ?_⟩
      rw [cohort_of_append hCohorts]
      split
      · rename_i hLast
        unfold cohort at hPermits
        rw [List.getElem?_eq_none (Nat.le_of_eq hLast.symm)]
          at hPermits
        cases hPermits
      · exact hPermits

------------------------------------------------------------
-- A Permit Is Taken First
------------------------------------------------------------

/-
  What the history tells since a cohort got a permit.  Either
  nobody has looked at the cohort and a permit is still there,
  or the first to look was settled as signaled, or as
  interrupted after a close that is told before.
-/
inductive Promised
    (g : Nat)
    (ns : List Note)
    (m : Machine V) : Prop where
| kept
    (hLooks : ∀ n ∈ ns, n.fact.isLookAt g = false)
    (hPermits : 0 < (m.cohort g).permits)
    (hClosed :
      (m.cohort g).closed = true →
        ∃ n ∈ ns, n.fact.relieves g = true)
| taken {l r : List Note} {n : Note}
    (hSplit : ns = l ++ n :: r)
    (hLooks : ∀ n' ∈ l, n'.fact.isLookAt g = false)
    (hLook :
      n.fact = .settled g .signaled ∨
        (n.fact = .settled g .interrupted ∧
          ∃ n' ∈ l, n'.fact.relieves g = true))

/- A promise concerns a machine by its cohorts only. -/
theorem Promised.of_cohorts
    {m m' : Machine V}
    {g : Nat}
    {ns : List Note}
    (hPromised : Promised g ns m)
    (hCohorts : m'.cohorts = m.cohorts) :
    Promised g ns m' := by
  have hSame := cohort_of_eq hCohorts g
  cases hPromised with
  | kept hLooks hPermits hClosed =>
      rw [← hSame] at hPermits hClosed
      exact .kept hLooks hPermits hClosed
  | taken hSplit hLooks hLook =>
      exact .taken hSplit hLooks hLook

/- A move keeps the promise or takes the permit first. -/
theorem Promised.moves
    {m rest : Machine V}
    {past : List Note}
    {t g : Nat}
    {ph ph' : Phase V}
    {facts : List Fact}
    (hPromised : Promised g past m)
    (hOrderly : m.Orderly)
    (hPhase : m.threads[t]? = some ph)
    (hMoves : m.Moves t ph ph' facts rest) :
    Promised g (past ++ facts.map (Note.mk t m.clock))
      (rest.setPhase t ph') := by
  cases hPromised with
  | @taken l r n hSplit hLooks hLook =>
      subst hSplit
      exact
        .taken (List.append_assoc l (n :: r) _) hLooks hLook
  | kept hLooks hPermits hClosed =>
      rcases hOrderly.permits_moves hPhase hMoves hPermits with
        ⟨hQuiet, hPermits'⟩ | rfl | ⟨rfl, hWas⟩
      · refine .kept ?_ hPermits' ?_
        · intro n hMem
          rcases List.mem_append.mp hMem with hOld | hNew
          · exact hLooks n hOld
          · rcases List.mem_map.mp hNew with ⟨f, hFact, rfl⟩
            exact hQuiet f hFact
        · intro hClosed'
          rcases
              (hOrderly.closed_moves_iff hPhase hMoves g).mp
                hClosed' with
            hWas | ⟨r, hFact⟩
          · rcases hClosed hWas with ⟨n, hMem, hRelieves⟩
            exact
              ⟨n, List.mem_append_left _ hMem, hRelieves⟩
          · exact
              ⟨⟨t, m.clock, .closed g r⟩,
                List.mem_append_right _
                  (List.mem_map_of_mem hFact),
                decide_eq_true rfl⟩
      · exact .taken rfl hLooks (Or.inl rfl)
      · exact
          .taken rfl hLooks (Or.inr ⟨rfl, hClosed hWas⟩)

/- Every step of an orderly machine keeps the promise. -/
theorem Promised.steps
    {m m' : Machine V}
    {past ns : List Note}
    {g : Nat}
    (hPromised : Promised g past m)
    (hOrderly : m.Orderly)
    (hSteps : m.Steps m' ns) :
    Promised g (past ++ ns) m' := by
  cases hSteps with
  | join =>
      rw [List.append_nil]
      exact hPromised.of_cohorts rfl
  | tick hLater =>
      rw [List.append_nil]
      exact hPromised.of_cohorts rfl
  | move hPhase hMoves =>
      exact hPromised.moves hOrderly hPhase hMoves

/- The first look that a promise lets a history tell of. -/
theorem Promised.first_look
    {m : Machine V}
    {ns : List Note}
    {g : Nat}
    {n : Note}
    (hPromised : Promised g ns m)
    (hFirst : ns.find? (·.fact.isLookAt g) = some n) :
    n.fact = .settled g .signaled ∨
      n.fact = .settled g .interrupted := by
  cases hPromised with
  | kept hLooks hPermits hClosed =>
      rw [List.find?_eq_none.mpr (by simpa using hLooks)]
        at hFirst
      cases hFirst
  | @taken l r n' hSplit hLooks hLook =>
      have hIsLook : n'.fact.isLookAt g = true := by
        rcases hLook with hFact | ⟨hFact, _⟩
        · rw [hFact]
          exact decide_eq_true rfl
        · rw [hFact]
          exact decide_eq_true rfl
      have hFind :
          ns.find? (·.fact.isLookAt g) = some n' := by
        apply List.find?_eq_some_iff_append.mpr
        exact ⟨hIsLook, l, r, hSplit, by simpa using hLooks⟩
      rw [hFind] at hFirst
      cases hFirst
      exact hLook.imp id And.left

/-
  A look that parks a thread or finds its time run out comes
  after one that took a permit, or after a close.
-/
theorem Promised.relieved_before
    {m : Machine V}
    {l r : List Note}
    {n : Note}
    {g : Nat}
    (hPromised : Promised g (l ++ n :: r) m)
    (hIsLook : n.fact.isLookAt g = true)
    (hNot : n.fact ≠ .settled g .signaled)
    (hNot' : n.fact ≠ .settled g .interrupted) :
    ∃ n' ∈ l, n'.fact.relieves g = true := by
  cases hPromised with
  | kept hLooks hPermits hClosed =>
      have hNo :=
        hLooks n
          (List.mem_append_right _ List.mem_cons_self)
      rw [hIsLook] at hNo
      cases hNo
  | @taken l' r' n' hSplit hLooks hLook =>
      have hOther : n' ≠ n := by
        rintro rfl
        rcases hLook with hFact | ⟨hFact, _⟩
        · exact hNot hFact
        · exact hNot' hFact
      rcases List.append_eq_append_iff.mp hSplit with
        ⟨mid, rfl, hTail⟩ | ⟨mid, rfl, hTail⟩
      · -- The look would come before the first one.
        cases mid with
        | nil =>
            cases hTail
            exact absurd rfl hOther
        | cons n₀ mid =>
            cases hTail
            have hNo :=
              hLooks n
                (List.mem_append_right _ List.mem_cons_self)
            rw [hIsLook] at hNo
            cases hNo
      · cases mid with
        | nil =>
            cases hTail
            exact absurd rfl hOther
        | cons n₀ mid =>
            cases hTail
            rcases hLook with hFact | ⟨_, n₁, hMem, hRelieves⟩
            · refine
                ⟨n',
                  List.mem_append_right _ List.mem_cons_self,
                  ?_⟩
              rw [hFact]
              simp [Fact.relieves]
            · exact
                ⟨n₁, List.mem_append_left _ hMem, hRelieves⟩

------------------------------------------------------------
-- From the Call to the Post
------------------------------------------------------------

/-
  A thread that has the lock and has read the cohort it is to
  signal.
-/
structure Poised
    (m : Machine V)
    (t : Nat)
    (g : Nat) : Prop where
  standing : m.standings[t]? = some (.signaling g)
  holder : m.bound.holder = some t

/- A thread that has the lock signals the current cohort. -/
theorem Poised.current
    {m : Machine V}
    {t g : Nat}
    (hPoised : m.Poised t g)
    (hOrderly : m.Orderly) :
    g = m.current :=
  (hOrderly.fits t _ hPoised.standing).2 hPoised.holder

/- A call with the lock held reads the current cohort. -/
theorem poised_of_signal
    {m m' : Machine V}
    {t : Nat}
    {ns : List Note}
    (hHolds : m.holds t .bound = true)
    (hSignal : m.step (.signal t) = some (m', ns)) :
    m'.Poised t m.current := by
  rcases signal_of_step hSignal with ⟨hIdle, rfl, rfl⟩
  have hMoves : m.Moves t _ _ _ _ := .signal
  exact
    ⟨hMoves.standing_self hIdle, of_decide_eq_true hHolds⟩

/- A poised thread stays so while only others move. -/
theorem Poised.steps
    {m m' : Machine V}
    {t g : Nat}
    {ns : List Note}
    (hPoised : m.Poised t g)
    (hOrderly : m.Orderly)
    (hSteps : m.Steps m' ns)
    (hSilent : ∀ n ∈ ns, n.thread ≠ t) :
    m'.Poised t g := by
  cases hSteps with
  | join =>
      refine ⟨?_, hPoised.holder⟩
      rcases List.getElem?_eq_some_iff.mp hPoised.standing
        with ⟨hLt, _⟩
      rw [standings_join, List.getElem?_append_left hLt]
      exact hPoised.standing
  | tick hLater => exact ⟨hPoised.standing, hPoised.holder⟩
  | @move u ph ph' facts rest hPhase hMoves =>
      by_cases hMine : u = t
      · -- Its own next step would be the post, with a note.
        subst hMine
        have hStanding := standings_of_phase hPhase
        rw [hPoised.standing] at hStanding
        have hPost := hMoves.shift
        rw [← Option.some.inj hStanding] at hPost
        generalize ph'.standing = s' at hPost
        generalize rest.cohorts = cohorts' at hPost
        generalize rest.current = current' at hPost
        cases hPost with
        | stand hOther hFacts => exact absurd rfl (hOther g)
        | turn hFree hFree' hFacts => cases hFree
        | drop hDropped =>
            exact absurd rfl (hSilent _ List.mem_cons_self)
        | post hOpen hLacks =>
            exact absurd rfl (hSilent _ List.mem_cons_self)
      · have hOther : t ≠ u := fun h => hMine h.symm
        have hHolder :=
          hMoves.holder_spec
            (hOrderly.locked _ _ (standings_of_phase hPhase))
        constructor
        · rw [hMoves.standing_other hOther]
          exact hPoised.standing
        · exact (hHolder.2 t hOther).mpr hPoised.holder

/- A poised thread stays so for as long as only others move. -/
theorem Poised.reaches
    {m m' : Machine V}
    {t g : Nat}
    {ns : List Note}
    (hPoised : m.Poised t g)
    (hOrderly : m.Orderly)
    (hReaches : m.Reaches ns m')
    (hSilent : ∀ n ∈ ns, n.thread ≠ t) :
    m'.Poised t g := by
  have hKept :
      (∀ n ∈ ns, n.thread ≠ t) → m'.Poised t g := by
    apply
      hReaches.invariant_of_orderly
        (P := fun ns m =>
          (∀ n ∈ ns, n.thread ≠ t) → m.Poised t g)
        hOrderly (fun _ => hPoised)
    intro m₁ m₂ past ns' hOrderly₁ hBefore hSteps hAll
    have hThen :=
      hBefore
        (fun n hMem => hAll n (List.mem_append_left _ hMem))
    exact
      hThen.steps hOrderly₁ hSteps
        (fun n hMem => hAll n (List.mem_append_right _ hMem))
  exact hKept hSilent

/-
  A poised thread moves by its post, which leaves the cohort
  open, and a permit if somebody is registered there.
-/
theorem Poised.moves
    {m rest : Machine V}
    {t g : Nat}
    {ph ph' : Phase V}
    {facts : List Fact}
    (hPoised : m.Poised t g)
    (hOrderly : m.Orderly)
    (hWaiters : 0 < (m.cohort g).registered)
    (hPhase : m.threads[t]? = some ph)
    (hMoves : m.Moves t ph ph' facts rest) :
    rest.current = g ∧ (rest.cohort g).closed = false ∧
      0 < (rest.cohort g).permits := by
  have hCurrent := hPoised.current hOrderly
  have hOpen :=
    hOrderly.open_of_holder hPoised.holder hPoised.standing
      nofun
  rw [← hCurrent] at hOpen
  have hLt : g < m.cohorts.length := by
    rw [hOrderly.numbered, hCurrent]
    exact Nat.lt_succ_self _
  have hStanding := standings_of_phase hPhase
  rw [hPoised.standing] at hStanding
  have hShift := hMoves.shift
  rw [← Option.some.inj hStanding] at hShift
  generalize ph'.standing = s' at hShift
  generalize hCohorts : rest.cohorts = cohorts' at hShift
  generalize rest.current = current' at hShift ⊢
  cases hShift with
  | stand hOther hFacts => exact absurd rfl (hOther g)
  | turn hFree hFree' hFacts => cases hFree
  | drop hDropped =>
      rw [cohort_of_eq hCohorts]
      refine ⟨hCurrent.symm, hOpen, ?_⟩
      rcases hDropped with hClosed | hEnough
      · rw [hOpen] at hClosed
        cases hClosed
      · exact Nat.lt_of_lt_of_le hWaiters hEnough
  | post _ hLacks =>
      rw [cohort_of_set hCohorts, if_pos ⟨rfl, hLt⟩]
      exact ⟨hCurrent.symm, hOpen, Nat.succ_pos _⟩

/- The same for the step of a poised thread. -/
theorem Poised.post
    {m m' : Machine V}
    {t g : Nat}
    {ns : List Note}
    (hPoised : m.Poised t g)
    (hOrderly : m.Orderly)
    (hWaiters : 0 < (m.cohort g).registered)
    (hPost : m.step (.advance t) = some (m', ns)) :
    m'.current = g ∧ (m'.cohort g).closed = false ∧
      0 < (m'.cohort g).permits := by
  rcases moves_of_goes .advance hPost with
    ⟨ph, ph', facts, rest, hPhase, _, hMoves, rfl, rfl⟩
  have hLeaves :=
    hPoised.moves hOrderly hWaiters hPhase hMoves
  exact hLeaves

------------------------------------------------------------
-- No Signal Is Missed
------------------------------------------------------------

/- What comes first after a cohort got a permit. -/
theorem Reaches.promised
    {m m' : Machine V}
    {g : Nat}
    {ns : List Note}
    (hReaches : m.Reaches ns m')
    (hOrderly : m.Orderly)
    (hOpen : (m.cohort g).closed = false)
    (hPermits : 0 < (m.cohort g).permits) :
    Promised g ns m' := by
  have hFirst : Promised g [] m := by
    refine .kept nofun hPermits ?_
    intro hClosed
    rw [hOpen] at hClosed
    cases hClosed
  exact
    hReaches.invariant_of_orderly
      (P := fun ns m => Promised g ns m)
      hOrderly hFirst
      (fun hOrderly₁ hBefore hSteps =>
        hBefore.steps hOrderly₁ hSteps)

/-
  A wait that was not settled before a cohort got a permit
  does not return as timed out until some wait has taken a
  permit or the cohort was closed.
-/
theorem Promised.returned
    {m : Machine V}
    {past ns : List Note}
    {g : Nat}
    {x : Wait}
    (hPromised : Promised g ns m)
    (hLedger : Ledger (past ++ ns) m)
    (hMem : x ∈ waits (past ++ ns))
    (hEpoch : x.epoch = g)
    (hReturned : x.returned = some .timedOut) :
    (∃ i < past.length, x.settled = some (i, .timedOut)) ∨
      ∃ n ∈ ns, n.fact.relieves g = true := by
  rcases hLedger.returned x hMem _ hReturned with
    ⟨i, hSettled⟩
  by_cases hBefore : i < past.length
  · exact Or.inl ⟨i, hBefore, hSettled⟩
  · rcases (hLedger.settled x hMem i _ hSettled).2 with
      ⟨time, hGet⟩
    rw [List.getElem?_append_right (Nat.le_of_not_lt hBefore)]
      at hGet
    rcases List.getElem?_eq_some_iff.mp hGet with
      ⟨hLt, hNote⟩
    have hSplit :
        ns =
          ns.take (i - past.length) ++
            ⟨x.thread, time, .settled x.epoch .timedOut⟩ ::
              ns.drop (i - past.length + 1) := by
      rw [← hNote, List.getElem_cons_drop,
        List.take_append_drop]
    rw [hSplit] at hPromised
    rcases
        hPromised.relieved_before
          (decide_eq_true hEpoch) nofun nofun with
      ⟨n, hTaken, hRelieves⟩
    exact Or.inr ⟨n, List.mem_of_mem_take hTaken, hRelieves⟩

/-
  A thread has the lock, calls signal, and others move until
  it posts.  If some wait is then registered with the current
  cohort and not settled, whether it is parked or not, there
  is a permit afterwards.  Whatever happens then, the first
  look at the cohort settles a wait as signaled or as
  interrupted, and until a wait has taken a permit or the
  cohort was closed, no look parks a thread or finds its time
  run out, and no wait that was not settled before the post
  returns as timed out.
-/
theorem signal_not_missed
    {m m₁ m₂ m₃ : Machine V}
    {s : Settings}
    {value foreign : V}
    {past ns₁ ns₂ ns₃ : List Note}
    {t w : Nat}
    {st : Standing}
    (hReaches : (fresh s value foreign).Reaches past m)
    (hHolds : m.holds t .bound = true)
    (hSignal : m.step (.signal t) = some (m₁, ns₁))
    (hMeanwhile : m₁.Reaches ns₂ m₂)
    (hSilent : ∀ n ∈ ns₂, n.thread ≠ t)
    (hWaiter : m₂.standings[w]? = some st)
    (hRegistered : st.isRegistered m.current = true)
    (hPost : m₂.step (.advance t) = some (m₃, ns₃)) :
    m₃.current = m.current ∧
    (m₃.cohort m.current).closed = false ∧
    0 < (m₃.cohort m.current).permits ∧
    ∀ ns m',
      m₃.Reaches ns m' →
        (∀ n,
          ns.find? (·.fact.isLookAt m.epoch) = some n →
            n.fact = .settled m.epoch .signaled ∨
              n.fact = .settled m.epoch .interrupted) ∧
        (∀ l n r,
          ns = l ++ n :: r →
            n.fact = .settled m.epoch .timedOut ∨
                (∃ wakeAt,
                  n.fact = .parked m.epoch wakeAt) →
              ∃ n' ∈ l, n'.fact.relieves m.epoch = true) ∧
        ∀ x ∈ waits (past ++ ns₁ ++ ns₂ ++ ns₃ ++ ns),
          x.epoch = m.epoch →
            x.returned = some .timedOut →
              (∃ i < (past ++ ns₁ ++ ns₂ ++ ns₃).length,
                x.settled = some (i, .timedOut)) ∨
              ∃ n ∈ ns, n.fact.relieves m.epoch = true := by
  have hCalled := hReaches.step hSignal
  have hReaches₂ := hCalled.trans hMeanwhile
  have hReaches₃ := hReaches₂.step hPost
  have hOrderly := hReaches.sound.orderly
  have hSound₂ := hReaches₂.sound
  have hEpoch : m.epoch = m.current :=
    hOrderly.epochs _ (Nat.le_refl _)
  have hPoised : m₂.Poised t m.current :=
    (poised_of_signal hHolds hSignal).reaches
      hCalled.sound.orderly hMeanwhile hSilent
  have hWaiters :=
    hSound₂.census.registered_pos hWaiter hRegistered
  rcases hPoised.post hSound₂.orderly hWaiters hPost with
    ⟨hCurrent, hOpen, hPermits⟩
  refine ⟨hCurrent, hOpen, hPermits, ?_⟩
  intro ns m' hOn
  have hPromised :=
    hOn.promised hReaches₃.sound.orderly hOpen hPermits
  have hLedger := (hReaches₃.trans hOn).sound.ledger
  rw [hEpoch]
  refine ⟨fun n hFirst => hPromised.first_look hFirst, ?_, ?_⟩
  · rintro l n r rfl hLook
    rcases hLook with hFact | ⟨wakeAt, hFact⟩
    · exact
        hPromised.relieved_before
          (by rw [hFact]; exact decide_eq_true rfl)
          (by rw [hFact]; nofun) (by rw [hFact]; nofun)
    · exact
        hPromised.relieved_before
          (by rw [hFact]; exact decide_eq_true rfl)
          (by rw [hFact]; nofun) (by rw [hFact]; nofun)
  · intro x hMem hThere hReturned
    exact hPromised.returned hLedger hMem hThere hReturned

/-
  A waiter parks after the signal has been called, and its
  time has come when the permit is left.  It has not been
  told, wakes by itself, and finds the permit.
-/
theorem signal_not_missed_late_notice :
    ∃ (m m₁ m₂ m₃ m₄ : Machine Unit)
      (past ns₁ ns₂ ns₃ ns₄ : List Note) (n : Note),
      (fresh .standard () ()).Reaches past m ∧
        m.holds 1 .bound = true ∧
        m.step (.signal 1) = some (m₁, ns₁) ∧
        m₁.Reaches ns₂ m₂ ∧
        (∀ n ∈ ns₂, n.thread ≠ 1) ∧
        m₂.standings[0]? = some (.waiting 0) ∧
        m₂.step (.advance 1) = some (m₃, ns₃) ∧
        m₃.Reaches ns₄ m₄ ∧
        ns₄.find? (·.fact.isLookAt m.epoch) = some n ∧
        0 < (m₃.cohort m.current).permits ∧
        (n.fact = .settled m.epoch .signaled ∨
          n.fact = .settled m.epoch .interrupted) := by
  have hRuns :
      ∃ (m m₁ m₂ m₃ m₄ : Machine Unit)
        (past ns₁ ns₂ ns₃ ns₄ : List Note) (n : Note),
        (fresh .standard () ()).run
            [.join, .join, .acquire 0 .bound,
              .call 0 .bound (.waitFor (.ofNanos 5)),
              .advance 0, .advance 0, .advance 0,
              .acquire 1 .bound] =
          some (m, past) ∧
        m.step (.signal 1) = some (m₁, ns₁) ∧
        m₁.run
            [.advance 0, .advance 0, .tick (.ofNanos 9)] =
          some (m₂, ns₂) ∧
        m₂.step (.advance 1) = some (m₃, ns₃) ∧
        m₃.run [.expire 0, .advance 0] = some (m₄, ns₄) ∧
        m.holds 1 .bound = true ∧
        (∀ n ∈ ns₂, n.thread ≠ 1) ∧
        m₂.standings[0]? = some (.waiting 0) ∧
        m.current = 0 ∧
        ns₄.find? (·.fact.isLookAt m.epoch) = some n :=
    ⟨_, _, _, _, _, _, _, _, _, _, _, rfl, rfl, rfl, rfl, rfl,
      rfl, by simp, rfl, rfl, rfl⟩
  rcases hRuns with
    ⟨m, m₁, m₂, m₃, m₄, past, ns₁, ns₂, ns₃, ns₄, n, hRun,
      hSignal, hMeanwhile, hPost, hOn, hHolds, hSilent,
      hWaiter, hCurrent, hFirst⟩
  have hReaches := Reaches.of_run .refl hRun
  have hReaches₂ := Reaches.of_run .refl hMeanwhile
  have hReaches₄ := Reaches.of_run .refl hOn
  have hRegistered :
      (Standing.waiting 0).isRegistered m.current = true := by
    rw [hCurrent]
    rfl
  rcases
      signal_not_missed hReaches hHolds hSignal hReaches₂
        hSilent hWaiter hRegistered hPost with
    ⟨_, _, hPermits, hNext⟩
  exact
    ⟨m, m₁, m₂, m₃, m₄, _, ns₁, _, ns₃, _, n, hReaches,
      hHolds, hSignal, hReaches₂, hSilent, hWaiter, hPost,
      hReaches₄, hFirst, hPermits,
      (hNext _ m₄ hReaches₄).1 n hFirst⟩

end Machine

end CondVar
