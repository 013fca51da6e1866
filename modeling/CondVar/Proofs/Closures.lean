import CondVar.Proofs.Order
import CondVar.Proofs.Waits

/-
  What the history tells of interrupts.

  A cohort is closed if the history tells that it was, and it
  tells so once.  The thread that closed it is the one that
  replaces it, later, and it reports what it found then.

  Main declarations:
    * `ClosedAt`
    * `Machine.Closures`
    * `Machine.Closures.steps`
-/

namespace CondVar

/- A history tells at a place that a cohort was closed. -/
def ClosedAt
    (ns : List Note)
    (j : Nat)
    (g : Nat) : Prop :=
  ∃ t r, Told ns j t (.closed g r)

/- What is told of a close is told within the history. -/
theorem ClosedAt.lt_length
    {ns : List Note}
    {j g : Nat}
    (hClosed : ClosedAt ns j g) :
    j < ns.length := by
  rcases hClosed with ⟨t, r, hTold⟩
  exact hTold.lt_length

/- A step that ends no epoch tells of no close. -/
theorem closedAt_append_of_lasts
    {past : List Note}
    {facts : List Fact}
    {time : Instant}
    {t j g : Nat}
    (hFacts : ∀ f ∈ facts, f.endsEra = false) :
    ClosedAt (past ++ facts.map (Note.mk t time)) j g ↔
      ClosedAt past j g := by
  have hNot : ∀ r, Fact.closed g r ∉ facts :=
    fun r hMem => nomatch hFacts _ hMem
  constructor
  · rintro ⟨u, r, hTold⟩
    exact ⟨u, r, (told_append_of_not_mem (hNot r)).mp hTold⟩
  · rintro ⟨u, r, hTold⟩
    exact ⟨u, r, (told_append_of_not_mem (hNot r)).mpr hTold⟩

/- A step that closes a cohort tells so in the next place. -/
theorem closedAt_append_closed_iff
    {past : List Note}
    {time : Instant}
    {t j g g' : Nat}
    {r : WakeReport} :
    ClosedAt
        (past ++ [Fact.closed g r].map (Note.mk t time)) j g' ↔
      ClosedAt past j g' ∨ (g' = g ∧ j = past.length) := by
  constructor
  · rintro ⟨u, r', hTold⟩
    rcases told_append_singleton_iff.mp hTold with
      hOld | ⟨_, hFact, hPlace⟩
    · exact Or.inl ⟨u, r', hOld⟩
    · cases hFact
      exact Or.inr ⟨rfl, hPlace⟩
  · rintro (⟨u, r', hTold⟩ | ⟨rfl, hPlace⟩)
    · exact ⟨u, r', hTold.append _⟩
    · exact
        ⟨t, r,
          told_append_singleton_iff.mpr
            (Or.inr ⟨rfl, rfl, hPlace⟩)⟩

/- A longer history tells of the closes among its new facts. -/
theorem exists_closedAt_append_iff
    {past : List Note}
    {facts : List Fact}
    {time : Instant}
    {t g : Nat} :
    (∃ j,
        ClosedAt (past ++ facts.map (Note.mk t time)) j g) ↔
      (∃ j, ClosedAt past j g) ∨
        ∃ r, Fact.closed g r ∈ facts := by
  constructor
  · rintro ⟨j, u, r, hTold⟩
    rcases told_append_iff.mp hTold with
      hOld | ⟨_, k, hFact, _⟩
    · exact Or.inl ⟨j, u, r, hOld⟩
    · exact Or.inr ⟨r, List.mem_of_getElem? hFact⟩
  · rintro (⟨j, u, r, hTold⟩ | ⟨r, hMem⟩)
    · exact ⟨j, u, r, hTold.append _⟩
    · rcases List.getElem?_of_mem hMem with ⟨k, hFact⟩
      exact
        ⟨past.length + k, t, r,
          told_append_iff.mpr (Or.inr ⟨rfl, k, hFact, rfl⟩)⟩

namespace Machine

variable {V : Type}

/-
  `closed`: a cohort is closed if the history tells so.
  `once`: it tells so in one place.  `closer`: a thread that
  is to replace a cohort has closed it, with the report that
  it is to give.  `replaced`: a cohort was replaced after it
  was closed, by the same thread with the same report.
-/
structure Closures
    (ns : List Note)
    (m : Machine V) : Prop where
  closed :
    ∀ g, (m.cohort g).closed = true ↔ ∃ j, ClosedAt ns j g
  once :
    ∀ g i j, ClosedAt ns i g → ClosedAt ns j g → i = j
  closer :
    ∀ (t g : Nat) (r : WakeReport),
      m.standings[t]? = some (.retiring g r) →
        ∃ j, Told ns j t (.closed g r)
  replaced :
    ∀ k t g r,
      Told ns k t (.interrupted g r) →
        ∃ j < k, Told ns j t (.closed g r)

/- Nothing is closed in a fresh machine. -/
theorem closures_fresh
    (s : Settings)
    (value : V)
    (foreign : V) :
    Closures [] (fresh s value foreign) where
  closed := by
    intro g
    constructor
    · intro hClosed
      cases g with
      | zero => cases hClosed
      | succ g => cases hClosed
    · rintro ⟨j, t, r, time, hGet⟩
      cases hGet
  once := by
    rintro g i j ⟨t, r, time, hGet⟩
    cases hGet
  closer := fun _ _ _ hStanding => nomatch hStanding
  replaced := by
    rintro k t g r ⟨time, hGet⟩
    cases hGet

/- A cohort is closed after a move if it is told to be. -/
theorem Closures.closed_moves
    {m rest : Machine V}
    {past : List Note}
    {t : Nat}
    {ph ph' : Phase V}
    {facts : List Fact}
    (hClosures : Closures past m)
    (hOrderly : m.Orderly)
    (hPhase : m.threads[t]? = some ph)
    (hMoves : m.Moves t ph ph' facts rest)
    (g : Nat) :
    ((rest.setPhase t ph').cohort g).closed = true ↔
      ∃ j,
        ClosedAt (past ++ facts.map (Note.mk t m.clock))
          j g := by
  change (rest.cohort g).closed = true ↔ _
  rw [hOrderly.closed_moves_iff hPhase hMoves,
    hClosures.closed, exists_closedAt_append_iff]

/- A move within an era closes and replaces nothing. -/
theorem Closures.lasts
    {m rest : Machine V}
    {past : List Note}
    {t : Nat}
    {ph ph' : Phase V}
    {facts : List Fact}
    (hClosures : Closures past m)
    (hOrderly : m.Orderly)
    (hPhase : m.threads[t]? = some ph)
    (hMoves : m.Moves t ph ph' facts rest)
    (hStays :
      ∀ g r,
        ph.standing = .retiring g r ↔
          ph'.standing = .retiring g r)
    (hFacts : ∀ f ∈ facts, f.endsEra = false) :
    Closures (past ++ facts.map (Note.mk t m.clock))
      (rest.setPhase t ph') := by
  constructor
  · exact hClosures.closed_moves hOrderly hPhase hMoves
  · intro g i j hAt hAt'
    rw [closedAt_append_of_lasts hFacts] at hAt hAt'
    exact hClosures.once g i j hAt hAt'
  · intro u g r hRetiring
    have hOld : m.standings[u]? = some (.retiring g r) := by
      rcases hMoves.standing_cases hRetiring with
        ⟨rfl, hMine⟩ | ⟨_, hTheirs⟩
      · rw [standings_of_phase hPhase,
          (hStays g r).mpr hMine.symm]
      · exact hTheirs
    rcases hClosures.closer u g r hOld with ⟨j, hTold⟩
    exact ⟨j, hTold.append _⟩
  · intro k u g r hTold
    have hNot : Fact.interrupted g r ∉ facts :=
      fun hMem => nomatch hFacts _ hMem
    rw [told_append_of_not_mem hNot] at hTold
    rcases hClosures.replaced k u g r hTold with
      ⟨j, hLt, hClosed⟩
    exact ⟨j, hLt, hClosed.append _⟩

/- The close of the current cohort is told the first time. -/
theorem Closures.closes
    {m rest : Machine V}
    {past : List Note}
    {t : Nat}
    {ph ph' : Phase V}
    {r : WakeReport}
    (hClosures : Closures past m)
    (hOrderly : m.Orderly)
    (hPhase : m.threads[t]? = some ph)
    (hMoves :
      m.Moves t ph ph' [.closed m.current r] rest)
    (hRetiring : ph'.standing = .retiring m.current r)
    (hOpen : (m.cohort m.current).closed = false) :
    Closures
      (past ++
        [Fact.closed m.current r].map (Note.mk t m.clock))
      (rest.setPhase t ph') := by
  have hNever : ∀ j, ¬ ClosedAt past j m.current := by
    intro j hAt
    have hClosed := (hClosures.closed m.current).mpr ⟨j, hAt⟩
    rw [hOpen] at hClosed
    cases hClosed
  constructor
  · exact hClosures.closed_moves hOrderly hPhase hMoves
  · intro g i j hAt hAt'
    rcases closedAt_append_closed_iff.mp hAt with
      hOld | ⟨rfl, rfl⟩
    · rcases closedAt_append_closed_iff.mp hAt' with
        hOld' | ⟨rfl, rfl⟩
      · exact hClosures.once g i j hOld hOld'
      · exact absurd hOld (hNever i)
    · rcases closedAt_append_closed_iff.mp hAt' with
        hOld' | ⟨_, rfl⟩
      · exact absurd hOld' (hNever j)
      · rfl
  · intro u g r' hStanding
    rcases hMoves.standing_cases hStanding with
      ⟨rfl, hMine⟩ | ⟨_, hTheirs⟩
    · rw [hRetiring] at hMine
      cases hMine
      exact
        ⟨past.length,
          told_append_singleton_iff.mpr
            (Or.inr ⟨rfl, rfl, rfl⟩)⟩
    · rcases hClosures.closer u g r' hTheirs with ⟨j, hTold⟩
      exact ⟨j, hTold.append _⟩
  · intro k u g r' hTold
    rcases told_append_singleton_iff.mp hTold with
      hOld | ⟨_, hFact, _⟩
    · rcases hClosures.replaced k u g r' hOld with
        ⟨j, hLt, hClosed⟩
      exact ⟨j, hLt, hClosed.append _⟩
    · cases hFact

/- A cohort is replaced by the thread that has closed it. -/
theorem Closures.renews
    {m rest : Machine V}
    {past : List Note}
    {t : Nat}
    {ph ph' : Phase V}
    {r : WakeReport}
    (hClosures : Closures past m)
    (hOrderly : m.Orderly)
    (hPhase : m.threads[t]? = some ph)
    (hMoves :
      m.Moves t ph ph' [.interrupted m.current r] rest)
    (hRetiring : ph.standing = .retiring m.current r)
    (hAway : ph'.standing = .away) :
    Closures
      (past ++
        [Fact.interrupted m.current r].map
          (Note.mk t m.clock))
      (rest.setPhase t ph') := by
  have hClosedAt :
      ∀ j g,
        ClosedAt
            (past ++
              [Fact.interrupted m.current r].map
                (Note.mk t m.clock)) j g ↔
          ClosedAt past j g := by
    intro j g
    exact
      exists_congr
        (fun u =>
          exists_congr
            (fun r' => told_append_of_not_mem (by simp)))
  constructor
  · exact hClosures.closed_moves hOrderly hPhase hMoves
  · intro g i j hAt hAt'
    rw [hClosedAt] at hAt hAt'
    exact hClosures.once g i j hAt hAt'
  · intro u g r' hStanding
    rcases hMoves.standing_cases hStanding with
      ⟨rfl, hMine⟩ | ⟨_, hTheirs⟩
    · rw [hAway] at hMine
      cases hMine
    · rcases hClosures.closer u g r' hTheirs with ⟨j, hTold⟩
      exact ⟨j, hTold.append _⟩
  · intro k u g r' hTold
    rcases told_append_singleton_iff.mp hTold with
      hOld | ⟨rfl, hFact, rfl⟩
    · rcases hClosures.replaced k u g r' hOld with
        ⟨j, hLt, hClosed⟩
      exact ⟨j, hLt, hClosed.append _⟩
    · cases hFact
      have hStanding := standings_of_phase hPhase
      rw [hRetiring] at hStanding
      rcases hClosures.closer u m.current r hStanding with
        ⟨j, hClosed⟩
      exact ⟨j, hClosed.lt_length, hClosed.append _⟩

/- Every step of an orderly machine keeps the closures. -/
theorem Closures.steps
    {m m' : Machine V}
    {past ns : List Note}
    (hClosures : Closures past m)
    (hOrderly : m.Orderly)
    (hSteps : m.Steps m' ns) :
    Closures (past ++ ns) m' := by
  cases hSteps with
  | join =>
      rw [List.append_nil]
      refine { hClosures with closer := ?_ }
      intro t g r hStanding
      rcases standing_join hStanding with hOld | hAway
      · exact hClosures.closer t g r hOld
      · cases hAway
  | tick hLater =>
      rw [List.append_nil]
      exact { hClosures with }
  | @move t ph ph' facts rest hPhase hMoves =>
      have hEra := hOrderly.era hPhase hMoves
      generalize hBefore : ph.standing = s at hEra
      generalize hAfter : ph'.standing = s' at hEra
      cases hEra with
      | lasts hSame hFits hStays hFacts =>
          subst hBefore hAfter
          exact
            hClosures.lasts hOrderly hPhase hMoves hStays hFacts
      | closes hOpen hCurrent hCohorts =>
          exact
            hClosures.closes hOrderly hPhase hMoves hAfter
              hOpen
      | renews hClosed hCurrent hCohorts =>
          exact
            hClosures.renews hOrderly hPhase hMoves hBefore
              hAfter

end Machine

end CondVar
