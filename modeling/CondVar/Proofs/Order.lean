import CondVar.Proofs.Shift

/-
  The order of the epochs.

  Only an interrupt closes the current cohort or replaces it,
  and it does both under the lock.  So every cohort but the
  current one is closed for good, nobody registers with a
  closed cohort, and the current one is closed only while the
  interrupt that closed it is about to replace it.

  Main declarations:
    * `Machine.Orderly`
    * `Machine.Era`
    * `Machine.Orderly.era`
    * `Machine.Orderly.open_of_holder`
    * `Machine.Orderly.steps`
    * `Machine.Reaches.invariant_of_orderly`
-/

namespace CondVar

------------------------------------------------------------
-- Cohorts by Their Numbers
------------------------------------------------------------

/- Whether a fact tells that an epoch ends. -/
def Fact.endsEra : Fact → Bool
| .closed _ _ => true
| .interrupted _ _ => true
| _ => false

/- What concerns no cohort ends no epoch. -/
theorem Fact.endsEra_of_isPrivate
    {f : Fact}
    (hPrivate : f.isPrivate = true) :
    f.endsEra = false := by
  cases f <;> first | rfl | cases hPrivate

namespace Machine

variable {V : Type}

/- Replacing a cohort changes no other. -/
theorem cohort_of_set
    {m m' : Machine V}
    {g : Nat}
    {c : Cohort}
    (hCohorts : m'.cohorts = m.cohorts.set g c)
    (h : Nat) :
    m'.cohort h =
      if h = g ∧ g < m.cohorts.length then c
      else m.cohort h := by
  unfold cohort
  rw [hCohorts, List.getElem?_set]
  by_cases hSame : g = h
  · subst h
    by_cases hLt : g < m.cohorts.length
    · simp [hLt]
    · simp [hLt]
  · simp [hSame, Ne.symm hSame]

/- Another cohort changes none of those before it. -/
theorem cohort_of_append
    {m m' : Machine V}
    {c : Cohort}
    (hCohorts : m'.cohorts = m.cohorts ++ [c])
    (h : Nat) :
    m'.cohort h =
      if h = m.cohorts.length then c else m.cohort h := by
  unfold cohort
  rw [hCohorts]
  rcases Nat.lt_trichotomy h m.cohorts.length with
    hLt | rfl | hGt
  · rw [List.getElem?_append_left hLt,
      if_neg (Nat.ne_of_lt hLt)]
  · rw [List.getElem?_concat_length, if_pos rfl]
    rfl
  · have hPast : m.cohorts.length ≤ h := Nat.le_of_lt hGt
    have hPast' : (m.cohorts ++ [c]).length ≤ h := by
      simpa using Nat.succ_le_of_lt hGt
    rw [List.getElem?_eq_none hPast,
      List.getElem?_eq_none hPast',
      if_neg (Nat.ne_of_gt hGt)]

/- Cohorts of one list are the same by their numbers. -/
theorem cohort_of_eq
    {m m' : Machine V}
    (hCohorts : m'.cohorts = m.cohorts)
    (h : Nat) :
    m'.cohort h = m.cohort h := by
  unfold cohort
  rw [hCohorts]

------------------------------------------------------------
-- Orderly Machines
------------------------------------------------------------

/-
  The place among the epochs of a thread that stands so.  A
  signal that holds the lock is to post to the current
  cohort, and one that does not may be late.
-/
def Fits
    (m : Machine V)
    (t : Nat) : Standing → Prop
| .away => True
| .inside => True
| .door g => g = m.current
| .enrolled g => g = m.current
| .waiting g => g ≤ m.current
| .ended g _ => g ≤ m.current
| .regained g _ => g ≤ m.current
| .signaling g =>
    g ≤ m.current ∧
      (m.bound.holder = some t → g = m.current)
| .retiring g _ =>
    g = m.current ∧ (m.cohort g).closed = true

/-
  `numbered`, `epochs`: the current cohort is the last, and
  cohorts are numbered by their epochs.  `past`: those before
  it are closed.  `fits`: every thread has its place among
  them.  `closer`: if the current one is closed, then some
  thread is to replace it.
-/
structure Orderly (m : Machine V) : Prop where
  locked : m.Locked
  numbered : m.cohorts.length = m.current + 1
  epochs : ∀ g ≤ m.current, (m.cohort g).epoch = g
  past : ∀ g < m.current, (m.cohort g).closed = true
  fits :
    ∀ t s, m.standings[t]? = some s → m.Fits t s
  closer :
    (m.cohort m.current).closed = true →
      ∃ (t : Nat) (r : WakeReport),
        m.standings[t]? = some (.retiring m.current r)

/- A fresh machine is orderly. -/
theorem orderly_fresh
    (s : Settings)
    (value : V)
    (foreign : V) :
    (fresh s value foreign).Orderly where
  locked := locked_fresh s value foreign
  numbered := rfl
  epochs := by
    intro g hLe
    rw [Nat.le_zero.mp hLe]
    rfl
  past := fun g hLt => absurd hLt (Nat.not_lt_zero g)
  fits := fun t s hStanding => nomatch hStanding
  closer := fun hClosed => nomatch hClosed

/-
  While a thread has the lock, the current cohort is open,
  unless that thread has just closed it.
-/
theorem Orderly.open_of_holder
    {m : Machine V}
    {t : Nat}
    {s : Standing}
    (hOrderly : m.Orderly)
    (hHolder : m.bound.holder = some t)
    (hStanding : m.standings[t]? = some s)
    (hStays : ∀ g r, s ≠ .retiring g r) :
    (m.cohort m.current).closed = false := by
  cases hClosed : (m.cohort m.current).closed with
  | false => rfl
  | true =>
      rcases hOrderly.closer hClosed with ⟨u, r, hRetiring⟩
      have hSame :=
        hOrderly.locked.unique hHolder hRetiring rfl
      subst hSame
      rw [hStanding] at hRetiring
      exact absurd (Option.some.inj hRetiring) (hStays _ _)

------------------------------------------------------------
-- Eras
------------------------------------------------------------

/-
  Two machines are in the same era if each cohort has the
  same epoch and is closed in both or in neither.
-/
structure SameEra (m m' : Machine V) : Prop where
  current : m'.current = m.current
  length : m'.cohorts.length = m.cohorts.length
  epoch : ∀ g, (m'.cohort g).epoch = (m.cohort g).epoch
  closed : ∀ g, (m'.cohort g).closed = (m.cohort g).closed

/- An era lasts while the cohorts stay as they are. -/
theorem SameEra.of_eq
    {m m' : Machine V}
    (hCurrent : m'.current = m.current)
    (hCohorts : m'.cohorts = m.cohorts) :
    m.SameEra m' where
  current := hCurrent
  length := congrArg List.length hCohorts
  epoch := fun g =>
    congrArg Cohort.epoch (cohort_of_eq hCohorts g)
  closed := fun g =>
    congrArg Cohort.closed (cohort_of_eq hCohorts g)

/- An era lasts while a cohort only counts otherwise. -/
theorem SameEra.of_set
    {m m' : Machine V}
    {g : Nat}
    {c : Cohort}
    (hCurrent : m'.current = m.current)
    (hCohorts : m'.cohorts = m.cohorts.set g c)
    (hEpoch : c.epoch = (m.cohort g).epoch)
    (hClosed : c.closed = (m.cohort g).closed) :
    m.SameEra m' where
  current := hCurrent
  length := by
    rw [hCohorts, List.length_set]
  epoch := by
    intro h
    rw [cohort_of_set hCohorts]
    split
    · rename_i hHere
      rw [hEpoch, hHere.1]
    · rfl
  closed := by
    intro h
    rw [cohort_of_set hCohorts]
    split
    · rename_i hHere
      rw [hClosed, hHere.1]
    · rfl

/-
  What a move of a thread is to the epochs: the era lasts, an
  interrupt closes the current cohort, or it replaces it.
-/
inductive Era (m m' : Machine V) (t : Nat) :
    Standing → Standing → List Fact → Prop where
| lasts {s s' : Standing} {facts : List Fact}
    (hSame : m.SameEra m')
    (hFits : m'.Fits t s')
    (hStays :
      ∀ g r, s = .retiring g r ↔ s' = .retiring g r)
    (hFacts : ∀ f ∈ facts, f.endsEra = false) :
    Era m m' t s s' facts
| closes
    (hOpen : (m.cohort m.current).closed = false)
    (hCurrent : m'.current = m.current)
    (hCohorts :
      m'.cohorts =
        m.cohorts.set m.current
          { m.cohort m.current with closed := true }) :
    Era m m' t .inside
      (.retiring m.current
        (.ofCount (m.cohort m.current).registered))
      [.closed m.current
        (.ofCount (m.cohort m.current).registered)]
| renews {r : WakeReport}
    (hClosed : (m.cohort m.current).closed = true)
    (hCurrent : m'.current = m.current + 1)
    (hCohorts :
      m'.cohorts =
        m.cohorts ++ [.fresh (m.current + 1)]) :
    Era m m' t (.retiring m.current r) .away
      [.interrupted m.current r]

/- The cohort that replaces the current one is a fresh one. -/
theorem Orderly.cohort_renewed
    {m rest : Machine V}
    (hOrderly : m.Orderly)
    (hCohorts :
      rest.cohorts =
        m.cohorts ++ [.fresh (m.current + 1)]) :
    rest.cohort (m.current + 1) = .fresh (m.current + 1) := by
  rw [cohort_of_append hCohorts, hOrderly.numbered,
    if_pos rfl]

/-
  A thread keeps its place while the current cohort stays the
  current one and closed ones stay closed.
-/
theorem Fits.mono
    {m m' : Machine V}
    {t : Nat}
    {s : Standing}
    (hFits : m.Fits t s)
    (hCurrent : m'.current = m.current)
    (hClosed :
      ∀ g,
        (m.cohort g).closed = true →
          (m'.cohort g).closed = true)
    (hHolder :
      (∃ g, s = .signaling g) →
        m'.bound.holder = some t →
          m.bound.holder = some t) :
    m'.Fits t s := by
  cases s with
  | away => trivial
  | inside => trivial
  | door g => exact hFits.trans hCurrent.symm
  | enrolled g => exact hFits.trans hCurrent.symm
  | waiting g => exact le_of_le_of_eq hFits hCurrent.symm
  | ended g o => exact le_of_le_of_eq hFits hCurrent.symm
  | regained g o => exact le_of_le_of_eq hFits hCurrent.symm
  | signaling g =>
      refine ⟨le_of_le_of_eq hFits.1 hCurrent.symm, ?_⟩
      intro hMine
      exact
        (hFits.2 (hHolder ⟨g, rfl⟩ hMine)).trans
          hCurrent.symm
  | retiring g r =>
      exact ⟨hFits.1.trans hCurrent.symm, hClosed g hFits.2⟩

/- A thread without a cohort is not about to replace one. -/
theorem ne_retiring_of_isFree
    {s : Standing}
    (hFree : s.isFree = true)
    (g : Nat)
    (r : WakeReport) :
    s ≠ .retiring g r := by
  rintro rfl
  cases hFree

/- A thread without a cohort fits in anywhere. -/
theorem fits_of_isFree
    (m : Machine V)
    (t : Nat)
    {s : Standing}
    (hFree : s.isFree = true) :
    m.Fits t s := by
  cases s with
  | away => trivial
  | inside => trivial
  | _ => cases hFree

/-
  What a move of an orderly machine is to the epochs.  No
  interrupt finds the current cohort closed, because the one
  that closed it keeps the lock until it is replaced.
-/
theorem Orderly.era
    {m rest : Machine V}
    {t : Nat}
    {ph ph' : Phase V}
    {facts : List Fact}
    (hOrderly : m.Orderly)
    (hPhase : m.threads[t]? = some ph)
    (hMoves : m.Moves t ph ph' facts rest) :
    m.Era rest t ph.standing ph'.standing facts := by
  have hStanding := standings_of_phase hPhase
  have hFits := hOrderly.fits t _ hStanding
  have hShift := hMoves.shift
  generalize ph.standing = s at *
  generalize ph'.standing = s' at *
  generalize hCohorts : rest.cohorts = cohorts' at hShift
  generalize hCurrent : rest.current = current' at hShift
  have hPrivate :
      ∀ {facts : List Fact},
        (∀ f ∈ facts, f.isPrivate = true) →
          ∀ f ∈ facts, f.endsEra = false :=
    fun h f hMem => Fact.endsEra_of_isPrivate (h f hMem)
  have hNeither :
      (∀ g r, s ≠ .retiring g r) →
        (∀ g r, s' ≠ .retiring g r) →
          ∀ g r, s = .retiring g r ↔ s' = .retiring g r :=
    fun h h' g r =>
      ⟨fun hs => absurd hs (h g r),
        fun hs' => absurd hs' (h' g r)⟩
  cases hShift with
  | stand hOther hFacts =>
      have hSame := SameEra.of_eq hCurrent hCohorts
      refine
        .lasts hSame
          (hFits.mono hSame.current
            (fun g h => (hSame.closed g).trans h) ?_)
          (fun _ _ => Iff.rfl) (hPrivate hFacts)
      rintro ⟨g, hSignaling⟩
      exact absurd hSignaling (hOther g)
  | turn hFree hFree' hFacts =>
      refine
        .lasts (.of_eq hCurrent hCohorts)
          (fits_of_isFree _ _ hFree')
          (hNeither (ne_retiring_of_isFree hFree)
            (ne_retiring_of_isFree hFree'))
          (hPrivate hFacts)
  | signal =>
      exact
        .lasts (.of_eq hCurrent hCohorts)
          ⟨Nat.le_of_eq hCurrent.symm,
            fun _ => hCurrent.symm⟩
          (hNeither nofun nofun) nofun
  | drop hDropped =>
      exact
        .lasts (.of_eq hCurrent hCohorts) trivial
          (hNeither nofun nofun) (by simp [Fact.endsEra])
  | post hOpen hLacks =>
      exact
        .lasts (.of_set hCurrent hCohorts rfl rfl) trivial
          (hNeither nofun nofun) (by simp [Fact.endsEra])
  | enroll =>
      exact
        .lasts (.of_set hCurrent hCohorts rfl rfl)
          hCurrent.symm (hNeither nofun nofun) nofun
  | withdraw =>
      exact
        .lasts (.of_set hCurrent hCohorts rfl rfl) trivial
          (hNeither nofun nofun) (by simp [Fact.endsEra])
  | count =>
      exact
        .lasts (.of_eq hCurrent hCohorts)
          (hFits.trans hCurrent.symm)
          (hNeither nofun nofun) (by simp [Fact.endsEra])
  | depart =>
      exact
        .lasts (.of_eq hCurrent hCohorts)
          (Nat.le_of_eq (hFits.trans hCurrent.symm))
          (hNeither nofun nofun) (by simp [Fact.endsEra])
  | stay =>
      exact
        .lasts (.of_eq hCurrent hCohorts)
          (le_of_le_of_eq hFits hCurrent.symm)
          (hNeither nofun nofun) nofun
  | @park g wakeAt stalled hOpen hNone =>
      refine
        .lasts (.of_eq hCurrent hCohorts)
          (le_of_le_of_eq hFits hCurrent.symm)
          (hNeither nofun nofun) ?_
      cases stalled <;> simp [Fact.endsEra]
  | settle hGrants =>
      exact
        .lasts (.of_set hCurrent hCohorts (by simp) (by simp))
          (le_of_le_of_eq hFits hCurrent.symm)
          (hNeither nofun nofun) (by simp [Fact.endsEra])
  | regain =>
      exact
        .lasts (.of_eq hCurrent hCohorts)
          (le_of_le_of_eq hFits hCurrent.symm)
          (hNeither nofun nofun) (by simp [Fact.endsEra])
  | leave hFree hFacts =>
      refine
        .lasts (.of_eq hCurrent hCohorts)
          (fits_of_isFree _ _ hFree)
          (hNeither nofun (ne_retiring_of_isFree hFree)) ?_
      intro f hMem
      rcases List.mem_cons.mp hMem with rfl | hTurn
      · rfl
      · exact hPrivate hFacts f hTurn
  | close hOpen =>
      rw [hOrderly.epochs _ (Nat.le_refl _)]
      exact .closes hOpen hCurrent hCohorts
  | closeAgain hClosed =>
      have hHolder := hOrderly.locked t _ hStanding rfl
      have hOpen :=
        hOrderly.open_of_holder hHolder hStanding nofun
      rw [hOpen] at hClosed
      cases hClosed
  | renew =>
      rcases hFits with ⟨rfl, hClosed⟩
      rw [hOrderly.epochs _ (Nat.le_refl _)] at hCohorts ⊢
      rw [hOrderly.numbered] at hCurrent
      exact .renews hClosed hCurrent hCohorts

/-
  After a move, the closed cohorts are those that were and
  the one that the move tells to be closed.
-/
theorem Orderly.closed_moves_iff
    {m rest : Machine V}
    {t : Nat}
    {ph ph' : Phase V}
    {facts : List Fact}
    (hOrderly : m.Orderly)
    (hPhase : m.threads[t]? = some ph)
    (hMoves : m.Moves t ph ph' facts rest)
    (g : Nat) :
    (rest.cohort g).closed = true ↔
      (m.cohort g).closed = true ∨
        ∃ r, Fact.closed g r ∈ facts := by
  have hEra := hOrderly.era hPhase hMoves
  generalize ph.standing = s at hEra
  generalize ph'.standing = s' at hEra
  cases hEra with
  | lasts hSame hFits hStays hFacts =>
      rw [hSame.closed]
      constructor
      · exact Or.inl
      · rintro (hWas | ⟨r, hMem⟩)
        · exact hWas
        · cases hFacts _ hMem
  | closes hOpen hCurrent hCohorts =>
      rw [cohort_of_set hCohorts]
      by_cases hHere : g = m.current
      · subst hHere
        have hLt : m.current < m.cohorts.length := by
          rw [hOrderly.numbered]
          exact Nat.lt_succ_self _
        rw [if_pos ⟨rfl, hLt⟩]
        exact
          iff_of_true rfl (Or.inr ⟨_, List.mem_cons_self⟩)
      · rw [if_neg (fun h => hHere h.1)]
        constructor
        · exact Or.inl
        · rintro (hWas | ⟨r, hMem⟩)
          · exact hWas
          · cases List.mem_singleton.mp hMem
            exact absurd rfl hHere
  | @renews r hClosed hCurrent hCohorts =>
      have hNone :
          ¬ ∃ r',
            Fact.closed g r' ∈
              [Fact.interrupted m.current r] := by
        simp
      rw [cohort_of_append hCohorts, or_iff_left hNone]
      split
      · rename_i hNew
        have hBeyond : (m.cohort g).closed = false := by
          unfold cohort
          rw [List.getElem?_eq_none (Nat.le_of_eq hNew.symm)]
          rfl
        rw [hBeyond]
        rfl
      · rfl

------------------------------------------------------------
-- Order Is Kept
------------------------------------------------------------

/- A move within an era keeps a machine orderly. -/
theorem Orderly.lasts
    {m rest : Machine V}
    {t : Nat}
    {ph ph' : Phase V}
    {facts : List Fact}
    (hOrderly : m.Orderly)
    (hPhase : m.threads[t]? = some ph)
    (hMoves : m.Moves t ph ph' facts rest)
    (hSame : m.SameEra rest)
    (hFits : rest.Fits t ph'.standing)
    (hStays :
      ∀ g r,
        ph.standing = .retiring g r ↔
          ph'.standing = .retiring g r) :
    (rest.setPhase t ph').Orderly where
  locked := hOrderly.locked.steps (.move hPhase hMoves)
  numbered := by
    change rest.cohorts.length = rest.current + 1
    rw [hSame.length, hSame.current]
    exact hOrderly.numbered
  epochs := by
    intro g hLe
    exact
      (hSame.epoch g).trans
        (hOrderly.epochs g (le_of_le_of_eq hLe hSame.current))
  past := by
    intro g hLt
    exact
      (hSame.closed g).trans
        (hOrderly.past g (lt_of_lt_of_eq hLt hSame.current))
  fits := by
    intro u s hStanding
    have hHolder :=
      hMoves.holder_spec
        (hOrderly.locked _ _ (standings_of_phase hPhase))
    rcases hMoves.standing_cases hStanding with
      ⟨rfl, rfl⟩ | ⟨hOther, hOld⟩
    · exact hFits
    · exact
        (hOrderly.fits u s hOld).mono hSame.current
          (fun g h => (hSame.closed g).trans h)
          (fun _ => (hHolder.2 u hOther).mp)
  closer := by
    intro hClosed
    change (rest.cohort rest.current).closed = true at hClosed
    rw [hSame.current, hSame.closed] at hClosed
    change
      ∃ (u : Nat) (r : WakeReport),
        (rest.setPhase t ph').standings[u]? =
          some (.retiring rest.current r)
    rw [hSame.current]
    rcases hOrderly.closer hClosed with ⟨u, r, hRetiring⟩
    refine ⟨u, r, ?_⟩
    by_cases hMine : u = t
    · subst hMine
      rw [standings_of_phase hPhase] at hRetiring
      have hOld := Option.some.inj hRetiring
      rw [hMoves.standing_self hPhase, (hStays _ _).mp hOld]
    · rw [hMoves.standing_other hMine]
      exact hRetiring

/- The close of the current cohort keeps a machine orderly. -/
theorem Orderly.closes
    {m rest : Machine V}
    {t : Nat}
    {ph ph' : Phase V}
    {facts : List Fact}
    {r : WakeReport}
    (hOrderly : m.Orderly)
    (hPhase : m.threads[t]? = some ph)
    (hMoves : m.Moves t ph ph' facts rest)
    (hRetiring : ph'.standing = .retiring m.current r)
    (hCurrent : rest.current = m.current)
    (hCohorts :
      rest.cohorts =
        m.cohorts.set m.current
          { m.cohort m.current with closed := true }) :
    (rest.setPhase t ph').Orderly := by
  have hLt : m.current < m.cohorts.length := by
    rw [hOrderly.numbered]
    exact Nat.lt_succ_self _
  have hHere :
      rest.cohort m.current =
        { m.cohort m.current with closed := true } := by
    rw [cohort_of_set hCohorts, if_pos ⟨rfl, hLt⟩]
  have hThere :
      ∀ g, g ≠ m.current → rest.cohort g = m.cohort g := by
    intro g hNe
    rw [cohort_of_set hCohorts, if_neg (fun h => hNe h.1)]
  have hEpoch :
      ∀ g, (rest.cohort g).epoch = (m.cohort g).epoch := by
    intro g
    by_cases hSame : g = m.current
    · rw [hSame, hHere]
    · rw [hThere g hSame]
  have hClosed :
      ∀ g,
        (m.cohort g).closed = true →
          (rest.cohort g).closed = true := by
    intro g hOld
    by_cases hSame : g = m.current
    · rw [hSame, hHere]
    · rw [hThere g hSame]
      exact hOld
  have hHolder :=
    hMoves.holder_spec
      (hOrderly.locked _ _ (standings_of_phase hPhase))
  constructor
  · exact hOrderly.locked.steps (.move hPhase hMoves)
  · change rest.cohorts.length = rest.current + 1
    rw [hCohorts, List.length_set, hCurrent]
    exact hOrderly.numbered
  · intro g hLe
    exact
      (hEpoch g).trans
        (hOrderly.epochs g (le_of_le_of_eq hLe hCurrent))
  · intro g hPast
    exact
      hClosed g
        (hOrderly.past g (lt_of_lt_of_eq hPast hCurrent))
  · intro u s hStanding
    rcases hMoves.standing_cases hStanding with
      ⟨rfl, rfl⟩ | ⟨hOther, hOld⟩
    · rw [hRetiring]
      exact ⟨hCurrent.symm, congrArg Cohort.closed hHere⟩
    · exact
        (hOrderly.fits u s hOld).mono hCurrent hClosed
          (fun _ => (hHolder.2 u hOther).mp)
  · intro _
    refine ⟨t, r, ?_⟩
    rw [hMoves.standing_self hPhase, hRetiring]
    exact
      congrArg (fun g => some (Standing.retiring g r))
        hCurrent.symm

/-
  The replacement of the current cohort keeps a machine
  orderly.  The thread that does it has the lock, so nobody
  else is about to register or to close.
-/
theorem Orderly.renews
    {m rest : Machine V}
    {t : Nat}
    {ph ph' : Phase V}
    {facts : List Fact}
    {r : WakeReport}
    (hOrderly : m.Orderly)
    (hPhase : m.threads[t]? = some ph)
    (hMoves : m.Moves t ph ph' facts rest)
    (hRetiring : ph.standing = .retiring m.current r)
    (hAway : ph'.standing = .away)
    (hClosed : (m.cohort m.current).closed = true)
    (hCurrent : rest.current = m.current + 1)
    (hCohorts :
      rest.cohorts =
        m.cohorts ++ [.fresh (m.current + 1)]) :
    (rest.setPhase t ph').Orderly := by
  have hNew := hOrderly.cohort_renewed hCohorts
  have hOld :
      ∀ g ≤ m.current, rest.cohort g = m.cohort g := by
    intro g hLe
    rw [cohort_of_append hCohorts, hOrderly.numbered,
      if_neg (Nat.ne_of_lt (Nat.lt_succ_of_le hLe))]
  have hStanding := standings_of_phase hPhase
  rw [hRetiring] at hStanding
  have hMine := hOrderly.locked t _ hStanding rfl
  have hHolder :=
    hMoves.holder_spec
      (hOrderly.locked _ _ (standings_of_phase hPhase))
  constructor
  · exact hOrderly.locked.steps (.move hPhase hMoves)
  · change rest.cohorts.length = rest.current + 1
    rw [hCohorts, List.length_append, hCurrent,
      hOrderly.numbered]
    rfl
  · intro g hLe
    change (rest.cohort g).epoch = g
    rcases Nat.le_succ_iff.mp (le_of_le_of_eq hLe hCurrent)
      with hPast | rfl
    · rw [hOld g hPast]
      exact hOrderly.epochs g hPast
    · rw [hNew]
      rfl
  · intro g hLt
    change (rest.cohort g).closed = true
    have hLe : g ≤ m.current :=
      Nat.le_of_lt_succ (lt_of_lt_of_eq hLt hCurrent)
    rw [hOld g hLe]
    rcases Nat.lt_or_eq_of_le hLe with hPast | rfl
    · exact hOrderly.past g hPast
    · exact hClosed
  · intro u s hStanding'
    rcases hMoves.standing_cases hStanding' with
      ⟨rfl, rfl⟩ | ⟨hOther, hThen⟩
    · rw [hAway]
      trivial
    · have hLocksNot : s.holdsLock = false := by
        apply Bool.eq_false_iff.mpr
        intro hLock
        exact
          hOther (hOrderly.locked.unique hMine hThen hLock)
      have hFits := hOrderly.fits u s hThen
      have hLater : m.current ≤ rest.current := by
        rw [hCurrent]
        exact Nat.le_succ _
      cases s with
      | away => trivial
      | inside => trivial
      | waiting g => exact Nat.le_trans hFits hLater
      | ended g o => exact Nat.le_trans hFits hLater
      | regained g o => exact Nat.le_trans hFits hLater
      | signaling g =>
          refine ⟨Nat.le_trans hFits.1 hLater, ?_⟩
          intro hTheirs
          have hBefore := (hHolder.2 u hOther).mp hTheirs
          rw [hMine] at hBefore
          exact
            absurd (Option.some.inj hBefore).symm hOther
      | door g => cases hLocksNot
      | enrolled g => cases hLocksNot
      | retiring g r => cases hLocksNot
  · intro hAgain
    change (rest.cohort rest.current).closed = true at hAgain
    rw [hCurrent, hNew] at hAgain
    cases hAgain

/- Every step keeps a machine orderly. -/
theorem Orderly.steps
    {m m' : Machine V}
    {ns : List Note}
    (hOrderly : m.Orderly)
    (hSteps : m.Steps m' ns) :
    m'.Orderly := by
  cases hSteps with
  | join =>
      refine
        { locked := hOrderly.locked.steps .join
          numbered := hOrderly.numbered
          epochs := hOrderly.epochs
          past := hOrderly.past
          fits := ?_
          closer := ?_ }
      · intro t s hStanding
        rcases standing_join hStanding with hOld | rfl
        · exact hOrderly.fits t s hOld
        · trivial
      · intro hClosed
        rcases hOrderly.closer hClosed with ⟨t, r, hRetiring⟩
        refine ⟨t, r, ?_⟩
        rcases List.getElem?_eq_some_iff.mp hRetiring with
          ⟨hLt, _⟩
        rw [standings_join, List.getElem?_append_left hLt]
        exact hRetiring
  | tick hLater =>
      exact
        { locked := hOrderly.locked
          numbered := hOrderly.numbered
          epochs := hOrderly.epochs
          past := hOrderly.past
          fits := hOrderly.fits
          closer := hOrderly.closer }
  | @move t ph ph' facts rest hPhase hMoves =>
      have hEra := hOrderly.era hPhase hMoves
      generalize hBefore : ph.standing = s at hEra
      generalize hAfter : ph'.standing = s' at hEra
      cases hEra with
      | lasts hSame hFits hStays hFacts =>
          subst hBefore hAfter
          exact
            hOrderly.lasts hPhase hMoves hSame hFits hStays
      | closes hOpen hCurrent hCohorts =>
          exact
            hOrderly.closes hPhase hMoves hAfter hCurrent
              hCohorts
      | renews hClosed hCurrent hCohorts =>
          exact
            hOrderly.renews hPhase hMoves hBefore hAfter
              hClosed hCurrent hCohorts

/-
  What an orderly machine keeps with every step, it keeps
  wherever it gets.
-/
theorem Reaches.invariant_of_orderly
    {P : List Note → Machine V → Prop}
    {m m' : Machine V}
    {ns : List Note}
    (hReaches : m.Reaches ns m')
    (hOrderly : m.Orderly)
    (hStart : P [] m)
    (hSteps :
      ∀ {m₁ m₂ : Machine V} {past ns : List Note},
        m₁.Orderly → P past m₁ → m₁.Steps m₂ ns →
          P (past ++ ns) m₂) :
    P ns m' := by
  have hKept : m'.Orderly ∧ P ns m' :=
    hReaches.invariant
      (P := fun ns m => m.Orderly ∧ P ns m)
      ⟨hOrderly, hStart⟩
      (fun hBefore hStep =>
        ⟨hBefore.1.steps hStep,
          hSteps hBefore.1 hBefore.2 hStep⟩)
  exact hKept.2

end Machine

end CondVar
