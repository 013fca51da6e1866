import CondVar.Proofs.Counting
import CondVar.Proofs.Order
import CondVar.Proofs.Waits

/-
  Where the threads stand and what their history tells.

  A thread is in a wait exactly if the history tells of one
  that it has not returned from, and its standing knows the
  epoch of that wait and the outcome.

  Main declarations:
    * `Machine.Course`
    * `Machine.Orderly.course`
    * `Machine.Ledger`
    * `Machine.Ledger.steps`
-/

namespace CondVar

------------------------------------------------------------
-- The Course of a Wait
------------------------------------------------------------

namespace Standing

/- The epoch and the outcome of the wait a thread is in. -/
def wait? : Standing → Option (Nat × Option Outcome)
| .enrolled g => some (g, none)
| .waiting g => some (g, none)
| .ended g o => some (g, some o)
| .regained g o => some (g, some o)
| _ => none

/- A thread without a cohort is in no wait. -/
theorem wait?_of_isFree
    {s : Standing}
    (hFree : s.isFree = true) :
    s.wait? = none := by
  cases s with
  | away => rfl
  | inside => rfl
  | _ => cases hFree

/- A thread has no outcome yet if the wait it is in has none. -/
theorem isPending_eq
    (g : Nat)
    (s : Standing) :
    s.isPending g = decide (s.wait? = some (g, none)) := by
  cases s <;> simp [isPending, wait?]

end Standing

/- What concerns no cohort is not about a wait. -/
theorem Fact.isOfWait_of_isPrivate
    {f : Fact}
    (hPrivate : f.isPrivate = true) :
    f.isOfWait = false := by
  cases f <;> first | rfl | cases hPrivate

namespace Machine

variable {V : Type}

/-
  What a move of a thread is to its wait: nothing, or the
  wait begins, is settled, or is over.
-/
inductive Course (m : Machine V) :
    Standing → Standing → List Fact → Prop where
| goes {s s' : Standing} {facts : List Fact}
    (hWait : s'.wait? = s.wait?)
    (hQuiet : ∀ f ∈ facts, f.isOfWait = false) :
    Course m s s' facts
| begins :
    Course m (.door m.current) (.enrolled m.current)
      [.registered m.current]
| settles {g : Nat} {o : Outcome}
    (hLooked :
      o = .interrupted ↔ (m.cohort g).closed = true) :
    Course m (.waiting g) (.ended g o) [.settled g o]
| ends {g : Nat} {o : Outcome} {left : Option Duration}
    {s : Standing} {facts : List Fact}
    (hFree : s.isFree = true)
    (hQuiet : ∀ f ∈ facts, f.isOfWait = false) :
    Course m (.regained g o) s (.returned g o left :: facts)

/- What a move of an orderly machine is to a wait. -/
theorem Orderly.course
    {m rest : Machine V}
    {t : Nat}
    {ph ph' : Phase V}
    {facts : List Fact}
    (hOrderly : m.Orderly)
    (hPhase : m.threads[t]? = some ph)
    (hMoves : m.Moves t ph ph' facts rest) :
    m.Course ph.standing ph'.standing facts := by
  have hStanding := standings_of_phase hPhase
  have hFits := hOrderly.fits t _ hStanding
  have hShift := hMoves.shift
  generalize ph.standing = s at *
  generalize ph'.standing = s' at *
  generalize rest.cohorts = cohorts' at hShift
  generalize rest.current = current' at hShift
  have hPrivate :
      ∀ {facts : List Fact},
        (∀ f ∈ facts, f.isPrivate = true) →
          ∀ f ∈ facts, f.isOfWait = false :=
    fun h f hMem => Fact.isOfWait_of_isPrivate (h f hMem)
  cases hShift with
  | stand hOther hFacts => exact .goes rfl (hPrivate hFacts)
  | turn hFree hFree' hFacts =>
      refine .goes ?_ (hPrivate hFacts)
      rw [Standing.wait?_of_isFree hFree,
        Standing.wait?_of_isFree hFree']
  | signal => exact .goes rfl nofun
  | drop hDropped => exact .goes rfl (by simp [Fact.isOfWait])
  | post hOpen hLacks =>
      exact .goes rfl (by simp [Fact.isOfWait])
  | enroll => exact .goes rfl nofun
  | withdraw => exact .goes rfl (by simp [Fact.isOfWait])
  | count =>
      cases hFits
      rw [hOrderly.epochs _ (Nat.le_refl _)]
      exact .begins
  | depart => exact .goes rfl (by simp [Fact.isOfWait])
  | stay => exact .goes rfl nofun
  | @park g wakeAt stalled hOpen hNone =>
      refine .goes rfl ?_
      cases stalled <;> simp [Fact.isOfWait]
  | @settle g o hGrants =>
      rw [hOrderly.epochs g hFits]
      exact .settles hGrants.interrupted_iff
  | regain => exact .goes rfl (by simp [Fact.isOfWait])
  | @leave g o left s facts hFree hFacts =>
      rw [hOrderly.epochs g hFits]
      exact .ends hFree (hPrivate hFacts)
  | close hOpen => exact .goes rfl (by simp [Fact.isOfWait])
  | closeAgain hClosed =>
      exact .goes rfl (by simp [Fact.isOfWait])
  | renew => exact .goes rfl (by simp [Fact.isOfWait])

------------------------------------------------------------
-- The Ledger
------------------------------------------------------------

/-
  `current`: the wait a thread is in is the one it has not
  returned from.  `pending`: as many waits on an epoch have
  no outcome as threads.  `started`, `settled`: the history
  tells where a wait began and was settled, in this order.
  `returned`: a wait returns with the outcome it was settled
  with.
-/
structure Ledger
    (ns : List Note)
    (m : Machine V) : Prop where
  current :
    ∀ t,
      ((waits ns).filter (·.isOpen t)).map Wait.status =
        ((m.standings[t]?).bind Standing.wait?).toList
  pending :
    ∀ g,
      (waits ns).countP (·.isPending g) =
        m.standings.countP (Standing.isPending g)
  started :
    ∀ x ∈ waits ns,
      Told ns x.start x.thread (.registered x.epoch)
  settled :
    ∀ x ∈ waits ns, ∀ i o,
      x.settled = some (i, o) →
        x.start < i ∧
          Told ns i x.thread (.settled x.epoch o)
  returned :
    ∀ x ∈ waits ns, ∀ o,
      x.returned = some o → ∃ i, x.settled = some (i, o)

/- A ledger that has nothing to tell. -/
theorem ledger_fresh
    (s : Settings)
    (value : V)
    (foreign : V) :
    Ledger [] (fresh s value foreign) where
  current := fun _ => rfl
  pending := fun _ => rfl
  started := fun _ hMem => nomatch hMem
  settled := fun _ hMem => nomatch hMem
  returned := fun _ hMem => nomatch hMem

/- A thread that stands in a wait has not returned from it. -/
theorem Ledger.exists_wait
    {m : Machine V}
    {ns : List Note}
    {t : Nat}
    {s : Standing}
    {status : Nat × Option Outcome}
    (hLedger : Ledger ns m)
    (hStanding : m.standings[t]? = some s)
    (hWait : s.wait? = some status) :
    ∃ x ∈ waits ns,
      x.isOpen t = true ∧ x.status = status := by
  have hCurrent := hLedger.current t
  rw [hStanding, Option.bind_some, hWait] at hCurrent
  rcases List.map_eq_singleton_iff.mp hCurrent with
    ⟨x, hFilter, hStatus⟩
  have hMem : x ∈ (waits ns).filter (·.isOpen t) := by
    rw [hFilter]
    exact List.mem_singleton_self x
  rcases List.mem_filter.mp hMem with ⟨hThere, hOpen⟩
  exact ⟨x, hThere, hOpen, hStatus⟩

/- A thread that stands in no wait has returned from all. -/
theorem Ledger.returned_of_no_wait
    {m : Machine V}
    {ns : List Note}
    {t : Nat}
    {s : Standing}
    (hLedger : Ledger ns m)
    (hStanding : m.standings[t]? = some s)
    (hNone : s.wait? = none) :
    ∀ x ∈ waits ns,
      x.thread = t → x.returned.isSome = true := by
  intro x hMem hMine
  have hCurrent := hLedger.current t
  rw [hStanding, Option.bind_some, hNone] at hCurrent
  have hOver :=
    List.filter_eq_nil_iff.mp
      (List.map_eq_nil_iff.mp hCurrent) x hMem
  cases hReturned : x.returned with
  | some o => rfl
  | none =>
      exact absurd (decide_eq_true ⟨hMine, hReturned⟩) hOver

/- The wait that a thread is in after a move of another one. -/
theorem Moves.wait?_other
    {m rest : Machine V}
    {t u : Nat}
    {ph ph' : Phase V}
    {facts : List Fact}
    (hMoves : m.Moves t ph ph' facts rest)
    (hOther : u ≠ t) :
    (((rest.setPhase t ph').standings[u]?).bind
        Standing.wait?) =
      (m.standings[u]?).bind Standing.wait? := by
  rw [hMoves.standing_other hOther]

/- The number of pending threads moves with one standing. -/
theorem Moves.countP_standings
    {m rest : Machine V}
    {t : Nat}
    {ph ph' : Phase V}
    {facts : List Fact}
    (hMoves : m.Moves t ph ph' facts rest)
    (hPhase : m.threads[t]? = some ph)
    (p : Standing → Bool) :
    (rest.setPhase t ph').standings.countP p +
        (p ph.standing).toNat =
      m.standings.countP p + (p ph'.standing).toNat := by
  rw [hMoves.standings_eq]
  exact countP_set_add p _ (standings_of_phase hPhase)

/- A move that is nothing to the waits keeps the ledger. -/
theorem Ledger.goes
    {m rest : Machine V}
    {past : List Note}
    {t : Nat}
    {ph ph' : Phase V}
    {facts : List Fact}
    (hLedger : Ledger past m)
    (hPhase : m.threads[t]? = some ph)
    (hMoves : m.Moves t ph ph' facts rest)
    (hWait : ph'.standing.wait? = ph.standing.wait?)
    (hQuiet : ∀ f ∈ facts, f.isOfWait = false) :
    Ledger (past ++ facts.map (Note.mk t m.clock))
      (rest.setPhase t ph') := by
  have hWaits := waits_append_quiet past t m.clock hQuiet
  constructor
  · intro u
    rw [hWaits, hLedger.current u]
    by_cases hMine : u = t
    · subst hMine
      rw [hMoves.standing_self hPhase,
        standings_of_phase hPhase]
      exact congrArg Option.toList hWait.symm
    · rw [hMoves.wait?_other hMine]
  · intro g
    have hCount :=
      hMoves.countP_standings hPhase (Standing.isPending g)
    rw [Standing.isPending_eq, Standing.isPending_eq, hWait]
      at hCount
    rw [hWaits, hLedger.pending g]
    exact (Nat.add_right_cancel hCount).symm
  · rw [hWaits]
    exact fun x hMem => (hLedger.started x hMem).append _
  · rw [hWaits]
    intro x hMem i o hSettled
    have hOld := hLedger.settled x hMem i o hSettled
    exact ⟨hOld.1, hOld.2.append _⟩
  · rw [hWaits]
    exact hLedger.returned

/- The beginning of a wait keeps the ledger. -/
theorem Ledger.begins
    {m rest : Machine V}
    {past : List Note}
    {t g : Nat}
    {ph ph' : Phase V}
    (hLedger : Ledger past m)
    (hPhase : m.threads[t]? = some ph)
    (hMoves : m.Moves t ph ph' [.registered g] rest)
    (hDoor : ph.standing = .door g)
    (hEnrolled : ph'.standing = .enrolled g) :
    Ledger
      (past ++ [Fact.registered g].map (Note.mk t m.clock))
      (rest.setPhase t ph') := by
  have hWaits := waits_append_registered past t m.clock g
  have hNone :
      (waits past).filter (·.isOpen t) = [] := by
    have hCurrent := hLedger.current t
    rw [standings_of_phase hPhase, hDoor] at hCurrent
    exact List.map_eq_nil_iff.mp hCurrent
  constructor
  · intro u
    rw [hWaits, List.filter_append, List.map_append]
    by_cases hMine : u = t
    · subst hMine
      rw [hNone, hMoves.standing_self hPhase, hEnrolled]
      simp [Wait.fresh, Wait.isOpen, Wait.status,
        Standing.wait?]
    · have hNot :
          (Wait.fresh t g past.length).isOpen u = false :=
        decide_eq_false (fun h => hMine h.1.symm)
      rw [List.filter_cons_of_neg (by simp [hNot]),
        hLedger.current u, hMoves.wait?_other hMine]
      exact List.append_nil _
  · intro h
    have hCount :=
      hMoves.countP_standings hPhase (Standing.isPending h)
    rw [hDoor, hEnrolled] at hCount
    rw [hWaits, List.countP_append, hLedger.pending h]
    simp only [Standing.isPending, Bool.toNat_false,
      Nat.add_zero] at hCount
    rw [hCount, List.countP_singleton]
    by_cases hSame : g = h
    · simp [Wait.isPending, Wait.fresh, hSame]
    · simp [Wait.isPending, Wait.fresh, hSame]
  · rw [hWaits]
    intro x hMem
    rcases List.mem_append.mp hMem with hOld | hNew
    · exact (hLedger.started x hOld).append _
    · rw [List.mem_singleton.mp hNew]
      exact
        told_append_iff.mpr
          (Or.inr ⟨rfl, 0, rfl, (Nat.add_zero _).symm⟩)
  · rw [hWaits]
    intro x hMem i o hSettled
    rcases List.mem_append.mp hMem with hOld | hNew
    · have hThen := hLedger.settled x hOld i o hSettled
      exact ⟨hThen.1, hThen.2.append _⟩
    · rw [List.mem_singleton.mp hNew] at hSettled
      cases hSettled
  · rw [hWaits]
    intro x hMem o hReturned
    rcases List.mem_append.mp hMem with hOld | hNew
    · exact hLedger.returned x hOld o hReturned
    · rw [List.mem_singleton.mp hNew] at hReturned
      cases hReturned

/- A wait's thread heeds the note on it, and no other wait. -/
theorem Ledger.heeds
    {m : Machine V}
    {past : List Note}
    {t : Nat}
    {ph : Phase V}
    {f : Fact}
    {facts : List Fact}
    {status : Nat × Option Outcome}
    (hLedger : Ledger past m)
    (hPhase : m.threads[t]? = some ph)
    (hWait : ph.standing.wait? = some status)
    (hBegun : ∀ e, f ≠ .registered e)
    (hQuiet : ∀ f ∈ facts, f.isOfWait = false) :
    ∃ l x r,
      waits past = l ++ x :: r ∧
        waits
            (past ++
              (f :: facts).map (Note.mk t m.clock)) =
          l ++ x.heed past.length ⟨t, m.clock, f⟩ :: r ∧
        x.isOpen t = true ∧
        x.status = status ∧
        (∀ y ∈ l, y.isOpen t = false) ∧
        ∀ y ∈ r, y.isOpen t = false := by
  have hCurrent := hLedger.current t
  rw [standings_of_phase hPhase] at hCurrent
  change _ = (ph.standing.wait?).toList at hCurrent
  rw [hWait] at hCurrent
  rcases List.map_eq_singleton_iff.mp hCurrent with
    ⟨x, hFilter, hStatus⟩
  rcases
      map_heed_of_filter past.length
        (n := ⟨t, m.clock, f⟩) hFilter with
    ⟨l, r, hWaits, hMap, hOpen, hLeft, hRight⟩
  refine
    ⟨l, x, r, hWaits, ?_, hOpen, hStatus, hLeft, hRight⟩
  have hBegins :
      Note.begins past.length ⟨t, m.clock, f⟩ = [] := by
    unfold Note.begins
    split
    · rename_i e hFact
      exact absurd hFact (hBegun e)
    · rfl
  rw [waits_append_cons past t m.clock f hQuiet, hMap,
    hBegins, List.append_nil]

/- The wait of a thread that gets its outcome has that. -/
theorem Ledger.heeds_settled
    {m : Machine V}
    {past : List Note}
    {t g : Nat}
    {ph : Phase V}
    (hLedger : Ledger past m)
    (hPhase : m.threads[t]? = some ph)
    (hWaiting : ph.standing = .waiting g)
    (o : Outcome) :
    ∃ l x r,
      waits past = l ++ x :: r ∧
        waits
            (past ++
              [Fact.settled g o].map (Note.mk t m.clock)) =
          l ++
            { x with settled := some (past.length, o) } :: r ∧
        x.isOpen t = true ∧
        x.status = (g, none) ∧
        (∀ y ∈ l, y.isOpen t = false) ∧
        ∀ y ∈ r, y.isOpen t = false := by
  have hWait : ph.standing.wait? = some (g, none) := by
    rw [hWaiting]
    rfl
  rcases
      hLedger.heeds hPhase hWait
        (f := .settled g o) nofun (List.forall_mem_nil _) with
    ⟨l, x, r, hBefore, hAfter, hOpen, hStatus, hLeft, hRight⟩
  rw [Wait.heed_settled hOpen] at hAfter
  exact
    ⟨l, x, r, hBefore, hAfter, hOpen, hStatus, hLeft, hRight⟩

/- The wait of a thread that returns is over. -/
theorem Ledger.heeds_returned
    {m : Machine V}
    {past : List Note}
    {t g : Nat}
    {ph : Phase V}
    {o : Outcome}
    {facts : List Fact}
    (hLedger : Ledger past m)
    (hPhase : m.threads[t]? = some ph)
    (hRegained : ph.standing = .regained g o)
    (left : Option Duration)
    (hQuiet : ∀ f ∈ facts, f.isOfWait = false) :
    ∃ l x r,
      waits past = l ++ x :: r ∧
        waits
            (past ++
              (Fact.returned g o left :: facts).map
                (Note.mk t m.clock)) =
          l ++ { x with returned := some o } :: r ∧
        x.isOpen t = true ∧
        x.status = (g, some o) ∧
        (∀ y ∈ l, y.isOpen t = false) ∧
        ∀ y ∈ r, y.isOpen t = false := by
  have hWait : ph.standing.wait? = some (g, some o) := by
    rw [hRegained]
    rfl
  rcases
      hLedger.heeds hPhase hWait
        (f := .returned g o left) nofun hQuiet with
    ⟨l, x, r, hBefore, hAfter, hOpen, hStatus, hLeft, hRight⟩
  rw [Wait.heed_returned hOpen] at hAfter
  exact
    ⟨l, x, r, hBefore, hAfter, hOpen, hStatus, hLeft, hRight⟩

/-
  The ledger is kept if the wait of the thread that has moved
  is replaced by one that fits the thread's new standing.
-/
theorem Ledger.replaces
    {m rest : Machine V}
    {past : List Note}
    {t : Nat}
    {ph ph' : Phase V}
    {facts : List Fact}
    {l r : List Wait}
    {x x' : Wait}
    (hLedger : Ledger past m)
    (hPhase : m.threads[t]? = some ph)
    (hMoves : m.Moves t ph ph' facts rest)
    (hBefore : waits past = l ++ x :: r)
    (hAfter :
      waits (past ++ facts.map (Note.mk t m.clock)) =
        l ++ x' :: r)
    (hOpen : x.isOpen t = true)
    (hStatus : ph.standing.wait? = some x.status)
    (hLeft : ∀ y ∈ l, y.isOpen t = false)
    (hRight : ∀ y ∈ r, y.isOpen t = false)
    (hThread : x'.thread = x.thread)
    (hEpoch : x'.epoch = x.epoch)
    (hStart : x'.start = x.start)
    (hStatus' :
      ph'.standing.wait? =
        if x'.isOpen t then some x'.status else none)
    (hOutcome : x'.settled.isSome = true)
    (hSettled :
      ∀ i o,
        x'.settled = some (i, o) →
          x'.start < i ∧
            Told (past ++ facts.map (Note.mk t m.clock)) i
              x'.thread (.settled x'.epoch o))
    (hReturned :
      ∀ o,
        x'.returned = some o → ∃ i, x'.settled = some (i, o)) :
    Ledger (past ++ facts.map (Note.mk t m.clock))
      (rest.setPhase t ph') := by
  have hMine : x.thread = t := (of_decide_eq_true hOpen).1
  have hOld :
      ∀ {y : Wait},
        y ∈ l ++ x' :: r → y ∈ waits past ∨ y = x' := by
    intro y hMem
    rw [hBefore]
    exact mem_or_eq_of_mem_replace hMem
  constructor
  · intro u
    rw [hAfter]
    by_cases hSame : u = t
    · subst hSame
      have hLeft' : l.filter (·.isOpen u) = [] :=
        List.filter_eq_nil_iff.mpr
          (fun y hMem => by simp [hLeft y hMem])
      have hRight' : r.filter (·.isOpen u) = [] :=
        List.filter_eq_nil_iff.mpr
          (fun y hMem => by simp [hRight y hMem])
      rw [hMoves.standing_self hPhase, List.filter_append,
        List.filter_cons, hLeft', hRight']
      change _ = (ph'.standing.wait?).toList
      rw [hStatus']
      split <;> rfl
    · have hOther : x.thread ≠ u := by
        rw [hMine]
        exact Ne.symm hSame
      have hOther' : x'.thread ≠ u := by
        rw [hThread]
        exact hOther
      rw [filter_isOpen_replace hOther hOther', ← hBefore,
        hLedger.current u, hMoves.wait?_other hSame]
  · intro g
    have hCount :=
      hMoves.countP_standings hPhase (Standing.isPending g)
    have hBoth :
        ph.standing.isPending g = x.isPending g := by
      rw [Standing.isPending_eq, hStatus, Wait.isPending_eq]
      simp
    have hNone : x'.status ≠ (g, none) := by
      intro hStatus'
      have hSettledNot := congrArg Prod.snd hStatus'
      rw [Option.map_eq_none_iff.mp hSettledNot] at hOutcome
      cases hOutcome
    have hNot : x'.isPending g = false := by
      rw [Wait.isPending_eq]
      exact decide_eq_false hNone
    have hNot' : ph'.standing.isPending g = false := by
      rw [Standing.isPending_eq, hStatus']
      split
      · apply decide_eq_false
        intro hSame
        exact hNone (Option.some.inj hSame)
      · rfl
    have hPending := hLedger.pending g
    rw [hBefore] at hPending
    rw [hBoth, hNot'] at hCount
    rw [hAfter]
    simp only [List.countP_append, List.countP_cons, hNot,
      Bool.toNat_false] at hPending hCount ⊢
    cases hWas : x.isPending g <;>
      simp [hWas] at hPending hCount ⊢ <;> omega
  · rw [hAfter]
    intro y hMem
    rcases hOld hMem with hPast | rfl
    · exact (hLedger.started y hPast).append _
    · rw [hStart, hThread, hEpoch]
      refine (hLedger.started x ?_).append _
      rw [hBefore]
      exact List.mem_append_right _ List.mem_cons_self
  · rw [hAfter]
    intro y hMem i o hSome
    rcases hOld hMem with hPast | rfl
    · have hThen := hLedger.settled y hPast i o hSome
      exact ⟨hThen.1, hThen.2.append _⟩
    · exact hSettled i o hSome
  · rw [hAfter]
    intro y hMem o hSome
    rcases hOld hMem with hPast | rfl
    · exact hLedger.returned y hPast o hSome
    · exact hReturned o hSome

/- The settling of a wait keeps the ledger. -/
theorem Ledger.settles
    {m rest : Machine V}
    {past : List Note}
    {t g : Nat}
    {ph ph' : Phase V}
    {o : Outcome}
    (hLedger : Ledger past m)
    (hPhase : m.threads[t]? = some ph)
    (hMoves : m.Moves t ph ph' [.settled g o] rest)
    (hWaiting : ph.standing = .waiting g)
    (hEnded : ph'.standing = .ended g o) :
    Ledger
      (past ++ [Fact.settled g o].map (Note.mk t m.clock))
      (rest.setPhase t ph') := by
  have hWait : ph.standing.wait? = some (g, none) := by
    rw [hWaiting]
    rfl
  rcases hLedger.heeds_settled hPhase hWaiting o with
    ⟨l, x, r, hBefore, hAfter, hOpen, hStatus, hLeft, hRight⟩
  have hMine : x.thread = t := (of_decide_eq_true hOpen).1
  have hGoing : x.returned = none := (of_decide_eq_true hOpen).2
  have hEpoch : x.epoch = g := congrArg Prod.fst hStatus
  have hMem : x ∈ waits past := by
    rw [hBefore]
    exact List.mem_append_right _ List.mem_cons_self
  refine
    hLedger.replaces hPhase hMoves hBefore hAfter hOpen
      (hWait.trans (congrArg some hStatus.symm)) hLeft hRight
      rfl rfl rfl ?_ rfl ?_ ?_
  · have hStill :
        Wait.isOpen
            { x with settled := some (past.length, o) } t =
          true := hOpen
    rw [hEnded, if_pos hStill]
    simp [Standing.wait?, Wait.status, hEpoch]
  · intro i o' hSome
    cases hSome
    refine ⟨(hLedger.started x hMem).lt_length, ?_⟩
    rw [hMine, hEpoch]
    exact
      told_append_iff.mpr
        (Or.inr ⟨rfl, 0, rfl, (Nat.add_zero _).symm⟩)
  · intro o' hSome
    rw [hGoing] at hSome
    cases hSome

/- The return from a wait keeps the ledger. -/
theorem Ledger.ends
    {m rest : Machine V}
    {past : List Note}
    {t g : Nat}
    {ph ph' : Phase V}
    {o : Outcome}
    {left : Option Duration}
    {facts : List Fact}
    (hLedger : Ledger past m)
    (hPhase : m.threads[t]? = some ph)
    (hMoves :
      m.Moves t ph ph' (.returned g o left :: facts) rest)
    (hRegained : ph.standing = .regained g o)
    (hFree : ph'.standing.isFree = true)
    (hQuiet : ∀ f ∈ facts, f.isOfWait = false) :
    Ledger
      (past ++
        (Fact.returned g o left :: facts).map
          (Note.mk t m.clock))
      (rest.setPhase t ph') := by
  have hWait : ph.standing.wait? = some (g, some o) := by
    rw [hRegained]
    rfl
  rcases
      hLedger.heeds_returned hPhase hRegained left hQuiet with
    ⟨l, x, r, hBefore, hAfter, hOpen, hStatus, hLeft, hRight⟩
  have hMem : x ∈ waits past := by
    rw [hBefore]
    exact List.mem_append_right _ List.mem_cons_self
  rcases Option.map_eq_some_iff.mp (congrArg Prod.snd hStatus)
    with ⟨⟨i, o'⟩, hSettled, hOutcome⟩
  change o' = o at hOutcome
  subst hOutcome
  apply
    hLedger.replaces hPhase hMoves hBefore hAfter hOpen
      (hWait.trans (congrArg some hStatus.symm)) hLeft hRight
      rfl rfl rfl
  · rw [Standing.wait?_of_isFree hFree]
    simp [Wait.isOpen]
  · exact Option.isSome_of_mem hSettled
  · intro i' o'' hSome
    have hThen := hLedger.settled x hMem i' o'' hSome
    exact ⟨hThen.1, hThen.2.append _⟩
  · intro o'' hSome
    cases hSome
    exact ⟨i, hSettled⟩

/- A thread that arrives is in no wait. -/
theorem wait?_join
    (m : Machine V)
    (t : Nat) :
    ((standings
        { m with threads := m.threads ++ [.idle] })[t]?).bind
        Standing.wait? =
      (m.standings[t]?).bind Standing.wait? := by
  rw [standings_join]
  rcases Nat.lt_trichotomy t m.standings.length with
    hLt | rfl | hGt
  · rw [List.getElem?_append_left hLt]
  · rw [List.getElem?_concat_length,
      List.getElem?_eq_none (Nat.le_refl _)]
    rfl
  · rw [List.getElem?_eq_none (Nat.le_of_lt hGt),
      List.getElem?_eq_none
        (by simpa using Nat.succ_le_of_lt hGt)]

/- Every step of an orderly machine keeps the ledger. -/
theorem Ledger.steps
    {m m' : Machine V}
    {past ns : List Note}
    (hLedger : Ledger past m)
    (hOrderly : m.Orderly)
    (hSteps : m.Steps m' ns) :
    Ledger (past ++ ns) m' := by
  cases hSteps with
  | join =>
      rw [List.append_nil]
      refine { hLedger with current := ?_, pending := ?_ }
      · intro t
        rw [hLedger.current t, wait?_join]
      · intro g
        rw [hLedger.pending g, standings_join,
          List.countP_append]
        rfl
  | tick hLater =>
      rw [List.append_nil]
      exact { hLedger with }
  | @move t ph ph' facts rest hPhase hMoves =>
      have hCourse := hOrderly.course hPhase hMoves
      generalize hBefore : ph.standing = s at hCourse
      generalize hAfter : ph'.standing = s' at hCourse
      cases hCourse with
      | goes hWait hQuiet =>
          subst hBefore hAfter
          exact hLedger.goes hPhase hMoves hWait hQuiet
      | begins =>
          exact hLedger.begins hPhase hMoves hBefore hAfter
      | settles hLooked =>
          exact hLedger.settles hPhase hMoves hBefore hAfter
      | ends hFree hQuiet =>
          subst hAfter
          exact
            hLedger.ends hPhase hMoves hBefore hFree hQuiet

end Machine

end CondVar
