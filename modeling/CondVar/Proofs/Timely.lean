import CondVar.Proofs.Census
import CondVar.Proofs.Closures
import CondVar.Proofs.Ledger

/-
  Waits and closes, in the order in which they are told.

  Nobody registers with a closed cohort, so no wait begins
  after the close of its epoch.  A wait is settled as
  interrupted if and only if that close is told before, and a
  close reports the number of waits that are pending then.

  With this, all that is known of a machine that was reached
  from a fresh one is gathered in one place.

  Main declarations:
    * `Machine.Timely`
    * `Machine.Timely.steps`
    * `Machine.Sound`
    * `Machine.Reaches.sound`
-/

namespace CondVar

namespace Machine

variable {V : Type}

------------------------------------------------------------
-- Waits and Closes
------------------------------------------------------------

/-
  `started`: no wait begins on a closed cohort.  `settled`: a
  wait is interrupted if its cohort was closed before it was
  settled.  `counted`: a close reports the number of waits
  that were pending then.
-/
structure Timely (ns : List Note) : Prop where
  started :
    ∀ x ∈ waits ns, ∀ j,
      ClosedAt ns j x.epoch → x.start < j
  settled :
    ∀ x ∈ waits ns, ∀ i o,
      x.settled = some (i, o) →
        (o = .interrupted ↔
          ∃ j < i, ClosedAt ns j x.epoch)
  counted :
    ∀ j t g r,
      Told ns j t (.closed g r) →
        r =
          .ofCount
            ((waits ns).countP (·.isPendingAt g j))

/- A history that has nothing to tell is timely. -/
theorem timely_nil : Timely [] where
  started := fun _ hMem => nomatch hMem
  settled := fun _ hMem => nomatch hMem
  counted := by
    rintro j t g r ⟨time, hGet⟩
    cases hGet

/- A longer history with the same waits and closes is timely. -/
theorem Timely.same
    {past ns : List Note}
    (hTimely : Timely past)
    (hWaits : waits ns = waits past)
    (hTold :
      ∀ j t g r,
        Told ns j t (.closed g r) ↔
          Told past j t (.closed g r)) :
    Timely ns := by
  have hClosedAt :
      ∀ j g, ClosedAt ns j g ↔ ClosedAt past j g :=
    fun j g =>
      exists_congr
        (fun t => exists_congr (fun r => hTold j t g r))
  constructor
  · rw [hWaits]
    intro x hMem j hAt
    exact hTimely.started x hMem j ((hClosedAt j _).mp hAt)
  · rw [hWaits]
    intro x hMem i o hSettled
    simp only [hClosedAt]
    exact hTimely.settled x hMem i o hSettled
  · rw [hWaits]
    intro j t g r hClosed
    exact
      hTimely.counted j t g r ((hTold j t g r).mp hClosed)

/- A wait may begin as long as its cohort is open. -/
theorem Timely.begins
    {past : List Note}
    (hTimely : Timely past)
    {g : Nat}
    (hOpen : ∀ j, ¬ ClosedAt past j g)
    (t : Nat)
    (time : Instant) :
    Timely
      (past ++ [Fact.registered g].map (Note.mk t time)) := by
  have hFacts :
      ∀ f ∈ [Fact.registered g], f.endsEra = false := by
    simp [Fact.endsEra]
  have hWaits := waits_append_registered past t time g
  constructor
  · rw [hWaits]
    intro x hMem j hAt
    rw [closedAt_append_of_lasts hFacts] at hAt
    rcases List.mem_append.mp hMem with hOld | hNew
    · exact hTimely.started x hOld j hAt
    · rw [List.mem_singleton.mp hNew] at hAt
      exact absurd hAt (hOpen j)
  · rw [hWaits]
    intro x hMem i o hSettled
    simp only [closedAt_append_of_lasts hFacts]
    rcases List.mem_append.mp hMem with hOld | hNew
    · exact hTimely.settled x hOld i o hSettled
    · rw [List.mem_singleton.mp hNew] at hSettled
      cases hSettled
  · rw [hWaits]
    intro j u h r hTold
    rw [told_append_of_not_mem (by simp)] at hTold
    have hBefore := hTold.lt_length
    rw [List.countP_append, hTimely.counted j u h r hTold]
    have hNot :
        (Wait.fresh t g past.length).isPendingAt h j = false :=
      decide_eq_false
        (fun hAll => absurd hAll.2.1 (Nat.not_lt_of_lt hBefore))
    rw [List.countP_singleton, hNot]
    rfl

/-
  A wait may be settled, and one that is settled may return,
  as interrupted if its cohort is closed and not otherwise.
-/
theorem Timely.replaces
    {past : List Note}
    {facts : List Fact}
    {time : Instant}
    {t : Nat}
    {l r : List Wait}
    {x x' : Wait}
    (hTimely : Timely past)
    (hFacts : ∀ f ∈ facts, f.endsEra = false)
    (hBefore : waits past = l ++ x :: r)
    (hAfter :
      waits (past ++ facts.map (Note.mk t time)) =
        l ++ x' :: r)
    (hEpoch : x'.epoch = x.epoch)
    (hStart : x'.start = x.start)
    (hSettled :
      ∀ i o,
        x'.settled = some (i, o) →
          x.settled = some (i, o) ∨
            (x.settled = none ∧ i = past.length ∧
              (o = .interrupted ↔
                ∃ j, ClosedAt past j x.epoch)))
    (hKept : x.settled.isSome = true → x'.settled = x.settled) :
    Timely (past ++ facts.map (Note.mk t time)) := by
  have hMem : x ∈ waits past := by
    rw [hBefore]
    exact List.mem_append_right _ List.mem_cons_self
  have hOld :
      ∀ {y : Wait},
        y ∈ l ++ x' :: r → y ∈ waits past ∨ y = x' := by
    intro y hThere
    rw [hBefore]
    exact mem_or_eq_of_mem_replace hThere
  constructor
  · rw [hAfter]
    intro y hThere j hAt
    rw [closedAt_append_of_lasts hFacts] at hAt
    rcases hOld hThere with hPast | rfl
    · exact hTimely.started y hPast j hAt
    · rw [hStart]
      rw [hEpoch] at hAt
      exact hTimely.started x hMem j hAt
  · rw [hAfter]
    intro y hThere i o hSome
    simp only [closedAt_append_of_lasts hFacts]
    rcases hOld hThere with hPast | rfl
    · exact hTimely.settled y hPast i o hSome
    · rw [hEpoch]
      rcases hSettled i o hSome with
        hWas | ⟨_, rfl, hLooked⟩
      · exact hTimely.settled x hMem i o hWas
      · rw [hLooked]
        constructor
        · rintro ⟨j, hAt⟩
          exact ⟨j, hAt.lt_length, hAt⟩
        · rintro ⟨j, _, hAt⟩
          exact ⟨j, hAt⟩
  · rw [hAfter]
    intro j u g r' hTold
    have hNot : Fact.closed g r' ∉ facts :=
      fun hThere => nomatch hFacts _ hThere
    rw [told_append_of_not_mem hNot] at hTold
    have hPlace := hTold.lt_length
    -- Settling in the place after the history leaves a wait
    -- pending in every place of the history.
    have hPending :
        x'.isPendingAt g j = x.isPendingAt g j := by
      unfold Wait.isPendingAt
      rw [hEpoch, hStart]
      cases hWas : x.settled with
      | some s => rw [hKept (by rw [hWas]; rfl), hWas]
      | none =>
          cases hIs : x'.settled with
          | none => rfl
          | some s =>
              rcases hSettled s.1 s.2 hIs with
                hSame | ⟨_, hHere, _⟩
              · rw [hWas] at hSame
                cases hSame
              · simp [hHere, Nat.le_of_lt hPlace]
    have hCounted := hTimely.counted j u g r' hTold
    rw [hBefore] at hCounted
    rw [hCounted]
    simp only [List.countP_append, List.countP_cons, hPending]

/-
  The waits that are pending where a history ends are those
  that have no outcome.
-/
theorem Ledger.countP_isPendingAt
    {m : Machine V}
    {past : List Note}
    (hLedger : Ledger past m)
    (g : Nat) :
    (waits past).countP (·.isPendingAt g past.length) =
      (waits past).countP (·.isPending g) := by
  apply List.countP_congr
  intro x hMem
  have hStart := (hLedger.started x hMem).lt_length
  unfold Wait.isPendingAt Wait.isPending
  cases hSettled : x.settled with
  | none => simp [hStart]
  | some s =>
      have hThen := hLedger.settled x hMem s.1 s.2 hSettled
      simp [hThen.2.lt_length]

/-
  An interrupt that closes an open cohort reports the number
  of its pending waits.
-/
theorem Timely.closes
    {m : Machine V}
    {past : List Note}
    {g : Nat}
    {r : WakeReport}
    (hTimely : Timely past)
    (hLedger : Ledger past m)
    (hReport :
      r = .ofCount ((waits past).countP (·.isPending g)))
    (t : Nat)
    (time : Instant) :
    Timely
      (past ++ [Fact.closed g r].map (Note.mk t time)) := by
  have hQuiet :
      ∀ f ∈ [Fact.closed g r], f.isOfWait = false := by
    simp [Fact.isOfWait]
  have hWaits := waits_append_quiet past t time hQuiet
  constructor
  · rw [hWaits]
    intro x hMem j hAt
    rcases closedAt_append_closed_iff.mp hAt with
      hOld | ⟨_, rfl⟩
    · exact hTimely.started x hMem j hOld
    · exact (hLedger.started x hMem).lt_length
  · rw [hWaits]
    intro x hMem i o hSettled
    have hPlace :=
      (hLedger.settled x hMem i o hSettled).2.lt_length
    rw [hTimely.settled x hMem i o hSettled]
    constructor
    · rintro ⟨j, hLt, hAt⟩
      exact
        ⟨j, hLt, closedAt_append_closed_iff.mpr (Or.inl hAt)⟩
    · rintro ⟨j, hLt, hAt⟩
      rcases closedAt_append_closed_iff.mp hAt with
        hOld | ⟨_, rfl⟩
      · exact ⟨j, hLt, hOld⟩
      · exact absurd hLt (Nat.not_lt_of_lt hPlace)
  · rw [hWaits]
    intro j u h r' hTold
    rcases told_append_singleton_iff.mp hTold with
      hOld | ⟨_, hFact, rfl⟩
    · exact hTimely.counted j u h r' hOld
    · cases hFact
      rw [hLedger.countP_isPendingAt]
      exact hReport

/- Every step of an orderly machine keeps its history timely. -/
theorem Timely.steps
    {m m' : Machine V}
    {past ns : List Note}
    (hTimely : Timely past)
    (hOrderly : m.Orderly)
    (hCensus : m.Census)
    (hLedger : Ledger past m)
    (hClosures : Closures past m)
    (hSteps : m.Steps m' ns) :
    Timely (past ++ ns) := by
  cases hSteps with
  | join =>
      rw [List.append_nil]
      exact hTimely
  | tick hLater =>
      rw [List.append_nil]
      exact hTimely
  | @move t ph ph' facts rest hPhase hMoves =>
      have hStanding := standings_of_phase hPhase
      have hEra := hOrderly.era hPhase hMoves
      have hCourse := hOrderly.course hPhase hMoves
      generalize hBefore : ph.standing = s at hEra hCourse
      generalize hAfter : ph'.standing = s' at hEra hCourse
      rw [hBefore] at hStanding
      cases hEra with
      | lasts hSame hFits hStays hFacts =>
          have hTold :
              ∀ j u g r,
                Told (past ++ facts.map (Note.mk t m.clock)) j
                    u (.closed g r) ↔
                  Told past j u (.closed g r) :=
            fun j u g r =>
              told_append_of_not_mem
                (fun hMem => nomatch hFacts _ hMem)
          cases hCourse with
          | goes hWait hQuiet =>
              exact
                hTimely.same
                  (waits_append_quiet past t m.clock hQuiet)
                  hTold
          | begins =>
              have hHolder :=
                hOrderly.locked t _ hStanding rfl
              have hOpen :=
                hOrderly.open_of_holder hHolder hStanding
                  nofun
              refine hTimely.begins ?_ t m.clock
              intro j hAt
              have hClosed :=
                (hClosures.closed m.current).mpr ⟨j, hAt⟩
              rw [hOpen] at hClosed
              cases hClosed
          | @settles g o hLooked =>
              rcases hLedger.heeds_settled hPhase hBefore o with
                ⟨l, x, r, hWas, hIs, _, hStatus, _, _⟩
              have hEpoch : x.epoch = g :=
                congrArg Prod.fst hStatus
              have hNone : x.settled = none :=
                Option.map_eq_none_iff.mp
                  (congrArg Prod.snd hStatus)
              apply
                hTimely.replaces hFacts hWas hIs rfl rfl
              · intro i o' hSome
                cases hSome
                refine Or.inr ⟨hNone, rfl, ?_⟩
                rw [hEpoch]
                exact hLooked.trans (hClosures.closed g)
              · intro hSome
                rw [hNone] at hSome
                cases hSome
          | @ends g o left s' facts hFree hQuiet =>
              rcases
                  hLedger.heeds_returned hPhase hBefore left
                    hQuiet with
                ⟨l, x, r, hWas, hIs, _, _, _, _⟩
              exact
                hTimely.replaces hFacts hWas hIs rfl rfl
                  (fun _ _ hSome => Or.inl hSome)
                  (fun _ => rfl)
      | closes hOpen hCurrent hCohorts =>
          have hHolder := hOrderly.locked t _ hStanding rfl
          refine hTimely.closes hLedger ?_ t m.clock
          rw [hLedger.pending,
            hCensus.registered_eq_pending hOrderly.locked
              hHolder hStanding nofun]
      | renews hClosed hCurrent hCohorts =>
          apply
            hTimely.same
              (waits_append_quiet past t m.clock
                (by simp [Fact.isOfWait]))
          intro j u g r
          exact told_append_of_not_mem (by simp)

------------------------------------------------------------
-- All of It
------------------------------------------------------------

/-
  What holds of a machine that was reached from a fresh one,
  and of its history.
-/
structure Sound
    (ns : List Note)
    (m : Machine V) : Prop where
  orderly : m.Orderly
  census : m.Census
  ledger : Ledger ns m
  closures : Closures ns m
  timely : Timely ns

/- All of this holds of a fresh machine. -/
theorem sound_fresh
    (s : Settings)
    (value : V)
    (foreign : V) :
    Sound [] (fresh s value foreign) where
  orderly := orderly_fresh s value foreign
  census := census_fresh s value foreign
  ledger := ledger_fresh s value foreign
  closures := closures_fresh s value foreign
  timely := timely_nil

/- Every step keeps all of this. -/
theorem Sound.steps
    {m m' : Machine V}
    {past ns : List Note}
    (hSound : Sound past m)
    (hSteps : m.Steps m' ns) :
    Sound (past ++ ns) m' where
  orderly := hSound.orderly.steps hSteps
  census := hSound.census.steps hSound.orderly hSteps
  ledger := hSound.ledger.steps hSound.orderly hSteps
  closures := hSound.closures.steps hSound.orderly hSteps
  timely :=
    hSound.timely.steps hSound.orderly hSound.census
      hSound.ledger hSound.closures hSteps

/- Wherever a fresh machine gets, all of this holds. -/
theorem Reaches.sound
    {m : Machine V}
    {s : Settings}
    {value foreign : V}
    {ns : List Note}
    (hReaches : (fresh s value foreign).Reaches ns m) :
    Sound ns m :=
  hReaches.invariant
    (P := fun ns m => Sound ns m)
    (sound_fresh s value foreign)
    (fun hSound hSteps => hSound.steps hSteps)

end Machine

end CondVar
