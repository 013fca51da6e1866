import CondVar.Proofs.Timely
import Mathlib.Data.List.Nodup

/-
  One epoch after the other.

  An interrupt closes the current cohort and then replaces it
  by the next one, and between the two the current cohort is
  closed.  The thread that interrupts has the lock all the
  while, so nobody registers in between and nobody returns.

  Main declarations:
    * `closedEpochs`, `replacedEpochs`
    * `Machine.Succession`
    * `Machine.Sound.returned_interrupted`
    * `Machine.epochs_succeed`
-/

namespace CondVar

------------------------------------------------------------
-- Epochs in a History
------------------------------------------------------------

namespace Fact

/- The epoch whose cohort was closed. -/
def closed? : Fact → Option Nat
| .closed e _ => some e
| _ => none

/- The epoch whose cohort was replaced. -/
def replaced? : Fact → Option Nat
| .interrupted e _ => some e
| _ => none

end Fact

/- The epochs that were closed, in this order. -/
def closedEpochs (ns : List Note) : List Nat :=
  ns.filterMap (·.fact.closed?)

/- The epochs that interrupts have ended, in this order. -/
def replacedEpochs (ns : List Note) : List Nat :=
  ns.filterMap (·.fact.replaced?)

/- A step adds the epochs that its facts tell to be closed. -/
theorem closedEpochs_append
    (past : List Note)
    (facts : List Fact)
    (t : Nat)
    (time : Instant) :
    closedEpochs (past ++ facts.map (Note.mk t time)) =
      closedEpochs past ++ facts.filterMap Fact.closed? := by
  unfold closedEpochs
  rw [List.filterMap_append, List.filterMap_map]
  rfl

/- A step adds the epochs that its facts tell to be over. -/
theorem replacedEpochs_append
    (past : List Note)
    (facts : List Fact)
    (t : Nat)
    (time : Instant) :
    replacedEpochs (past ++ facts.map (Note.mk t time)) =
      replacedEpochs past ++
        facts.filterMap Fact.replaced? := by
  unfold replacedEpochs
  rw [List.filterMap_append, List.filterMap_map]
  rfl

/- Facts that end no epoch close and replace none. -/
theorem filterMap_eq_nil_of_lasts
    {facts : List Fact}
    (hFacts : ∀ f ∈ facts, f.endsEra = false) :
    facts.filterMap Fact.closed? = [] ∧
      facts.filterMap Fact.replaced? = [] := by
  constructor
  · apply List.filterMap_eq_nil_iff.mpr
    intro f hMem
    have hLasts := hFacts f hMem
    cases f <;> first | rfl | cases hLasts
  · apply List.filterMap_eq_nil_iff.mpr
    intro f hMem
    have hLasts := hFacts f hMem
    cases f <;> first | rfl | cases hLasts

------------------------------------------------------------
-- Succession
------------------------------------------------------------

namespace Phase

variable {V : Type}

/- Whether a thread interrupts, with the lock held. -/
def isInterrupting : Phase V → Bool
| .closing _ => true
| .rousing _ _ _ => true
| .renewing _ _ _ => true
| _ => false

/- A thread that is to replace a cohort interrupts. -/
theorem isInterrupting_of_retiring
    {ph : Phase V}
    {g : Nat}
    {r : WakeReport}
    (hRetiring : ph.standing = .retiring g r) :
    ph.isInterrupting = true := by
  cases ph with
  | rousing taken g' r' => rfl
  | renewing taken g' r' => rfl
  | judging side a => cases side <;> cases hRetiring
  | entering side a => cases side <;> cases hRetiring
  | _ => cases hRetiring

end Phase

namespace Machine

variable {V : Type}

/-
  `replaced`: interrupts have ended the epochs before the
  current one, each once and in order.  `closed`: the closed
  epochs are these and, if it is closed, the current one.
-/
structure Succession
    (ns : List Note)
    (m : Machine V) : Prop where
  replaced : replacedEpochs ns = List.range m.current
  closed :
    closedEpochs ns =
      List.range m.current ++
        if (m.cohort m.current).closed then [m.current]
        else []

/- No epoch has ended before the first step. -/
theorem succession_fresh
    (s : Settings)
    (value : V)
    (foreign : V) :
    Succession [] (fresh s value foreign) :=
  ⟨rfl, rfl⟩

/- A move of an orderly machine keeps the succession. -/
theorem Succession.moves
    {m rest : Machine V}
    {past : List Note}
    {t : Nat}
    {ph ph' : Phase V}
    {facts : List Fact}
    (hSuccession : Succession past m)
    (hOrderly : m.Orderly)
    (hPhase : m.threads[t]? = some ph)
    (hMoves : m.Moves t ph ph' facts rest) :
    Succession (past ++ facts.map (Note.mk t m.clock))
      rest := by
  have hEra := hOrderly.era hPhase hMoves
  have hClosed :=
    hOrderly.closed_moves_iff hPhase hMoves rest.current
  have hBefore := hSuccession.closed
  generalize ph.standing = s at hEra
  generalize ph'.standing = s' at hEra
  cases hEra with
  | lasts hSame hFits hStays hFacts =>
      have hNone := filterMap_eq_nil_of_lasts hFacts
      constructor
      · rw [replacedEpochs_append, hNone.2, List.append_nil,
          hSame.current]
        exact hSuccession.replaced
      · rw [closedEpochs_append, hNone.1, List.append_nil,
          hSame.closed, hSame.current]
        exact hBefore
  | closes hOpen hCurrent hCohorts =>
      have hNow : (rest.cohort rest.current).closed = true := by
        rw [hClosed, hCurrent]
        exact Or.inr ⟨_, List.mem_cons_self⟩
      rw [hOpen] at hBefore
      constructor
      · rw [replacedEpochs_append, hCurrent,
          hSuccession.replaced]
        exact List.append_nil _
      · rw [closedEpochs_append, hNow, hCurrent, hBefore]
        exact
          congrArg (· ++ [m.current]) (List.append_nil _)
  | @renews r hWas hCurrent hCohorts =>
      have hNow :
          (rest.cohort rest.current).closed = false := by
        rw [hCurrent, hOrderly.cohort_renewed hCohorts]
        rfl
      rw [hWas] at hBefore
      constructor
      · rw [replacedEpochs_append, hCurrent, List.range_succ,
          hSuccession.replaced]
        rfl
      · rw [closedEpochs_append, hNow, hCurrent,
          List.range_succ, hBefore]
        rfl

/- Every step of an orderly machine keeps the succession. -/
theorem Succession.steps
    {m m' : Machine V}
    {past ns : List Note}
    (hSuccession : Succession past m)
    (hOrderly : m.Orderly)
    (hSteps : m.Steps m' ns) :
    Succession (past ++ ns) m' := by
  cases hSteps with
  | join =>
      rw [List.append_nil]
      exact ⟨hSuccession.replaced, hSuccession.closed⟩
  | tick hLater =>
      rw [List.append_nil]
      exact ⟨hSuccession.replaced, hSuccession.closed⟩
  | move hPhase hMoves =>
      have hKept := hSuccession.moves hOrderly hPhase hMoves
      exact ⟨hKept.replaced, hKept.closed⟩

/- Wherever a fresh machine gets, epochs end in order. -/
theorem Reaches.succession
    {m : Machine V}
    {s : Settings}
    {value foreign : V}
    {ns : List Note}
    (hReaches : (fresh s value foreign).Reaches ns m) :
    Succession ns m :=
  hReaches.invariant_of_orderly
    (P := fun ns m => Succession ns m)
    (orderly_fresh s value foreign)
    (succession_fresh s value foreign)
    (fun hOrderly hBefore hSteps =>
      hBefore.steps hOrderly hSteps)

------------------------------------------------------------
-- Registering and Returning
------------------------------------------------------------

/-
  A cohort is open while a thread that is not replacing it
  has the lock, and so it is open for whoever registers.
-/
theorem Orderly.open_of_door
    {m : Machine V}
    {t g : Nat}
    (hOrderly : m.Orderly)
    (hDoor : m.standings[t]? = some (.door g)) :
    g = m.current ∧ (m.cohort g).closed = false := by
  have hCurrent : g = m.current := hOrderly.fits t _ hDoor
  have hHolder := hOrderly.locked t _ hDoor rfl
  refine ⟨hCurrent, ?_⟩
  rw [hCurrent]
  exact hOrderly.open_of_holder hHolder hDoor nofun

/- A wait that was interrupted was on a closed cohort. -/
theorem Sound.closed_of_interrupted
    {m : Machine V}
    {ns : List Note}
    {t g : Nat}
    {s : Standing}
    (hSound : Sound ns m)
    (hStanding : m.standings[t]? = some s)
    (hWait : s.wait? = some (g, some .interrupted)) :
    (m.cohort g).closed = true := by
  rcases hSound.ledger.exists_wait hStanding hWait with
    ⟨x, hMem, _, hStatus⟩
  have hEpoch : x.epoch = g := congrArg Prod.fst hStatus
  rcases
      Option.map_eq_some_iff.mp (congrArg Prod.snd hStatus)
    with ⟨⟨i, o⟩, hSettled, hOutcome⟩
  rw [show o = .interrupted from hOutcome] at hSettled
  rcases
      (hSound.timely.settled x hMem i _ hSettled).mp rfl with
    ⟨j, _, hAt⟩
  rw [hEpoch] at hAt
  exact (hSound.closures.closed g).mpr ⟨j, hAt⟩

/-
  A thread that has the lock back after it was interrupted
  finds a later epoch than that of its wait.
-/
theorem Sound.lt_current_of_regained
    {m : Machine V}
    {ns : List Note}
    {t g : Nat}
    (hSound : Sound ns m)
    (hRegained :
      m.standings[t]? = some (.regained g .interrupted)) :
    g < m.current := by
  have hLe : g ≤ m.current :=
    hSound.orderly.fits t _ hRegained
  have hHolder := hSound.orderly.locked t _ hRegained rfl
  have hOpen :=
    hSound.orderly.open_of_holder hHolder hRegained nofun
  have hClosed := hSound.closed_of_interrupted hRegained rfl
  apply Nat.lt_of_le_of_ne hLe
  rintro rfl
  rw [hOpen] at hClosed
  cases hClosed

/- The move that ends a wait only counts its thread out. -/
theorem Moves.rest_of_regained
    {m rest : Machine V}
    {t g : Nat}
    {ph ph' : Phase V}
    {facts : List Fact}
    {o : Outcome}
    (hMoves : m.Moves t ph ph' facts rest)
    (hRegained : ph.standing = .regained g o) :
    rest = { m with tally := m.tally.remove.1 } := by
  cases hMoves with
  | resume hCounted => rfl
  | underflow hRefused => rfl
  | @judge side a => cases side <;> cases hRegained
  | _ => cases hRegained

/- A wait registers with the current epoch's open cohort. -/
theorem Orderly.registered_moves_current
    {m rest : Machine V}
    {t e : Nat}
    {ph ph' : Phase V}
    {facts : List Fact}
    (hOrderly : m.Orderly)
    (hPhase : m.threads[t]? = some ph)
    (hMoves : m.Moves t ph ph' facts rest)
    (hMem : Fact.registered e ∈ facts) :
    e = m.epoch ∧ (m.cohort m.current).closed = false := by
  have hStanding := standings_of_phase hPhase
  have hCourse := hOrderly.course hPhase hMoves
  generalize ph.standing = s at hStanding hCourse
  generalize ph'.standing = s' at hCourse
  cases hCourse with
  | goes hWait hQuiet => cases hQuiet _ hMem
  | begins =>
      cases List.mem_singleton.mp hMem
      exact
        ⟨(hOrderly.epochs _ (Nat.le_refl _)).symm,
          (hOrderly.open_of_door hStanding).2⟩
  | settles hLooked => cases List.mem_singleton.mp hMem
  | ends hFree hQuiet =>
      rcases List.mem_cons.mp hMem with hHead | hTail
      · cases hHead
      · cases hQuiet _ hTail

/-
  A thread that returns as interrupted has the lock, and its
  wait was on an epoch before the current one.
-/
theorem Sound.returned_interrupted
    {m rest : Machine V}
    {past : List Note}
    {t e : Nat}
    {ph ph' : Phase V}
    {facts : List Fact}
    {left : Option Duration}
    (hSound : Sound past m)
    (hPhase : m.threads[t]? = some ph)
    (hMoves : m.Moves t ph ph' facts rest)
    (hMem : Fact.returned e .interrupted left ∈ facts) :
    rest.bound.holder = some t ∧
      e < rest.epoch ∧
      ∃ x ∈ waits (past ++ facts.map (Note.mk t m.clock)),
        x.thread = t ∧ x.epoch = e ∧
          x.returned = some .interrupted := by
  have hStanding := standings_of_phase hPhase
  have hCourse := hSound.orderly.course hPhase hMoves
  generalize hBefore : ph.standing = s at hStanding hCourse
  generalize ph'.standing = s' at hCourse
  cases hCourse with
  | goes hWait hQuiet => cases hQuiet _ hMem
  | begins => cases List.mem_singleton.mp hMem
  | settles hLooked => cases List.mem_singleton.mp hMem
  | @ends g o left' s' facts' hFree hQuiet =>
      rcases List.mem_cons.mp hMem with hHead | hTail
      · cases hHead
        rcases
            hSound.ledger.heeds_returned hPhase hBefore left
              hQuiet with
          ⟨l, x, r, _, hAfter, hOpen, hStatus, _, _⟩
        have hRest := hMoves.rest_of_regained hBefore
        have hEpoch : m.epoch = m.current :=
          hSound.orderly.epochs _ (Nat.le_refl _)
        subst hRest
        refine
          ⟨hSound.orderly.locked t _ hStanding rfl, ?_, ?_⟩
        · change e < m.epoch
          rw [hEpoch]
          exact hSound.lt_current_of_regained hStanding
        · rw [hAfter]
          refine
            ⟨_, List.mem_append_right _ List.mem_cons_self,
              ?_, ?_, rfl⟩
          · exact (of_decide_eq_true hOpen).1
          · exact congrArg Prod.fst hStatus
      · cases hQuiet _ hTail

/-
  An interrupt finds the current cohort open, closes it, and
  is to report the number of those registered with it.
-/
theorem Orderly.step_of_closing
    {m : Machine V}
    {t : Nat}
    {taken : Bool}
    (hOrderly : m.Orderly)
    (hPhase : m.threads[t]? = some (.closing taken)) :
    (m.cohort m.current).closed = false ∧
      ∃ m',
        m.step (.advance t) =
            some
              (m',
                [⟨t, m.clock,
                  .closed m.epoch
                    (.ofCount
                      (m.cohort m.current).registered)⟩]) ∧
          m'.threads[t]? =
            some
              (.rousing taken m.current
                (.ofCount
                  (m.cohort m.current).registered)) ∧
          (m'.cohort m.current).closed = true := by
  have hStanding := standings_of_phase hPhase
  have hHolder := hOrderly.locked t _ hStanding rfl
  have hOpen :=
    hOrderly.open_of_holder hHolder hStanding nofun
  have hMoves : m.Moves t (.closing taken) _ _ _ :=
    .close hOpen
  have hClose :
      m.step (.advance t) =
        some
          ((m.setCohort m.current
              { m.cohort m.current with
                closed := true }).setPhase t
            (.rousing taken m.current
              (.ofCount (m.cohort m.current).registered)),
            [⟨t, m.clock,
              .closed m.epoch
                (.ofCount
                  (m.cohort m.current).registered)⟩]) := by
    simp only [step, advance, hPhase, close, hOpen,
      Cohort.close, noted]
    rfl
  refine ⟨hOpen, _, hClose, ?_, ?_⟩
  · rcases List.getElem?_eq_some_iff.mp hPhase with ⟨hLt, _⟩
    exact List.getElem?_set_self hLt
  · have hNow :=
      (hOrderly.closed_moves_iff hPhase hMoves m.current).mpr
        (Or.inr
          ⟨_, by
            rw [hOrderly.epochs _ (Nat.le_refl _)]
            exact List.mem_cons_self⟩)
    exact hNow

------------------------------------------------------------
-- The Current Epoch
------------------------------------------------------------

/-
  The current cohort is open while no thread that has the
  lock interrupts.
-/
theorem Sound.current_open
    {m : Machine V}
    {ns : List Note}
    (hSound : Sound ns m)
    (hNobody :
      ∀ t ph,
        m.bound.holder = some t →
          m.threads[t]? = some ph →
            ph.isInterrupting = false) :
    (m.cohort m.current).closed = false := by
  cases hClosed : (m.cohort m.current).closed with
  | false => rfl
  | true =>
      rcases hSound.orderly.closer hClosed with
        ⟨t, r, hRetiring⟩
      have hHolder := hSound.orderly.locked t _ hRetiring rfl
      rcases phase_of_standing hRetiring with
        ⟨ph, hPhase, hStanding⟩
      have hNot := hNobody t ph hHolder hPhase
      rw [Phase.isInterrupting_of_retiring hStanding] at hNot
      cases hNot

/-
  A cohort of an epoch before the current one was closed in
  one place of the history, and another one is current.
-/
theorem Succession.past
    {m : Machine V}
    {ns : List Note}
    {g : Nat}
    (hSuccession : Succession ns m)
    (hOrderly : m.Orderly)
    (hLt : g < m.cohorts.length)
    (hPast : (m.cohort g).epoch < m.epoch) :
    (m.cohort g).closed = true ∧ g ≠ m.current ∧
      (closedEpochs ns).count (m.cohort g).epoch = 1 := by
  have hLe : g ≤ m.current := by
    rw [hOrderly.numbered] at hLt
    exact Nat.le_of_lt_succ hLt
  have hEpoch := hOrderly.epochs g hLe
  have hCurrent : m.epoch = m.current :=
    hOrderly.epochs _ (Nat.le_refl _)
  rw [hEpoch, hCurrent] at hPast
  refine ⟨hOrderly.past g hPast, Nat.ne_of_lt hPast, ?_⟩
  have hOnce : (List.range m.current).count g = 1 :=
    List.count_eq_one_of_mem List.nodup_range
      (List.mem_range.mpr hPast)
  have hNotLast :
      (if (m.cohort m.current).closed then [m.current]
        else []).count g = 0 := by
    apply List.count_eq_zero_of_not_mem
    split
    · intro hMem
      rw [List.mem_singleton.mp hMem] at hPast
      exact Nat.lt_irrefl _ hPast
    · exact List.not_mem_nil
  rw [hEpoch, hSuccession.closed, List.count_append, hOnce,
    hNotLast]

/-
  In every history: while no thread interrupts with the lock
  held, the current cohort is open, its epoch is the number
  of interrupts that have ended one, and the cohorts of all
  epochs before were closed once and are not current.
  Interrupts end the epochs one by one and in order.  An
  interrupt that is to close a cohort finds it open, and the
  number registered there is what it is to report.  Until it
  replaces the cohort, that is current and closed, and then
  it reports what it has found.  A wait registers with an
  open cohort, of the current epoch, and one that returns as
  interrupted has the lock when the epoch is a later one.
-/
theorem epochs_succeed
    {m : Machine V}
    {s : Settings}
    {value foreign : V}
    {ns : List Note}
    (hReaches : (fresh s value foreign).Reaches ns m) :
    ((∀ t ph,
        m.bound.holder = some t →
          m.threads[t]? = some ph →
            ph.isInterrupting = false) →
      (m.cohort m.current).closed = false ∧
      m.epoch = (replacedEpochs ns).length ∧
      ∀ g < m.cohorts.length,
        (m.cohort g).epoch < m.epoch →
          (m.cohort g).closed = true ∧ g ≠ m.current ∧
            (closedEpochs ns).count (m.cohort g).epoch = 1) ∧
    replacedEpochs ns = List.range m.epoch ∧
    (∀ t taken,
      m.threads[t]? = some (.closing taken) →
        (m.cohort m.current).closed = false ∧
          ∃ m',
            m.step (.advance t) =
                some
                  (m',
                    [⟨t, m.clock,
                      .closed m.epoch
                        (.ofCount
                          (m.cohort
                            m.current).registered)⟩]) ∧
              m'.threads[t]? =
                some
                  (.rousing taken m.current
                    (.ofCount
                      (m.cohort m.current).registered)) ∧
              (m'.cohort m.current).closed = true) ∧
    (∀ (t : Nat) taken g r,
      m.threads[t]? = some (.renewing taken g r) →
        g = m.current ∧ (m.cohort g).closed = true) ∧
    (∀ k t e r,
      Told ns k t (.interrupted e r) →
        ∃ j < k, Told ns j t (.closed e r)) ∧
    (∀ (t : Nat) a g,
      m.threads[t]? = some (.ticketed a g) →
        g = m.current ∧ (m.cohort g).closed = false) ∧
    ∀ l m' ns',
      m.step l = some (m', ns') →
        (∀ n ∈ ns', ∀ e,
          n.fact = .registered e →
            e = m.epoch ∧
              (m.cohort m.current).closed = false) ∧
        ∀ n ∈ ns', ∀ e left,
          n.fact = .returned e .interrupted left →
            m'.bound.holder = some n.thread ∧
            e < m'.epoch ∧
            ∃ x ∈ waits (ns ++ ns'),
              x.thread = n.thread ∧ x.epoch = e ∧
                x.returned = some .interrupted := by
  have hSound := hReaches.sound
  have hSuccession := hReaches.succession
  have hEpoch : m.epoch = m.current :=
    hSound.orderly.epochs _ (Nat.le_refl _)
  have hReplaced : replacedEpochs ns = List.range m.epoch := by
    rw [hEpoch]
    exact hSuccession.replaced
  refine
    ⟨?_, hReplaced,
      fun t taken hPhase =>
        hSound.orderly.step_of_closing hPhase,
      ?_, hSound.closures.replaced, ?_, ?_⟩
  · intro hNobody
    refine ⟨hSound.current_open hNobody, ?_, ?_⟩
    · rw [hReplaced, List.length_range]
    · intro g hLt hPast
      exact hSuccession.past hSound.orderly hLt hPast
  · intro t taken g r hPhase
    have hRetiring := standings_of_phase hPhase
    exact hSound.orderly.fits t _ hRetiring
  · intro t a g hPhase
    have hDoor := standings_of_phase hPhase
    exact hSound.orderly.open_of_door hDoor
  · intro l m' ns' hStep
    cases steps_of_step hStep with
    | join => exact ⟨nofun, nofun⟩
    | tick hLater => exact ⟨nofun, nofun⟩
    | move hPhase hMoves =>
        constructor
        · intro n hMem e hFact
          rcases List.mem_map.mp hMem with ⟨f, hThere, rfl⟩
          subst hFact
          exact
            hSound.orderly.registered_moves_current hPhase
              hMoves hThere
        · intro n hMem e left hFact
          rcases List.mem_map.mp hMem with ⟨f, hThere, rfl⟩
          subst hFact
          have hReturned :=
            hSound.returned_interrupted hPhase hMoves hThere
          exact hReturned

/-
  Two threads interrupt at the same time while a third one is
  parked.  It has the lock back two epochs later.
-/
theorem epochs_succeed_two_interrupts :
    ∃ (m m' : Machine Unit) (ns ns' : List Note),
      (fresh .standard () ()).Reaches ns m ∧
        m.step (.advance 0) = some (m', ns') ∧
        (∀ t ph,
          m.bound.holder = some t →
            m.threads[t]? = some ph →
              ph.isInterrupting = false) ∧
        (m.cohort m.current).closed = false ∧
        m.epoch = 2 ∧
        m.epoch = (replacedEpochs ns).length ∧
        (m.cohort 0).closed = true ∧
        (closedEpochs ns).count 0 = 1 ∧
        m'.bound.holder = some 0 ∧
        0 < m'.epoch := by
  have hRuns :
      ∃ (m m' : Machine Unit) (ns ns' : List Note),
        (fresh .standard () ()).run
            [.join, .join, .join, .acquire 0 .bound,
              .call 0 .bound .wait, .advance 0, .advance 0,
              .advance 0, .advance 0, .advance 0,
              .interrupt 1, .interrupt 2, .advance 2,
              .advance 2, .advance 2, .advance 0, .advance 2,
              .advance 1, .advance 1, .advance 0, .advance 1,
              .advance 1, .advance 0] =
          some (m, ns) ∧
        m.step (.advance 0) = some (m', ns') ∧
        m.bound.holder = some 0 ∧
        m.threads[0]?.map Phase.isInterrupting =
          some false ∧
        m.epoch = 2 ∧
        0 < m.cohorts.length ∧
        (m.cohort 0).epoch = 0 ∧
        ⟨0, ⟨0⟩, .returned 0 .interrupted none⟩ ∈ ns' :=
    ⟨_, _, _, _, rfl, rfl, rfl, rfl, rfl, by decide, rfl,
      List.mem_cons_self⟩
  rcases hRuns with
    ⟨m, m', ns, ns', hRun, hStep, hHolder, hPhase, hEpoch,
      hLength, hFirst, hReturned⟩
  have hReaches := Reaches.of_run .refl hRun
  rcases epochs_succeed hReaches with
    ⟨hCurrent, _, _, _, _, _, hNext⟩
  have hNobody :
      ∀ t ph,
        m.bound.holder = some t →
          m.threads[t]? = some ph →
            ph.isInterrupting = false := by
    intro t ph hTheirs hThere
    rw [hHolder] at hTheirs
    cases hTheirs
    rw [hThere] at hPhase
    exact Option.some.inj hPhase
  rcases hCurrent hNobody with ⟨hOpen, hCount, hPast⟩
  have hOld : (m.cohort 0).epoch < m.epoch := by
    rw [hFirst, hEpoch]
    exact Nat.two_pos
  rcases hPast 0 hLength hOld with ⟨hClosed, _, hOnce⟩
  rw [hFirst] at hOnce
  rcases (hNext _ _ _ hStep).2 _ hReturned _ _ rfl with
    ⟨hMine, hLater, _⟩
  exact
    ⟨m, m', _, ns', hReaches, hStep, hNobody, hOpen, hEpoch,
      hCount, hClosed, hOnce, hMine, hLater⟩

end Machine

end CondVar
