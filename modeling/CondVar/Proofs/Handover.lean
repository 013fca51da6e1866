import CondVar.Proofs.Clients
import CondVar.Proofs.Epochs
import CondVar.Proofs.Permits
import CondVar.Proofs.Signals

/-
  No item gets stuck.

  A producer adds an item with the lock held, and before it
  releases the lock it posts.  If every consumer is registered
  by then, the post leaves a permit unless there is one
  already, and a permit goes only to a consumer that is no
  longer registered afterwards.  A consumer registers only
  when there is no item.  So while there are items and nobody
  has the lock, a consumer is about or a permit is there.

  Main declarations:
    * `Handoff.Tidy`
    * `Handoff.Watched`
    * `Handoff.Due`
    * `Handoff.Covered`
    * `Handoff.Covered.steps`
    * `Handoff.no_item_stuck`
-/

namespace CondVar

------------------------------------------------------------
-- Errands
------------------------------------------------------------

namespace Duty

/- Whether a producer has the lock. -/
def holdsLock : Duty → Bool
| .stocking => true
| .calling => true
| .leaving => true
| _ => false

end Duty

namespace Machine

/- An errand leaves its thread where its duty allows. -/
theorem Errand.allows
    {m rest : Machine Nat}
    {t : Nat}
    {d d' : Duty}
    {ph ph' : Phase Nat}
    (hErrand : m.Errand t d d' ph ph' rest) :
    d'.allows ph' = true := by
  cases hErrand with
  | waits hNone hPlain => exact hPlain
  | goes hDuty hAllows hValue hHolder hStays => exact hAllows
  | _ => rfl

/- Only the holder of the lock changes the stock. -/
theorem Errand.value_or_held
    {m rest : Machine Nat}
    {t : Nat}
    {d d' : Duty}
    {ph ph' : Phase Nat}
    (hErrand : m.Errand t d d' ph ph' rest) :
    rest.bound.value = m.bound.value ∨
      m.bound.holder = some t := by
  cases hErrand with
  | stocks hHeld => exact Or.inr hHeld
  | consumes hHeld hStock => exact Or.inr hHeld
  | goes hDuty hAllows hValue hHolder hStays =>
      exact Or.inl hValue
  | _ => exact Or.inl rfl

/- A consumer stays one, and nobody becomes one. -/
theorem Errand.consuming_iff
    {m rest : Machine Nat}
    {t : Nat}
    {d d' : Duty}
    {ph ph' : Phase Nat}
    (hErrand : m.Errand t d d' ph ph' rest) :
    d' = .consuming ↔ d = .consuming := by
  cases hErrand with
  | goes hDuty hAllows hValue hHolder hStays => exact Iff.rfl
  | consumes hHeld hStock => exact Iff.rfl
  | waits hNone hPlain => exact Iff.rfl
  | _ => exact ⟨nofun, nofun⟩

/- A producer that has the lock after an errand has it. -/
theorem Errand.held
    {m rest : Machine Nat}
    {t : Nat}
    {d d' : Duty}
    {ph ph' : Phase Nat}
    (hErrand : m.Errand t d d' ph ph' rest)
    (hBefore :
      d.holdsLock = true → m.bound.holder = some t)
    (hHolds : d'.holdsLock = true) :
    rest.bound.holder = some t := by
  cases hErrand with
  | takes => rfl
  | stocks hHeld => exact hHeld
  | calls => exact hBefore rfl
  | goes hDuty hAllows hValue hHolder hStays =>
      rcases hDuty with rfl | rfl | rfl
      · exact (hHolder rfl).trans (hBefore rfl)
      · cases hHolds
      · cases hHolds
  | _ => cases hHolds

/- A consumer begins to wait only when there is no item. -/
theorem Errand.value_of_inside
    {m rest : Machine Nat}
    {t : Nat}
    {d : Duty}
    {ph ph' : Phase Nat}
    (hErrand : m.Errand t d .consuming ph ph' rest)
    (hInside : ph'.standing = .inside) :
    rest.bound.value = 0 := by
  cases hErrand with
  | consumes hHeld hStock => cases hInside
  | waits hNone hPlain => exact hNone
  | goes hDuty hAllows hValue hHolder hStays =>
      exact absurd hInside (hStays rfl)

/- A thread registers only on its way into a wait. -/
theorem Moves.registered_before
    {V : Type}
    {m rest : Machine V}
    {t g : Nat}
    {ph ph' : Phase V}
    {facts : List Fact}
    (hMoves : m.Moves t ph ph' facts rest)
    (hRegistered : ph'.standing.isRegistered g = true) :
    ph.standing.isRegistered g = true ∨
      ph.standing = .inside := by
  have hFree :
      ∀ {s : Standing},
        s.isFree = true →
          s.isRegistered g = true → False := by
    intro s hFree hIs
    rw [Standing.isRegistered_of_isFree g hFree] at hIs
    cases hIs
  have hShift := hMoves.shift
  generalize ph.standing = s at *
  generalize ph'.standing = s' at *
  generalize rest.cohorts = cohorts' at hShift
  generalize rest.current = current' at hShift
  cases hShift with
  | stand hOther hFacts => exact Or.inl hRegistered
  | turn _ hFree' hFacts =>
      exact (hFree hFree' hRegistered).elim
  | enroll => exact Or.inr rfl
  | count => exact Or.inl hRegistered
  | depart => exact Or.inl hRegistered
  | stay => exact Or.inl hRegistered
  | park hOpen hNone => exact Or.inl hRegistered
  | leave hFree' hFacts =>
      exact (hFree hFree' hRegistered).elim
  | _ => cases hRegistered

/- Only a thread that watches its cohort is settled. -/
theorem Moves.watching_of_settled
    {V : Type}
    {m rest : Machine V}
    {t e : Nat}
    {ph ph' : Phase V}
    {facts : List Fact}
    {o : Outcome}
    (hMoves : m.Moves t ph ph' facts rest)
    (hSettled : Fact.settled e o ∈ facts) :
    ∃ a g v,
      ph = .watching a g v ∧ ph'.standing = .ended g o := by
  have hTurn :
      ∀ {next : Turn V}, Fact.settled e o ∉ next.facts := by
    intro next hMem
    rcases Turn.finished_of_mem_facts hMem with ⟨_, hEq⟩
    cases hEq
  cases hMoves with
  | settle hLook =>
      cases List.mem_singleton.mp hSettled
      exact ⟨_, _, _, rfl, rfl⟩
  | judge =>
      rcases List.mem_cons.mp hSettled with hHead | hMem
      · cases hHead
      · exact absurd hMem hTurn
  | resume hCounted =>
      rcases List.mem_cons.mp hSettled with hHead | hMem
      · cases hHead
      · exact absurd hMem hTurn
  | @park a g v v' wakeAt stalled hLook =>
      cases stalled <;> simp at hSettled
  | _ => simp at hSettled

end Machine

------------------------------------------------------------
-- Tidy Handoffs
------------------------------------------------------------

namespace Handoff

/-
  `aligned`: every thread is up to something.  `allowed`: it
  is in a phase for that.  `held`: a producer with the lock
  has it.  `emptied`: a consumer that is about to register has
  found no item.  `manned`: there is a consumer.
-/
structure Tidy (h : Handoff) : Prop where
  aligned : h.duties.length = h.machine.threads.length
  allowed : h.Allowed
  held :
    ∀ (t : Nat) (d : Duty),
      h.duties[t]? = some d →
        d.holdsLock = true →
          h.machine.bound.holder = some t
  emptied :
    ∀ t : Nat,
      h.duties[t]? = some .consuming →
        h.machine.standings[t]? = some .inside →
          h.stock = 0
  manned : ∃ t : Nat, h.duties[t]? = some .consuming

/- Every step keeps a handoff tidy. -/
theorem Tidy.steps
    {h h' : Handoff}
    {ns : List Note}
    (hTidy : h.Tidy)
    (hLocked : h.machine.Locked)
    (hSteps : h.Steps h' ns) :
    h'.Tidy := by
  cases hSteps with
  | tick hLater =>
      exact
        ⟨hTidy.aligned, hTidy.allowed, hTidy.held,
          hTidy.emptied, hTidy.manned⟩
  | @move m' t d d' added taken ns ph ph' facts rest hDuty
      hRuns =>
      rcases hRuns with
        ⟨hPhase, hMoves, hErrand, rfl, rfl, hStock⟩
      have hStanding := Machine.standings_of_phase hPhase
      have hHolder :=
        hMoves.holder_spec (hLocked t _ hStanding)
      constructor
      · rw [List.length_set, hMoves.length_threads]
        exact hTidy.aligned
      · intro u x y hHis hThere
        rcases getElem?_set_cases hHis with
          ⟨rfl, rfl⟩ | ⟨hOther, hOld⟩
        · rw [hMoves.phase_self hPhase] at hThere
          cases hThere
          exact hErrand.allows
        · rcases hMoves.phase_other hOther hThere with
            ⟨z, hWas, rfl | ⟨g, rfl⟩⟩
          · exact hTidy.allowed u x _ hOld hWas
          · rw [Duty.allows_wake]
            exact hTidy.allowed u x z hOld hWas
      · intro u x hHis hHolds
        rcases getElem?_set_cases hHis with
          ⟨rfl, rfl⟩ | ⟨hOther, hOld⟩
        · exact hErrand.held (hTidy.held u d hDuty) hHolds
        · exact
            (hHolder.2 u hOther).mpr
              (hTidy.held u x hOld hHolds)
      · intro u hHis hInside
        rcases getElem?_set_cases hHis with
          ⟨rfl, rfl⟩ | ⟨hOther, hOld⟩
        · rw [hMoves.standing_self hPhase] at hInside
          exact
            hErrand.value_of_inside (Option.some.inj hInside)
        · rw [hMoves.standing_other hOther] at hInside
          have hNone := hTidy.emptied u hOld hInside
          rcases hErrand.value_or_held with hSame | hMine
          · exact hSame.trans hNone
          · -- Whoever is about to register has the lock.
            have hTheirs := hLocked u _ hInside rfl
            rw [hMine] at hTheirs
            exact absurd (Option.some.inj hTheirs).symm hOther
      · rcases hTidy.manned with ⟨u, hConsumer⟩
        refine ⟨u, ?_⟩
        by_cases hMine : u = t
        · subst hMine
          rw [hDuty] at hConsumer
          have hStill :=
            hErrand.consuming_iff.mpr (Option.some.inj hConsumer)
          subst hStill
          rcases List.getElem?_eq_some_iff.mp hDuty with
            ⟨hLt, _⟩
          exact List.getElem?_set_self hLt
        · rw [List.getElem?_set_ne (Ne.symm hMine)]
          exact hConsumer

/- What was there and what was added is there or was taken. -/
theorem Steps.balance
    {h h' : Handoff}
    {ns : List Note}
    (hSteps : h.Steps h' ns) :
    h'.produced + (h.stock + h.consumed) =
      h.produced + (h'.stock + h'.consumed) := by
  cases hSteps with
  | tick hLater => rfl
  | @move m' t d d' added taken ns ph ph' facts rest hDuty
      hRuns =>
      have hStock := hRuns.stock
      have hAfter : m'.bound.value = rest.bound.value := by
        rw [hRuns.after]
        rfl
      change
        h.produced + added +
            (h.machine.bound.value + h.consumed) =
          h.produced + (m'.bound.value + (h.consumed + taken))
      omega

------------------------------------------------------------
-- Covered Handoffs
------------------------------------------------------------

/- Every consumer is registered with the current cohort. -/
def Watched (h : Handoff) : Prop :=
  ∀ t : Nat,
    h.duties[t]? = some .consuming →
      ∃ s,
        h.machine.standings[t]? = some s ∧
          s.isRegistered h.machine.current = true

/-
  A consumer is to be signaled: a permit is there, or a
  producer that has the lock is about to leave one.
-/
inductive Due (h : Handoff) : Prop where
| permit
    (hPermits :
      0 < (h.machine.cohort h.machine.current).permits)
| calling {t : Nat}
    (hDuty : h.duties[t]? = some .calling)
| posting {t g : Nat}
    (hDuty : h.duties[t]? = some .leaving)
    (hStanding :
      h.machine.standings[t]? = some (.signaling g))

/-
  If there are items and every consumer is registered, then
  one of them is to be signaled.
-/
def Covered (h : Handoff) : Prop :=
  0 < h.stock → h.Watched → h.Due

/- If every consumer is registered, somebody is. -/
theorem Watched.registered_pos
    {h : Handoff}
    (hWatched : h.Watched)
    (hCensus : h.machine.Census)
    (hManned : ∃ t : Nat, h.duties[t]? = some .consuming) :
    0 <
      (h.machine.cohort h.machine.current).registered := by
  rcases hManned with ⟨t, hConsumer⟩
  rcases hWatched t hConsumer with ⟨s, hStanding, hIs⟩
  exact hCensus.registered_pos hStanding hIs

/-
  Consumers that are all registered after a move of a thread,
  with items in stock, were so before, with the same cohort.
-/
theorem Watched.before
    {h : Handoff}
    {past ns : List Note}
    {m' : Machine Nat}
    {t : Nat}
    {d d' : Duty}
    {added taken p c : Nat}
    {ph ph' : Phase Nat}
    {facts : List Fact}
    {rest : Machine Nat}
    (hWatched : Watched ⟨m', h.duties.set t d', p, c⟩)
    (hTidy : h.Tidy)
    (hSound : Machine.Sound past h.machine)
    (hDuty : h.duties[t]? = some d)
    (hRuns :
      h.machine.Runs m' t d d' added taken ns ph ph' facts
        rest)
    (hManned :
      ∃ u : Nat, (h.duties.set t d')[u]? = some .consuming)
    (hStock : 0 < h.stock) :
    rest.current = h.machine.current ∧ h.Watched := by
  rcases hRuns with
    ⟨hPhase, hMoves, hErrand, rfl, rfl, _⟩
  -- Nobody is registered with a cohort that is new.
  have hCurrent : rest.current = h.machine.current := by
    have hEra := hSound.orderly.era hPhase hMoves
    have hSound' :=
      hSound.steps (.move hPhase hMoves)
    have hSome :=
      hWatched.registered_pos hSound'.census hManned
    generalize ph.standing = s at hEra
    generalize ph'.standing = s' at hEra
    cases hEra with
    | lasts hSame hFits hStays hFacts => exact hSame.current
    | closes hOpen hCurrent hCohorts => exact hCurrent
    | renews hClosed hCurrent hCohorts =>
        change 0 < (rest.cohort rest.current).registered
          at hSome
        rw [hCurrent, hSound.orderly.cohort_renewed hCohorts]
          at hSome
        cases hSome
  refine ⟨hCurrent, ?_⟩
  intro u hConsumer
  by_cases hMine : u = t
  · subst hMine
    rw [hDuty] at hConsumer
    have hStill :=
      hErrand.consuming_iff.mpr (Option.some.inj hConsumer)
    subst hStill
    rcases List.getElem?_eq_some_iff.mp hDuty with ⟨hLt, _⟩
    rcases hWatched u (List.getElem?_set_self hLt) with
      ⟨s, hStanding, hIs⟩
    change
      (rest.setPhase u ph').standings[u]? = some s at hStanding
    change s.isRegistered rest.current = true at hIs
    rw [hMoves.standing_self hPhase] at hStanding
    rw [← Option.some.inj hStanding, hCurrent] at hIs
    have hBefore := Machine.standings_of_phase hPhase
    rcases hMoves.registered_before hIs with hWas | hInside
    · exact ⟨ph.standing, hBefore, hWas⟩
    · -- It would register although there are items.
      rw [hInside] at hBefore
      rw [Option.some.inj hConsumer] at hDuty
      rw [hTidy.emptied u hDuty hBefore] at hStock
      cases hStock
  · have hThen :=
      hWatched u
        ((List.getElem?_set_ne (Ne.symm hMine)).trans
          hConsumer)
    change
      ∃ s,
        (rest.setPhase t ph').standings[u]? = some s ∧
          s.isRegistered rest.current = true at hThen
    rw [hMoves.standing_other hMine, hCurrent] at hThen
    exact hThen

/-
  What is due stays due until a consumer that is signaled
  gets its outcome, and a producer that was to post has left
  a permit.
-/
theorem Due.after
    {h : Handoff}
    {past ns : List Note}
    {m' : Machine Nat}
    {t : Nat}
    {d d' : Duty}
    {added taken p c : Nat}
    {ph ph' : Phase Nat}
    {facts : List Fact}
    {rest : Machine Nat}
    (hDue : h.Due)
    (hTidy : h.Tidy)
    (hSound : Machine.Sound past h.machine)
    (hDuty : h.duties[t]? = some d)
    (hRuns :
      h.machine.Runs m' t d d' added taken ns ph ph' facts
        rest)
    (hWatched : h.Watched)
    (hStays :
      d = .consuming →
        ph'.standing.isRegistered h.machine.current = true)
    (hCurrent : rest.current = h.machine.current)
    (hNot : d ≠ .calling) :
    Due ⟨m', h.duties.set t d', p, c⟩ := by
  rcases hRuns with ⟨hPhase, hMoves, _, rfl, rfl, _⟩
  cases hDue with
  | permit hPermits =>
      apply Due.permit
      change 0 < (rest.cohort rest.current).permits
      rw [hCurrent]
      have hTrade :=
        hSound.orderly.trade hPhase hMoves h.machine.current
      cases hTrade with
      | none hSame hFacts =>
          rw [hSame]
          exact hPermits
      | leaves hOpen hLacks hMore =>
          rw [hMore]
          exact Nat.succ_pos _
      | takes hOpen hLess =>
          -- Only a consumer is settled, and it has left then.
          rcases
              hMoves.watching_of_settled List.mem_cons_self
            with ⟨a, g, v, rfl, hEnded⟩
          have hAllows := hTidy.allowed t d _ hDuty hPhase
          cases d with
          | consuming =>
              have hIs := hStays rfl
              rw [hEnded] at hIs
              cases hIs
          | _ => cases hAllows
  | @calling u hCalling =>
      have hOther : u ≠ t := by
        rintro rfl
        rw [hDuty] at hCalling
        exact hNot (Option.some.inj hCalling)
      exact
        .calling
          ((List.getElem?_set_ne hOther.symm).trans hCalling)
  | @posting u g hLeaving hStanding =>
      by_cases hMine : u = t
      · subst hMine
        have hPoised : h.machine.Poised u g :=
          ⟨hStanding, hTidy.held u _ hLeaving rfl⟩
        have hSame := hPoised.current hSound.orderly
        have hSome :=
          hWatched.registered_pos hSound.census hTidy.manned
        rw [← hSame] at hSome
        apply Due.permit
        change 0 < (rest.cohort rest.current).permits
        rw [hCurrent, ← hSame]
        exact
          (hPoised.moves hSound.orderly hSome hPhase hMoves).2.2
      · refine
          .posting
            ((List.getElem?_set_ne (Ne.symm hMine)).trans
              hLeaving)
            (g := g) ?_
        change (rest.setPhase t ph').standings[u]? = _
        rw [hMoves.standing_other hMine]
        exact hStanding

/- Every step keeps the items covered. -/
theorem Covered.steps
    {h h' : Handoff}
    {past ns : List Note}
    (hCovered : h.Covered)
    (hTidy : h.Tidy)
    (hSound : Machine.Sound past h.machine)
    (hSteps : h.Steps h' ns) :
    h'.Covered := by
  have hTidy' := hTidy.steps hSound.orderly.locked hSteps
  intro hStock hWatched
  cases hSteps with
  | tick hLater =>
      cases hCovered hStock hWatched with
      | permit hPermits => exact .permit hPermits
      | calling hDuty => exact .calling hDuty
      | posting hDuty hStanding =>
          exact .posting hDuty hStanding
  | @move m' t d d' added taken ns ph ph' facts rest hDuty
      hRuns =>
      have hAll := hRuns
      rcases hRuns with
        ⟨hPhase, hMoves, hErrand, rfl, rfl, _⟩
      rcases List.getElem?_eq_some_iff.mp hDuty with ⟨hLt, _⟩
      -- A consumer that has moved is registered all the same.
      have hMover :
          d' = .consuming →
            ph'.standing.isRegistered rest.current = true := by
        rintro rfl
        rcases hWatched t (List.getElem?_set_self hLt) with
          ⟨s, hStanding, hIs⟩
        change
          (rest.setPhase t ph').standings[t]? = some s
          at hStanding
        rw [hMoves.standing_self hPhase] at hStanding
        rw [Option.some.inj hStanding]
        exact hIs
      have hKept :
          d ≠ .calling →
            rest.bound.value = h.machine.bound.value →
              Due
                ⟨rest.setPhase t ph', h.duties.set t d',
                  h.produced + added, h.consumed + taken⟩ := by
        intro hNot hValue
        have hSome : 0 < h.stock := by
          change 0 < rest.bound.value at hStock
          rw [hValue] at hStock
          exact hStock
        rcases
            hWatched.before hTidy hSound hDuty hAll
              hTidy'.manned hSome with
          ⟨hCurrent, hBefore⟩
        rw [hCurrent] at hMover
        exact
          (hCovered hSome hBefore).after hTidy hSound hDuty
            hAll hBefore
            (fun hIs =>
              hMover (hErrand.consuming_iff.mpr hIs))
            hCurrent hNot
      cases hErrand with
      | takes => exact hKept nofun rfl
      | stocks hHeld =>
          exact .calling (List.getElem?_set_self hLt)
      | calls =>
          exact
            .posting (List.getElem?_set_self hLt)
              (hMoves.standing_self hPhase)
      | leaves => exact hKept nofun rfl
      | consumes hHeld hSome => cases hMover rfl
      | waits hNone hPlain => cases hMover rfl
      | goes hWhich hAllows hValue hHolder hStays =>
          apply hKept ?_ hValue
          rintro rfl
          rcases hWhich with hIs | hIs | hIs <;> cases hIs

------------------------------------------------------------
-- The Beginning
------------------------------------------------------------

/- Threads that join a fresh machine are idle. -/
theorem reaches_joined
    (s : Settings)
    (stock : Nat)
    (n : Nat) :
    (Machine.fresh s stock 0).Reaches []
      { Machine.fresh s stock 0 with
        threads := .replicate n .idle } := by
  induction n with
  | zero => exact .refl
  | succ n ih =>
      have hJoin := ih.step (l := .join) rfl
      rw [List.replicate_succ']
      exact hJoin

/- In the beginning nobody is up to anything with the lock. -/
theorem duty_fresh
    {s : Settings}
    {stock producers consumers minders : Nat}
    {t : Nat}
    {d : Duty}
    (hDuty :
      (fresh s stock producers consumers minders).duties[t]? =
        some d) :
    d.holdsLock = false := by
  have hMem := List.mem_of_getElem? hDuty
  rcases List.mem_append.mp hMem with hMem | hMinder
  · rcases List.mem_append.mp hMem with hProducer | hConsumer
    · rw [List.eq_of_mem_replicate hProducer]
      rfl
    · rw [List.eq_of_mem_replicate hConsumer]
      rfl
  · rw [List.eq_of_mem_replicate hMinder]
    rfl

/- In the beginning every thread is idle. -/
theorem phase_fresh
    {s : Settings}
    {stock producers consumers minders : Nat}
    {t : Nat}
    {ph : Phase Nat}
    (hPhase :
      (fresh s stock producers consumers
          minders).machine.threads[t]? =
        some ph) :
    ph = .idle :=
  List.eq_of_mem_replicate (List.mem_of_getElem? hPhase)

/- A handoff with consumers is tidy in the beginning. -/
theorem tidy_fresh
    (s : Settings)
    (stock producers minders : Nat)
    {consumers : Nat}
    (hSome : 0 < consumers) :
    (fresh s stock producers consumers minders).Tidy where
  aligned := by
    simp [fresh, Nat.add_assoc]
  allowed := by
    intro t d ph hDuty hPhase
    rw [phase_fresh hPhase]
    exact d.allows_idle
  held := by
    intro t d hDuty hHolds
    rw [duty_fresh hDuty] at hHolds
    cases hHolds
  emptied := by
    intro t hDuty hInside
    rcases Machine.phase_of_standing hInside with
      ⟨ph, hPhase, hStanding⟩
    rw [phase_fresh hPhase] at hStanding
    cases hStanding
  manned := by
    have hMem :
        Duty.consuming ∈
          (fresh s stock producers consumers
            minders).duties := by
      apply List.mem_append_left
      apply List.mem_append_right
      exact
        List.mem_replicate.mpr ⟨Nat.ne_of_gt hSome, rfl⟩
    exact List.getElem?_of_mem hMem

/- In the beginning the consumers are about. -/
theorem covered_fresh
    (s : Settings)
    (stock producers minders : Nat)
    {consumers : Nat}
    (hSome : 0 < consumers) :
    (fresh s stock producers consumers minders).Covered := by
  intro _ hWatched
  rcases (tidy_fresh s stock producers minders hSome).manned
    with ⟨t, hConsumer⟩
  rcases hWatched t hConsumer with ⟨st, hStanding, hIs⟩
  rcases Machine.phase_of_standing hStanding with
    ⟨ph, hPhase, rfl⟩
  rw [phase_fresh hPhase] at hIs
  cases hIs

/- What a run of labels arrives at is reached. -/
theorem Reaches.of_run
    {h h' h'' : Handoff}
    {past ns : List Note}
    {ls : List (Label Nat)}
    (hReaches : h.Reaches past h')
    (hRun : h'.run ls = some (h'', ns)) :
    h.Reaches (past ++ ns) h'' := by
  induction ls generalizing h' past ns with
  | nil =>
      cases hRun
      rw [List.append_nil]
      exact hReaches
  | cons l ls ih =>
      rcases Option.bind_eq_some_iff.mp hRun with
        ⟨⟨m, ns₁⟩, hStep, hRun⟩
      rcases Option.bind_eq_some_iff.mp hRun with
        ⟨⟨m', ns₂⟩, hRest, hEq⟩
      cases hEq
      rw [← List.append_assoc]
      exact ih (hReaches.step hStep) hRest

/- What holds of a handoff and its history all the time. -/
structure Served
    (start : Nat)
    (ns : List Note)
    (h : Handoff) : Prop where
  sound : Machine.Sound ns h.machine
  succession : Machine.Succession ns h.machine
  tidy : h.Tidy
  covered : h.Covered
  balance : start + h.produced = h.stock + h.consumed

/- Wherever a handoff with consumers gets, all this holds. -/
theorem Reaches.served
    {s : Settings}
    {stock producers consumers minders : Nat}
    {h : Handoff}
    {ns : List Note}
    (hSome : 0 < consumers)
    (hReaches :
      (fresh s stock producers consumers minders).Reaches ns
        h) :
    Served stock ns h := by
  induction hReaches with
  | refl =>
      have hJoined := reaches_joined s stock
      exact
        { sound := (hJoined _).sound
          succession := (hJoined _).succession
          tidy := tidy_fresh s stock producers minders hSome
          covered :=
            covered_fresh s stock producers minders hSome
          balance := rfl }
  | @step h h' past ns l _ hStep ih =>
      have hSteps := steps_of_step ih.tidy.allowed hStep
      have hOrderly := ih.sound.orderly
      refine
        { sound := ih.sound.steps hSteps.machine
          succession :=
            ih.succession.steps hOrderly hSteps.machine
          tidy := ih.tidy.steps hOrderly.locked hSteps
          covered := ih.covered.steps ih.tidy ih.sound hSteps
          balance := ?_ }
      have hItems := hSteps.balance
      have hBefore := ih.balance
      omega

------------------------------------------------------------
-- No Item Gets Stuck
------------------------------------------------------------

/-
  While no producer has the lock, a consumer is to be
  signaled only by a permit.
-/
theorem Due.permits_pos
    {h : Handoff}
    (hDue : h.Due)
    (hNobody :
      ∀ (t : Nat) (d : Duty),
        h.duties[t]? = some d → d.holdsLock = false) :
    0 < (h.machine.cohort h.machine.current).permits := by
  cases hDue with
  | permit hPermits => exact hPermits
  | calling hDuty => cases hNobody _ _ hDuty
  | posting hDuty hStanding => cases hNobody _ _ hDuty

/-
  Without interrupts, whoever is registered with any cohort is
  registered with the current one.
-/
theorem Served.registered_current
    {start : Nat}
    {ns : List Note}
    {h : Handoff}
    {t g : Nat}
    {s : Standing}
    (hServed : Served start ns h)
    (hNone : ∀ n ∈ ns, ∀ e r, n.fact ≠ .interrupted e r)
    (hStanding : h.machine.standings[t]? = some s)
    (hIs : s.isRegistered g = true) :
    g = h.machine.current := by
  have hReplaced := hServed.succession.replaced
  have hFirst : replacedEpochs ns = [] := by
    apply List.filterMap_eq_nil_iff.mpr
    intro n hMem
    have hNot := hNone n hMem
    cases hFact : n.fact with
    | interrupted e r => exact absurd hFact (hNot e r)
    | _ => rfl
  rw [hFirst] at hReplaced
  have hZero := congrArg List.length hReplaced.symm
  rw [List.length_range] at hZero
  have hLe :=
    hServed.sound.orderly.le_current_of_registered hStanding hIs
  change h.machine.current = 0 at hZero
  omega

/-
  However producers and consumers take their steps, and
  whoever signals and interrupts besides: what was in stock
  and what was produced is in stock or was consumed.  While
  nobody has the lock and there are items, some consumer is
  not registered with the current cohort, or that has a
  permit.  So if all producers are through, all consumers are
  registered there, and there is no permit, then there is no
  item either, and all were consumed.  Without interrupts, a
  consumer that is not registered with the current cohort is
  not registered at all.
-/
theorem no_item_stuck
    {s : Settings}
    {start producers consumers minders : Nat}
    {h : Handoff}
    {ns : List Note}
    (hSome : 0 < consumers)
    (hReaches :
      (fresh s start producers consumers minders).Reaches ns
        h) :
    start + h.produced = h.stock + h.consumed ∧
    (h.machine.bound.holder = none →
      0 < h.stock →
        (∃ (t : Nat) (st : Standing),
          h.duties[t]? = some .consuming ∧
            h.machine.standings[t]? = some st ∧
            st.isRegistered h.machine.current = false) ∨
        0 < (h.machine.cohort h.machine.current).permits) ∧
    ((∀ d ∈ h.duties, d.isProducer = true → d = .resting) →
      h.Watched →
        (h.machine.cohort h.machine.current).permits = 0 →
          h.stock = 0 ∧ h.consumed = start + h.produced) ∧
    ((∀ n ∈ ns, ∀ e r, n.fact ≠ .interrupted e r) →
      ∀ (t : Nat) (st : Standing) g,
        h.machine.standings[t]? = some st →
          st.isRegistered g = true →
            g = h.machine.current) := by
  have hServed := hReaches.served hSome
  have hBalance := hServed.balance
  refine
    ⟨hBalance, ?_, ?_,
      fun hNone t st g hStanding hIs =>
        hServed.registered_current hNone hStanding hIs⟩
  · intro hFree hStock
    by_cases hWatched : h.Watched
    · apply Or.inr
      apply (hServed.covered hStock hWatched).permits_pos
      intro t d hDuty
      cases hHolds : d.holdsLock with
      | false => rfl
      | true =>
          have hHeld := hServed.tidy.held t d hDuty hHolds
          rw [hFree] at hHeld
          cases hHeld
    · apply Or.inl
      unfold Watched at hWatched
      simp only [not_forall] at hWatched
      rcases hWatched with ⟨t, hConsumer, hNot⟩
      rcases List.getElem?_eq_some_iff.mp hConsumer with
        ⟨hLt, _⟩
      rw [hServed.tidy.aligned] at hLt
      have hStanding :=
        Machine.standings_of_phase
          (List.getElem?_eq_getElem hLt)
      refine ⟨t, _, hConsumer, hStanding, ?_⟩
      apply Bool.eq_false_iff.mpr
      intro hIs
      exact hNot ⟨_, hStanding, hIs⟩
  · intro hThrough hWatched hNone
    have hEmpty : h.stock = 0 := by
      apply Nat.eq_zero_of_not_pos
      intro hStock
      have hDue := hServed.covered hStock hWatched
      have hPermits : 0 < _ := hDue.permits_pos ?_
      · rw [hNone] at hPermits
        cases hPermits
      · intro t d hDuty
        have hRests := hThrough d (List.mem_of_getElem? hDuty)
        cases d <;> first | rfl | cases hRests rfl
    omega

/-
  A consumer waits, a producer adds an item and leaves a
  permit, and the consumer takes the item and waits again.
-/
theorem no_item_stuck_one_item :
    ∃ (h h' : Handoff) (ns ns' : List Note),
      (fresh .standard 0 1 1 0).Reaches ns h ∧
        h.machine.bound.holder = none ∧
        h.stock = 1 ∧
        h.machine.standings = [.away, .waiting 0] ∧
        0 < (h.machine.cohort h.machine.current).permits ∧
        (fresh .standard 0 1 1 0).Reaches ns' h' ∧
        h'.machine.standings = [.away, .waiting 0] ∧
        h'.stock = 0 ∧
        h'.produced = 1 ∧
        h'.consumed = 0 + h'.produced := by
  have hRuns :
      ∃ (h h' : Handoff) (ns ns' : List Note),
        (fresh .standard 0 1 1 0).run
            [.acquire 1 .bound, .call 1 .bound .wait,
              .advance 1, .advance 1, .advance 1, .advance 1,
              .acquire 0 .bound, .write 0 .bound 1, .signal 0,
              .advance 0, .notify 0 none,
              .release 0 .bound] =
          some (h, ns) ∧
        h.run
            [.advance 1, .advance 1, .advance 1, .advance 1,
              .write 1 .bound 0, .call 1 .bound .wait,
              .advance 1, .advance 1, .advance 1] =
          some (h', ns') ∧
        h.machine.bound.holder = none ∧
        h.stock = 1 ∧
        h.machine.current = 0 ∧
        h.duties = [.resting, .consuming] ∧
        h.machine.standings = [.away, .waiting 0] ∧
        h'.machine.current = 0 ∧
        h'.duties = [.resting, .consuming] ∧
        h'.machine.standings = [.away, .waiting 0] ∧
        (h'.machine.cohort h'.machine.current).permits = 0 ∧
        h'.produced = 1 :=
    ⟨_, _, _, _, rfl, rfl, rfl, rfl, rfl, rfl, rfl, rfl, rfl,
      rfl, rfl, rfl⟩
  rcases hRuns with
    ⟨h, h', ns, ns', hRun, hOn, hFree, hStock, hCurrent,
      hDuties, hStandings, hCurrent', hDuties', hStandings',
      hNone, hProduced⟩
  have hReaches := Reaches.of_run .refl hRun
  have hReaches' := Reaches.of_run hReaches hOn
  rcases no_item_stuck Nat.one_pos hReaches with
    ⟨_, hCovered, _, _⟩
  rcases no_item_stuck Nat.one_pos hReaches' with
    ⟨_, _, hThrough, _⟩
  have hPermits :
      0 < (h.machine.cohort h.machine.current).permits := by
    rcases hCovered hFree (by rw [hStock]; exact Nat.one_pos)
      with ⟨t, st, hDuty, hStanding, hNot⟩ | hPermits
    · rw [hDuties] at hDuty
      rw [hStandings] at hStanding
      rw [hCurrent] at hNot
      match t with
      | 0 => cases hDuty
      | 1 =>
          cases hStanding
          cases hNot
      | t + 2 => cases hDuty
    · exact hPermits
  have hWatched : h'.Watched := by
    intro t hDuty
    rw [hDuties'] at hDuty
    rw [hStandings', hCurrent']
    match t with
    | 0 => cases hDuty
    | 1 => exact ⟨.waiting 0, rfl, rfl⟩
    | t + 2 => cases hDuty
  have hResting :
      ∀ d ∈ h'.duties, d.isProducer = true → d = .resting := by
    rw [hDuties']
    decide
  rcases hThrough hResting hWatched hNone with
    ⟨hEmpty, hConsumed⟩
  exact
    ⟨h, h', _, _, hReaches, hFree, hStock, hStandings,
      hPermits, hReaches', hStandings', hEmpty, hProduced,
      hConsumed⟩

end Handoff

end CondVar
