import CondVar.Proofs.Interrupts
import CondVar.Proofs.Pursuit
import CondVar.Proofs.Readings

/-
  A log is a faithful history.

  An interrupt and a registration are logged with the lock
  held, so that the log tells them in the order in which they
  are, and a return is logged in the very step that ends the
  wait.  What is read in a log is therefore what was: which
  epochs there were, who waited in which of them, and what
  came of it.

  Main declarations:
    * `Dated`
    * `Machine.dated_of_moves`
    * `Machine.diary_of_moves`
    * `Machine.Reaches.recorded`
    * `Machine.Sound.woken_eq_pending`
    * `Machine.Sound.woken_add_settled`
    * `Machine.Orderly.logged`
    * `Machine.log_faithful`
-/

namespace CondVar

------------------------------------------------------------
-- Facts and Marks
------------------------------------------------------------

/- What is told of a wait is a fact of a wait. -/
theorem Fact.isOfWait_of_mark?
    {f : Fact}
    {x : Mark}
    (hMark : f.mark? = some x) :
    x.isOfWait = f.isOfWait := by
  cases f with
  | registered e =>
      cases hMark
      rfl
  | returned e o left =>
      cases hMark
      rfl
  | interrupted e r =>
      cases hMark
      rfl
  | _ => cases hMark

/- A registration is told of a registration only. -/
theorem Fact.eq_registered_of_mark?
    {f : Fact}
    {e : Nat}
    (hMark : f.mark? = some (.registered e)) :
    f = .registered e := by
  cases f with
  | registered e' =>
      cases hMark
      rfl
  | _ => cases hMark

/- A return is told of a return only. -/
theorem Fact.eq_returned_of_mark?
    {f : Fact}
    {o : Outcome}
    (hMark : f.mark? = some (.returned o)) :
    ∃ e left, f = .returned e o left := by
  cases f with
  | returned e o' left =>
      cases hMark
      exact ⟨e, left, rfl⟩
  | _ => cases hMark

/- What a step's log tells, is told of one of its facts. -/
theorem mem_readings_journal_map_iff
    {label : String}
    {facts : List Fact}
    {t u : Nat}
    {time : Instant}
    {x : Mark} :
    (u, x) ∈
        readings (journal label (facts.map (Note.mk t time))) ↔
      u = t ∧ ∃ f ∈ facts, f.mark? = some x := by
  rw [readings_journal_map, List.mem_map]
  constructor
  · rintro ⟨y, hMem, hSame⟩
    cases hSame
    exact ⟨rfl, List.mem_filterMap.mp hMem⟩
  · rintro ⟨rfl, hFact⟩
    exact ⟨x, List.mem_filterMap.mpr hFact, rfl⟩

/- Facts about no wait are told as lines about none. -/
theorem isOfWait_of_quiet
    {label : String}
    {facts : List Fact}
    {t : Nat}
    {time : Instant}
    (hQuiet : ∀ f ∈ facts, f.isOfWait = false) :
    ∀ x ∈
        readings (journal label (facts.map (Note.mk t time))),
      x.2.isOfWait = false := by
  rintro ⟨u, x⟩ hMem
  rcases mem_readings_journal_map_iff.mp hMem with
    ⟨_, f, hFact, hMark⟩
  rw [Fact.isOfWait_of_mark? hMark]
  exact hQuiet f hFact

------------------------------------------------------------
-- Dates
------------------------------------------------------------

/-
  Readings are dated if each registration in an epoch comes
  after the interrupts that ended the epochs before, and
  before all others.
-/
def Dated (rs : List (Nat × Mark)) : Prop :=
  ∀ before t e after,
    rs = before ++ (t, .registered e) :: after →
      (before.filterMap (fun x => x.2.interrupted?)).map
          Prod.fst =
        List.range e

/- A place in a longer list is in the old part or the new. -/
theorem append_eq_append_cons
    {α : Type}
    {xs ys before after : List α}
    {x : α}
    (hSplit : xs ++ ys = before ++ x :: after) :
    (∃ after', xs = before ++ x :: after') ∨
      ∃ before',
        before = xs ++ before' ∧
          ys = before' ++ x :: after := by
  rcases List.append_eq_append_iff.mp hSplit with
    ⟨before', hBefore, hNew⟩ | ⟨old, hOld, hRest⟩
  · exact Or.inr ⟨before', hBefore, hNew⟩
  · cases old with
    | nil =>
        rw [List.append_nil] at hOld
        rw [List.nil_append] at hRest
        refine Or.inr ⟨[], ?_, hRest.symm⟩
        rw [hOld, List.append_nil]
    | cons y old =>
        cases hRest
        exact Or.inl ⟨old, hOld⟩

namespace Machine

variable {V : Type}

/- To register is all that a thread does in its step. -/
theorem Orderly.registers
    {m rest : Machine V}
    {t e : Nat}
    {ph ph' : Phase V}
    {facts : List Fact}
    (hOrderly : m.Orderly)
    (hPhase : m.threads[t]? = some ph)
    (hMoves : m.Moves t ph ph' facts rest)
    (hMem : Fact.registered e ∈ facts) :
    ph.standing = .door m.current ∧
      e = m.current ∧ facts = [.registered m.current] := by
  have hCourse := hOrderly.course hPhase hMoves
  generalize ph.standing = s at hCourse
  generalize ph'.standing = s' at hCourse
  cases hCourse with
  | goes hWait hQuiet => exact nomatch hQuiet _ hMem
  | begins =>
      cases List.mem_singleton.mp hMem
      exact ⟨rfl, rfl, rfl⟩
  | settles hLooked => cases List.mem_singleton.mp hMem
  | ends hFree hQuiet =>
      rcases List.mem_cons.mp hMem with hFirst | hLater
      · cases hFirst
      · exact nomatch hQuiet _ hLater

/- A thread that returns has had the lock back before. -/
theorem Orderly.returns
    {m rest : Machine V}
    {t e : Nat}
    {ph ph' : Phase V}
    {facts : List Fact}
    {o : Outcome}
    {left : Option Duration}
    (hOrderly : m.Orderly)
    (hPhase : m.threads[t]? = some ph)
    (hMoves : m.Moves t ph ph' facts rest)
    (hMem : Fact.returned e o left ∈ facts) :
    ph.standing = .regained e o := by
  have hCourse := hOrderly.course hPhase hMoves
  generalize ph.standing = s at hCourse
  generalize ph'.standing = s' at hCourse
  cases hCourse with
  | goes hWait hQuiet => exact nomatch hQuiet _ hMem
  | begins => cases List.mem_singleton.mp hMem
  | settles hLooked => cases List.mem_singleton.mp hMem
  | ends hFree hQuiet =>
      rcases List.mem_cons.mp hMem with hFirst | hLater
      · cases hFirst
        rfl
      · exact nomatch hQuiet _ hLater

/- Nobody registers before an epoch or after its end. -/
theorem dated_of_moves
    {label : String}
    {m rest : Machine V}
    {past : List Note}
    {t : Nat}
    {ph ph' : Phase V}
    {facts : List Fact}
    (hDated : Dated (readings (journal label past)))
    (hOrderly : m.Orderly)
    (hSuccession : Succession past m)
    (hPhase : m.threads[t]? = some ph)
    (hMoves : m.Moves t ph ph' facts rest) :
    Dated
      (readings
        (journal label
          (past ++ facts.map (Note.mk t m.clock)))) := by
  intro before u e after hSplit
  rw [journal_append, readings_append, readings_journal_map]
    at hSplit
  rcases append_eq_append_cons hSplit with
    ⟨after', hOld⟩ | ⟨before', hBefore, hNew⟩
  · exact hDated before u e after' hOld
  · have hMem :
        (u, Mark.registered e) ∈
          (facts.filterMap Fact.mark?).map (Prod.mk t) := by
      rw [hNew]
      exact List.mem_append_right _ List.mem_cons_self
    rcases List.mem_map.mp hMem with ⟨x, hMark, hSame⟩
    cases hSame
    rcases List.mem_filterMap.mp hMark with ⟨f, hFact, hIs⟩
    rw [Fact.eq_registered_of_mark? hIs] at hFact
    rcases hOrderly.registers hPhase hMoves hFact with
      ⟨_, rfl, rfl⟩
    -- The step has told this and nothing else.
    have hFirst : before' = [] := by
      have hOne := congrArg List.length hNew
      rw [List.length_append] at hOne
      apply List.eq_nil_of_length_eq_zero
      exact Nat.eq_zero_of_add_eq_zero_right
        (Nat.succ.inj hOne).symm
    have hEnded := interruptions_journal label past
    rw [hSuccession.replaced] at hEnded
    rw [hBefore, hFirst, List.append_nil]
    exact hEnded

/- A thread that is in no wait may begin one in its diary. -/
theorem Sound.diary_begins
    {label : String}
    {m : Machine V}
    {past : List Note}
    {t e : Nat}
    {s : Standing}
    (hSound : Sound past m)
    (hDiary : Diary (journal label past) t)
    (hStanding : m.standings[t]? = some s)
    (hNone : s.wait? = none) :
    Diary
      (journal label
        (past ++ [Fact.registered e].map (Note.mk t m.clock)))
      t := by
  rw [journal_append]
  apply hDiary.begins
  · exact readings_journal_map label _ t m.clock
  · intro y hMem
    rcases List.mem_filter.mp hMem with ⟨hThere, hOwn⟩
    rw [stays_journal] at hThere
    rcases List.mem_map.mp hThere with ⟨x, hWait, rfl⟩
    exact
      hSound.ledger.returned_of_no_wait hStanding hNone x hWait
        (of_decide_eq_true hOwn)

/- A thread that is in a wait may end it in its diary. -/
theorem Sound.diary_ends
    {label : String}
    {m : Machine V}
    {past : List Note}
    {t g : Nat}
    {s : Standing}
    {o : Outcome}
    {left : Option Duration}
    {facts : List Fact}
    {status : Nat × Option Outcome}
    (hSound : Sound past m)
    (hDiary : Diary (journal label past) t)
    (hStanding : m.standings[t]? = some s)
    (hWait : s.wait? = some status)
    (hQuiet : ∀ f ∈ facts, f.isOfWait = false) :
    Diary
      (journal label
        (past ++
          (Fact.returned g o left :: facts).map
            (Note.mk t m.clock)))
      t := by
  rcases hSound.ledger.exists_wait hStanding hWait with
    ⟨x, hMem, hOpen, _⟩
  have hThere : x.stay ∈ stays (journal label past) := by
    rw [stays_journal]
    exact List.mem_map_of_mem hMem
  have hReturn :
      readings
          (journal label
            ([Fact.returned g o left].map
              (Note.mk t m.clock))) =
        [(t, .returned o)] :=
    readings_journal_map label _ t m.clock
  have hAfter := hDiary.ends hReturn hThere hOpen
  -- The return comes first, and the rest is about no wait.
  have hParts :
      (Fact.returned g o left :: facts).map
          (Note.mk t m.clock) =
        [Fact.returned g o left].map (Note.mk t m.clock) ++
          facts.map (Note.mk t m.clock) := rfl
  rw [hParts, journal_append, journal_append,
    ← List.append_assoc]
  exact
    hAfter.quiet
      (fun x hMem _ => isOfWait_of_quiet hQuiet x hMem)

/- A thread's diary is kept by its moves and by the others'. -/
theorem diary_of_moves
    {label : String}
    {m rest : Machine V}
    {past : List Note}
    {t : Nat}
    {ph ph' : Phase V}
    {facts : List Fact}
    (hDiary : ∀ u, Diary (journal label past) u)
    (hSound : Sound past m)
    (hPhase : m.threads[t]? = some ph)
    (hMoves : m.Moves t ph ph' facts rest)
    (u : Nat) :
    Diary
      (journal label (past ++ facts.map (Note.mk t m.clock)))
      u := by
  by_cases hMine : u = t
  · subst hMine
    have hStanding := standings_of_phase hPhase
    have hCourse := hSound.orderly.course hPhase hMoves
    generalize ph.standing = s at hCourse hStanding
    generalize ph'.standing = s' at hCourse
    cases hCourse with
    | goes hWait hQuiet =>
        rw [journal_append]
        apply (hDiary u).quiet
        exact fun x hMem _ => isOfWait_of_quiet hQuiet x hMem
    | begins =>
        exact hSound.diary_begins (hDiary u) hStanding rfl
    | settles hLooked =>
        rw [journal_append]
        apply (hDiary u).quiet
        rw [readings_journal_map]
        exact fun x hMem _ => nomatch hMem
    | ends hFree hQuiet =>
        exact
          hSound.diary_ends (hDiary u) hStanding rfl hQuiet
  · rw [journal_append]
    apply (hDiary u).quiet
    rintro ⟨w, x⟩ hMem hSame
    rcases mem_readings_journal_map_iff.mp hMem with ⟨rfl, _⟩
    exact absurd hSame.symm hMine

------------------------------------------------------------
-- Records
------------------------------------------------------------

/-
  What a log has of its history: epochs in their order, and
  each thread's waits in theirs.
-/
structure Recorded
    (label : String)
    (ns : List Note)
    (m : Machine V) : Prop where
  sound : Sound ns m
  succession : Succession ns m
  dated : Dated (readings (journal label ns))
  diary : ∀ t, Diary (journal label ns) t

/- A record that has nothing to tell. -/
theorem recorded_fresh
    (label : String)
    (s : Settings)
    (value : V)
    (foreign : V) :
    Recorded label [] (fresh s value foreign) where
  sound := sound_fresh s value foreign
  succession := succession_fresh s value foreign
  dated := fun before _ _ _ hSplit => by
    cases before <;> cases hSplit
  diary := diary_nil

/- Every step is recorded. -/
theorem Recorded.steps
    {label : String}
    {m m' : Machine V}
    {past ns : List Note}
    (hRecorded : Recorded label past m)
    (hSteps : m.Steps m' ns) :
    Recorded label (past ++ ns) m' := by
  have hOrderly := hRecorded.sound.orderly
  refine
    ⟨hRecorded.sound.steps hSteps,
      hRecorded.succession.steps hOrderly hSteps, ?_, ?_⟩
  · cases hSteps with
    | join =>
        rw [List.append_nil]
        exact hRecorded.dated
    | tick hLater =>
        rw [List.append_nil]
        exact hRecorded.dated
    | move hPhase hMoves =>
        exact
          dated_of_moves hRecorded.dated hOrderly
            hRecorded.succession hPhase hMoves
  · cases hSteps with
    | join =>
        rw [List.append_nil]
        exact hRecorded.diary
    | tick hLater =>
        rw [List.append_nil]
        exact hRecorded.diary
    | move hPhase hMoves =>
        exact
          diary_of_moves hRecorded.diary hRecorded.sound
            hPhase hMoves

/- Wherever a fresh machine gets, it is recorded. -/
theorem Reaches.recorded
    {m : Machine V}
    {s : Settings}
    {value foreign : V}
    {ns : List Note}
    (label : String)
    (hReaches : (fresh s value foreign).Reaches ns m) :
    Recorded label ns m :=
  hReaches.invariant
    (P := fun ns m => Recorded label ns m)
    (recorded_fresh label s value foreign)
    (fun hRecorded hSteps => hRecorded.steps hSteps)

end Machine

------------------------------------------------------------
-- Whom an Interrupt Has Woken
------------------------------------------------------------

/-
  Whether a wait in an epoch had its outcome before a place
  in the history.
-/
def Wait.isSettledBefore
    (x : Wait)
    (e : Nat)
    (j : Nat) : Bool :=
  x.epoch = e ∧ x.settled.any (fun s => s.1 < j)

/- A wait that has begun is settled by a place or pending. -/
theorem Wait.isPendingAt_eq
    {x : Wait}
    {e j : Nat}
    (hStart : x.epoch = e → x.start < j) :
    x.isPendingAt e j =
      (decide (x.epoch = e) && !x.isSettledBefore e j) := by
  unfold isPendingAt isSettledBefore
  by_cases hEpoch : x.epoch = e
  · have hBegun := hStart hEpoch
    cases x.settled with
    | none => simp [hEpoch, hBegun]
    | some v =>
        by_cases hLt : v.1 < j
        · simp [hEpoch, hLt, Nat.not_le.mpr hLt]
        · simp [hEpoch, hBegun, hLt, Nat.le_of_not_lt hLt]
  · simp [hEpoch]

namespace Machine

variable {V : Type}

/- An interrupt has woken those who were pending then. -/
theorem Sound.woken_eq_pending
    {label : String}
    {m : Machine V}
    {ns : List Note}
    {e woken : Nat}
    (hSound : Sound ns m)
    (hMem : (e, woken) ∈ interruptions (journal label ns)) :
    ∃ j,
      ClosedAt ns j e ∧
        woken = (waits ns).countP (·.isPendingAt e j) := by
  rcases told_of_mem_interruptions hMem with
    ⟨k, t, r, hTold, rfl⟩
  rcases hSound.closures.replaced k t e r hTold with
    ⟨j, _, hClosed⟩
  refine ⟨j, ⟨t, r, hClosed⟩, ?_⟩
  rw [hSound.timely.counted j t e r hClosed]
  exact WakeReport.count_ofCount _

/-
  Those in an epoch whom its interrupt has woken, and those
  who had their outcome before, are all who registered in it.
-/
theorem Sound.woken_add_settled
    {label : String}
    {m : Machine V}
    {ns : List Note}
    {e woken : Nat}
    (hSound : Sound ns m)
    (hMem : (e, woken) ∈ interruptions (journal label ns)) :
    ∃ j,
      ClosedAt ns j e ∧
        woken + (waits ns).countP (·.isSettledBefore e j) =
          (registrations (journal label ns)).count e := by
  rcases hSound.woken_eq_pending hMem with
    ⟨j, hClosed, hWoken⟩
  refine ⟨j, hClosed, ?_⟩
  have hPending :
      (waits ns).countP (·.isPendingAt e j) =
        (waits ns).countP
          (fun x =>
            decide (x.epoch = e) && !x.isSettledBefore e j) := by
    apply List.countP_congr
    intro x hThere
    rw [Wait.isPendingAt_eq]
    rintro rfl
    exact hSound.timely.started x hThere j hClosed
  have hSettled :
      (waits ns).countP (·.isSettledBefore e j) =
        (waits ns).countP
          (fun x =>
            decide (x.epoch = e) && x.isSettledBefore e j) := by
    apply List.countP_congr
    intro x _
    unfold Wait.isSettledBefore
    by_cases hEpoch : x.epoch = e <;> simp [hEpoch]
  have hAll :
      (registrations (journal label ns)).count e =
        (waits ns).countP (fun x => x.epoch = e) := by
    rw [registrations_eq, stays_journal, List.map_map,
      List.count_eq_countP, List.countP_map]
    rfl
  have hSplit :=
    List.countP_eq_countP_filter_add (waits ns)
      (fun x => decide (x.epoch = e))
      (fun x => x.isSettledBefore e j)
  rw [List.countP_filter, List.countP_filter] at hSplit
  rw [hWoken, hAll, hSplit, hPending, hSettled, Nat.add_comm]

/-
  Those whom the interrupt has woken are those who returned
  as interrupted, once all of the epoch have returned.
-/
theorem Sound.woken_eq_interrupted
    {label : String}
    {m : Machine V}
    {ns : List Note}
    {e woken : Nat}
    (hSound : Sound ns m)
    (hMem : (e, woken) ∈ interruptions (journal label ns))
    (hOver :
      ∀ y ∈ stays (journal label ns),
        y.epoch = e → y.wakeup.isSome = true) :
    woken =
      (stays (journal label ns)).countP
        (·.wasInterrupted e) := by
  rcases hSound.woken_eq_pending hMem with
    ⟨j, hClosed, hWoken⟩
  rw [stays_journal] at hOver
  rw [hWoken, stays_journal, List.countP_map]
  apply List.countP_congr
  intro x hThere
  have hSame :=
    hSound.wasInterrupted_eq hThere hClosed
      (hOver x.stay (List.mem_map_of_mem hThere))
  rw [← hSame]
  exact Iff.rfl

/- A log tells of a wait without a return while it lasts. -/
theorem Sound.exists_open_iff
    {label : String}
    {m : Machine V}
    {ns : List Note}
    {t : Nat}
    {ph : Phase V}
    (hSound : Sound ns m)
    (hPhase : m.threads[t]? = some ph) :
    (∃ y ∈ stays (journal label ns), y.isOpen t = true) ↔
      ph.standing.wait?.isSome = true := by
  have hStanding := standings_of_phase hPhase
  rw [stays_journal]
  constructor
  · rintro ⟨y, hMem, hOpen⟩
    rcases List.mem_map.mp hMem with ⟨x, hThere, rfl⟩
    have hBoth := of_decide_eq_true hOpen
    cases hWait : ph.standing.wait? with
    | some status => rfl
    | none =>
        have hOver :=
          hSound.ledger.returned_of_no_wait hStanding hWait x
            hThere hBoth.1
        have hNot : x.returned = none := hBoth.2
        rw [hNot] at hOver
        cases hOver
  · intro hIs
    rcases Option.isSome_iff_exists.mp hIs with
      ⟨status, hWait⟩
    rcases hSound.ledger.exists_wait hStanding hWait with
      ⟨x, hThere, hOpen, _⟩
    exact ⟨x.stay, List.mem_map_of_mem hThere, hOpen⟩

------------------------------------------------------------
-- What One Step Logs
------------------------------------------------------------

/- A thread that stands so has the lock back. -/
theorem eq_regained_of_standing
    {ph : Phase V}
    {g : Nat}
    {o : Outcome}
    (hRegained : ph.standing = .regained g o) :
    ∃ a left, ph = .regained a g o left := by
  cases ph with
  | regained a g' o' left =>
      cases hRegained
      exact ⟨a, left, rfl⟩
  | judging side a => cases side <;> cases hRegained
  | entering side a => cases side <;> cases hRegained
  | _ => cases hRegained

/- Registrations, returns, interrupts are under the lock. -/
theorem Orderly.holder_of_mark?
    {m rest : Machine V}
    {t : Nat}
    {ph ph' : Phase V}
    {facts : List Fact}
    {f : Fact}
    {x : Mark}
    (hOrderly : m.Orderly)
    (hPhase : m.threads[t]? = some ph)
    (hMoves : m.Moves t ph ph' facts rest)
    (hMem : f ∈ facts)
    (hMark : f.mark? = some x) :
    m.bound.holder = some t := by
  apply hOrderly.locked t _ (standings_of_phase hPhase)
  cases f with
  | registered e =>
      rw [(hOrderly.registers hPhase hMoves hMem).1]
      rfl
  | returned e o left =>
      rw [hOrderly.returns hPhase hMoves hMem]
      rfl
  | interrupted e r =>
      have hEra := hOrderly.era hPhase hMoves
      generalize ph.standing = s at hEra ⊢
      generalize ph'.standing = s' at hEra
      cases hEra with
      | lasts hSame hFits hStays hFacts =>
          exact nomatch hFacts _ hMem
      | closes hOpen hCurrent hCohorts => rfl
      | renews hClosed hCurrent hCohorts => rfl
  | _ => cases hMark

/- A return is logged by the move that ends a wait. -/
theorem Orderly.returned_iff
    {m rest : Machine V}
    {t : Nat}
    {ph ph' : Phase V}
    {facts : List Fact}
    {o : Outcome}
    (hOrderly : m.Orderly)
    (hPhase : m.threads[t]? = some ph)
    (hMoves : m.Moves t ph ph' facts rest) :
    (∃ f ∈ facts, f.mark? = some (.returned o)) ↔
      ∃ a g left, ph = .regained a g o left := by
  constructor
  · rintro ⟨f, hMem, hMark⟩
    rcases Fact.eq_returned_of_mark? hMark with
      ⟨e, left, rfl⟩
    have hRegained := hOrderly.returns hPhase hMoves hMem
    rcases eq_regained_of_standing hRegained with
      ⟨a, left', hIs⟩
    exact ⟨a, _, left', hIs⟩
  · rintro ⟨a, g, left, rfl⟩
    cases hMoves with
    | resume hCounted => exact ⟨_, List.mem_cons_self, rfl⟩
    | underflow hRefused => exact ⟨_, List.mem_cons_self, rfl⟩

end Machine

/- The outcome of a wait that a call reports in its end. -/
def Ending.wakeup? : Ending → Option Outcome
| .woken o => some o
| .timed r => some r.outcome
| .failed .interrupted => some .interrupted
| _ => none

/- A turn tells of an end if it is that end. -/
theorem Turn.eq_finish_of_mem
    {V : Type}
    {next : Turn V}
    {e : Ending}
    (hMem : Fact.finished e ∈ next.facts) :
    next = .finish e := by
  cases next with
  | finish e' =>
      cases List.mem_singleton.mp hMem
      rfl
  | _ => cases hMem

/- A call that ends with its condition reports no outcome. -/
theorem Attempt.wakeup?_of_judge
    {V : Type}
    {a : Attempt V}
    {v : V}
    {e : Ending}
    (hJudge : (a.judge v).1 = .finish e) :
    e.wakeup? = none := by
  unfold judge at hJudge
  split at hJudge
  · cases hJudge
  · split at hJudge
    · cases hJudge
      rfl
    · cases hJudge
      rfl
    · split at hJudge
      · cases hJudge
        rfl
      · cases hJudge

/- A call that ends with a wait reports its outcome. -/
theorem Attempt.wakeup?_of_resume
    {V : Type}
    {a : Attempt V}
    {o : Outcome}
    {left : Option Duration}
    {e : Ending}
    (hResume : a.resume o left = .finish e) :
    e.wakeup? = some o := by
  unfold resume at hResume
  split at hResume
  · split at hResume
    · cases hResume
      rfl
    · cases hResume
      rfl
  · split at hResume
    · rename_i hIs
      cases hResume
      rw [of_decide_eq_true hIs]
      rfl
    · cases hResume

namespace Machine

variable {V : Type}

/-
  A call that ends, if not as misused, reports an outcome
  exactly if it ends with a wait, and then the wait's.
-/
theorem Moves.wakeup?_iff
    {m rest : Machine V}
    {t : Nat}
    {ph ph' : Phase V}
    {facts : List Fact}
    {e : Ending}
    (hMoves : m.Moves t ph ph' facts rest)
    (hMem : Fact.finished e ∈ facts)
    (hProper : ∀ misuse, e ≠ .misused misuse)
    (o : Outcome) :
    e.wakeup? = some o ↔
      ∃ a g left, ph = .regained a g o left := by
  cases hMoves with
  | interruptForeign hHeld =>
      cases List.mem_singleton.mp hMem
      exact absurd rfl (hProper _)
  | enterForeign =>
      cases List.mem_singleton.mp hMem
      exact absurd rfl (hProper _)
  | withdraw =>
      cases List.mem_singleton.mp hMem
      exact absurd rfl (hProper _)
  | underflow hRefused =>
      simp only [List.mem_cons, reduceCtorEq, false_or,
        List.not_mem_nil, or_false] at hMem
      cases hMem
      exact absurd rfl (hProper _)
  | judge =>
      rcases List.mem_cons.mp hMem with hHead | hTurn
      · cases hHead
      · have hNone :=
          Attempt.wakeup?_of_judge (Turn.eq_finish_of_mem hTurn)
        constructor
        · intro hSome
          rw [hNone] at hSome
          cases hSome
        · rintro ⟨a, g, left, hIs⟩
          cases hIs
  | resume hCounted =>
      rcases List.mem_cons.mp hMem with hHead | hTurn
      · cases hHead
      · rw [Attempt.wakeup?_of_resume
          (Turn.eq_finish_of_mem hTurn)]
        constructor
        · rintro hSame
          cases hSame
          exact ⟨_, _, _, rfl⟩
        · rintro ⟨a, g, left, hIs⟩
          cases hIs
          rfl
  | @park a g v v' wakeAt stalled hLook =>
      cases stalled <;> simp at hMem
  | _ => simp at hMem

/-
  What a step of an orderly machine logs.  Whatever is read
  of it was logged by the thread that has the lock.  A return
  is logged in the step in which a thread goes on from a
  wait, with its outcome.  A call that ends in the step, if
  not as misused, reports an outcome if it is logged.
-/
theorem Orderly.logged
    {m m' : Machine V}
    {l : Label V}
    {ns : List Note}
    (label : String)
    (hOrderly : m.Orderly)
    (hStep : m.step l = some (m', ns)) :
    (∀ t x,
      (t, x) ∈ readings (journal label ns) →
        m.bound.holder = some t) ∧
    (∀ t o,
      (t, .returned o) ∈ readings (journal label ns) ↔
        l.thread? = some t ∧
          ∃ a g left,
            m.threads[t]? = some (.regained a g o left)) ∧
    (∀ n ∈ ns, ∀ e,
      n.fact = .finished e →
        (∀ misuse, e ≠ .misused misuse) →
          ∀ o,
            e.wakeup? = some o ↔
              (n.thread, .returned o) ∈
                readings (journal label ns)) := by
  have hBy := stepsBy_of_step hStep
  generalize l.thread? = taker at hBy ⊢
  cases hBy with
  | join =>
      exact ⟨nofun, fun t o => ⟨nofun, nofun⟩, nofun⟩
  | tick hLater =>
      exact ⟨nofun, fun t o => ⟨nofun, nofun⟩, nofun⟩
  | @move t ph ph' facts rest hPhase hMoves =>
      refine ⟨?_, ?_, ?_⟩
      · intro u x hMem
        rcases mem_readings_journal_map_iff.mp hMem with
          ⟨rfl, f, hFact, hMark⟩
        exact
          hOrderly.holder_of_mark? hPhase hMoves hFact hMark
      · intro u o
        rw [mem_readings_journal_map_iff,
          hOrderly.returned_iff hPhase hMoves]
        constructor
        · rintro ⟨rfl, a, g, left, rfl⟩
          exact ⟨rfl, a, g, left, hPhase⟩
        · rintro ⟨hSame, a, g, left, hRegained⟩
          cases hSame
          rw [hPhase] at hRegained
          exact ⟨rfl, a, g, left, Option.some.inj hRegained⟩
      · intro n hMem e hFinished hProper o
        rcases List.mem_map.mp hMem with ⟨f, hFact, rfl⟩
        rw [show f = .finished e from hFinished] at hFact
        rw [hMoves.wakeup?_iff hFact hProper,
          mem_readings_journal_map_iff,
          hOrderly.returned_iff hPhase hMoves]
        exact ⟨fun h => ⟨rfl, h⟩, fun h => h.2⟩

------------------------------------------------------------
-- Faithful Logs
------------------------------------------------------------

/-
  The log of any run, by any number of threads, is a faithful
  history, and it consists of the events that are logged.

  Interrupts end the epochs one after the other, from the
  first, and whoever registers between two interrupts does so
  in the epoch that is between them.  An interrupt reports as
  woken those who have registered in its epoch less those who
  had their outcome before its close; and once all of them
  have returned, these are those who returned as interrupted.

  The waits that are read in the log are those of the
  history, each with the outcome that it was settled with.
  Each thread's registrations and returns take turns, a
  return for each wait but the one it may still be in.

  What a next step adds is logged by the thread that has the
  lock; a return is added as a thread goes on from a wait,
  and a call that ends by it reports what is logged.
-/
theorem log_faithful
    {m : Machine V}
    {s : Settings}
    {value foreign : V}
    {ns : List Note}
    {log : List Entry}
    (hReaches : (fresh s value foreign).Reaches ns m)
    (hLog : log = journal s.label ns) :
    log.map Entry.event = chronicle s.label ns ∧
    (interruptions log).map Prod.fst =
      List.range (interruptions log).length ∧
    Dated (readings log) ∧
    (∀ e woken,
      (e, woken) ∈ interruptions log →
        (∃ j,
          ClosedAt ns j e ∧
            woken +
                (waits ns).countP (·.isSettledBefore e j) =
              (registrations log).count e) ∧
          ((∀ y ∈ stays log,
              y.epoch = e → y.wakeup.isSome = true) →
            woken =
              (stays log).countP (·.wasInterrupted e))) ∧
    stays log = (waits ns).map Wait.stay ∧
    (∀ x ∈ waits ns, ∀ o,
      x.returned = some o → ∃ i, x.settled = some (i, o)) ∧
    (∀ t,
      Diary log t ∧
        ∀ i x,
          (diaryOf t log)[i]? = some x →
            (x.isRegistration = true ↔ i % 2 = 0)) ∧
    (∀ t ph,
      m.threads[t]? = some ph →
        ((∃ y ∈ stays log, y.isOpen t = true) ↔
          ph.standing.wait?.isSome = true)) ∧
    (∀ l m' ns',
      m.step l = some (m', ns') →
        (∀ t x,
          (t, x) ∈ readings (journal s.label ns') →
            m.bound.holder = some t) ∧
        (∀ t o,
          (t, .returned o) ∈ readings (journal s.label ns') ↔
            l.thread? = some t ∧
              ∃ a g left,
                m.threads[t]? = some (.regained a g o left)) ∧
        (∀ n ∈ ns', ∀ e,
          n.fact = .finished e →
            (∀ misuse, e ≠ .misused misuse) →
              ∀ o,
                e.wakeup? = some o ↔
                  (n.thread, .returned o) ∈
                    readings (journal s.label ns'))) := by
  subst hLog
  have hRecorded := hReaches.recorded s.label
  have hSound := hRecorded.sound
  refine
    ⟨map_event_journal s.label ns, ?_, hRecorded.dated, ?_,
      stays_journal s.label ns, hSound.ledger.returned, ?_, ?_,
      ?_⟩
  · have hEnded := interruptions_journal s.label ns
    rw [hRecorded.succession.replaced] at hEnded
    have hLength := congrArg List.length hEnded
    rw [List.length_map, List.length_range] at hLength
    rw [hEnded, hLength]
  · intro e woken hMem
    exact
      ⟨hSound.woken_add_settled hMem,
        hSound.woken_eq_interrupted hMem⟩
  · intro t
    have hDiary := hRecorded.diary t
    refine ⟨hDiary, ?_⟩
    intro i x hGet
    rw [hDiary.told] at hGet
    exact isRegistration_iff_even hDiary.ended hGet
  · intro t ph hPhase
    exact hSound.exists_open_iff hPhase
  · intro l m' ns' hStep
    exact hSound.orderly.logged s.label hStep

/-
  Two threads wait, a signal reaches one of them, and then an
  interrupt the other.  The first waits again, in the next
  epoch.
-/
theorem log_faithful_two_epochs :
    ∃ (m : Machine Unit) (ns : List Note) (log : List Entry),
      (fresh .standard () ()).Reaches ns m ∧
        log = journal Settings.standard.label ns ∧
        readings log =
          [(0, .registered 0), (1, .registered 0),
            (0, .returned .signaled), (2, .interrupted 0 1),
            (1, .returned .interrupted),
            (0, .registered 1)] ∧
        Dated (readings log) ∧
        (∃ j,
          ClosedAt ns j 0 ∧
            1 + (waits ns).countP (·.isSettledBefore 0 j) =
              2) ∧
        diaryOf 0 log =
          [.registered 0, .returned .signaled,
            .registered 1] ∧
        1 = (stays log).countP (·.wasInterrupted 0) ∧
        ∃ y ∈ stays log, y.isOpen 0 = true := by
  have hRun :
      ∃ (m : Machine Unit) (ns : List Note),
        (fresh .standard () ()).run
            [.join, .join, .join, .acquire 0 .bound,
              .call 0 .bound (.waitFor (.ofNanos 5)),
              .advance 0, .advance 0, .advance 0, .advance 0,
              .advance 0, .acquire 1 .bound,
              .call 1 .bound (.waitFor (.ofNanos 5)),
              .advance 1, .advance 1, .advance 1, .advance 1,
              .advance 1, .signal 2, .advance 2,
              .notify 2 (some 0), .advance 0, .advance 0,
              .advance 0, .advance 0, .release 0 .bound,
              .interrupt 2, .advance 2, .advance 2,
              .advance 2, .advance 2, .advance 1, .advance 1,
              .advance 1, .advance 1, .release 1 .bound,
              .acquire 0 .bound,
              .call 0 .bound (.waitFor (.ofNanos 5)),
              .advance 0, .advance 0] =
          some (m, ns) ∧
        ns.filterMap
            (fun n => n.fact.mark?.map (Prod.mk n.thread)) =
          [(0, .registered 0), (1, .registered 0),
            (0, .returned .signaled), (2, .interrupted 0 1),
            (1, .returned .interrupted),
            (0, .registered 1)] ∧
        ∃ a, m.threads[0]? = some (.enrolled a 1) :=
    ⟨_, _, rfl, rfl, _, rfl⟩
  rcases hRun with ⟨m, ns, hRun, hMarks, a, hPhase⟩
  have hReaches := Reaches.of_run .refl hRun
  rw [List.nil_append] at hReaches
  rcases log_faithful hReaches rfl with
    ⟨_, _, hDated, hWoken, _, _, hDiaries, hOpen, _⟩
  have hReadings :=
    (readings_journal Settings.standard.label ns).trans hMarks
  have hInterrupt :
      (0, 1) ∈
        interruptions (journal Settings.standard.label ns) := by
    unfold interruptions
    rw [hReadings]
    exact List.mem_cons_self
  have hStays :
      stays (journal Settings.standard.label ns) =
        [⟨0, 0, some .signaled⟩, ⟨1, 0, some .interrupted⟩,
          ⟨0, 1, none⟩] := by
    unfold stays
    rw [hReadings]
    rfl
  have hCount :
      (registrations
          (journal Settings.standard.label ns)).count 0 =
        2 := by
    rw [registrations_eq, hStays]
    rfl
  rcases hWoken 0 1 hInterrupt with ⟨hSettled, hReturned⟩
  rw [hCount] at hSettled
  refine
    ⟨m, ns, _, hReaches, rfl, hReadings, hDated, hSettled, ?_,
      ?_, ?_⟩
  · rw [(hDiaries 0).1.told]
    unfold staysOf
    rw [hStays]
    rfl
  · apply hReturned
    rw [hStays]
    simp
  · exact (hOpen 0 _ hPhase).mpr rfl

end Machine

end CondVar
