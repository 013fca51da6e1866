import CondVar.Proofs.Evaluations

/-
  A call that is handed the wrong lock.

  Such a call may evaluate its condition, and ends at the
  latest when it is to block.  Its steps leave the condition
  variable alone, whoever waits there, and its thread has the
  lock that it handed over all the while.

  Main declarations:
    * `Call.astray`
    * `Phase.Astray`
    * `Machine.Aside`
    * `Machine.Strays`
    * `Machine.wrong_lock_changes_nothing`
-/

namespace CondVar

variable {V : Type}

------------------------------------------------------------
-- How Such a Call Ends
------------------------------------------------------------

namespace Call

/-
  How a call ends that was handed the wrong lock, with this
  value behind it: as its condition says, if that is a reason
  to end, and otherwise by misuse.
-/
def astray
    (c : Call V)
    (v : V) : Ending :=
  match c.condition with
  | none => .misused .foreignLock
  | some p =>
      match
          (Incident.judged c.limit (p.judge [] v).1).ending?
        with
      | none => .misused .foreignLock
      | some e => e

/- What is told before: that the condition was evaluated. -/
def glances (c : Call V) : List Fact :=
  match c.condition with
  | none => []
  | some _ => [.judged]

/- Without a condition, such a call ends by misuse. -/
theorem astray_of_none
    {c : Call V}
    (hCondition : c.condition = none)
    (v : V) :
    c.astray v = .misused .foreignLock := by
  simp only [astray, hCondition]

/-
  With a condition, it ends by misuse if it would have to
  block: if the condition holds and there is time left.
-/
theorem astray_spec
    {c : Call V}
    {p : Predicate V}
    (hCondition : c.condition = some p)
    (v : V) :
    (c.astray v = .misused .foreignLock ↔
      (p.judge [] v).1 = .keepWaiting ∧
        ∀ d, c.limit = some d → 0 < d.toNanos) ∧
    (c.astray v = .cleared c.limit ↔
      (p.judge [] v).1 = .clear) ∧
    (c.astray v = .failed .timeout ↔
      (p.judge [] v).1 = .keepWaiting ∧
        ∃ d, c.limit = some d ∧ d.toNanos = 0) ∧
    ∀ message,
      c.astray v = .aborted message ↔
        (p.judge [] v).1 = .abort message := by
  simp only [astray, hCondition]
  cases (p.judge [] v).1 with
  | clear => simp [Incident.ending?]
  | abort message => simp [Incident.ending?]
  | keepWaiting =>
      cases c.limit with
      | none => simp [Incident.ending?]
      | some d =>
          by_cases hZero : d.toNanos = 0
          · simp [Incident.ending?, Duration.isZero_iff, hZero]
          · simp [Incident.ending?, Duration.isZero_iff, hZero,
              Nat.pos_of_ne_zero hZero]

end Call

/-
  Where a thread is with such a call, and what it has told: it
  is about to evaluate the condition, or about to block and so
  to find out, or it is done.
-/
inductive Phase.Astray
    (c : Call V)
    (v : V) : Phase V → List Fact → Prop where
| judging {p : Predicate V}
    (hCondition : c.condition = some p) :
    Astray c v (.judging .foreign ⟨c.condition, [], c.limit⟩) []
| entering {a : Attempt V}
    (hMisused : c.astray v = .misused .foreignLock) :
    Astray c v (.entering .foreign a) c.glances
| done :
    Astray c v .idle (c.glances ++ [.finished (c.astray v)])

namespace Phase.Astray

variable {c : Call V}
variable {v : V}
variable {ph : Phase V}
variable {fs : List Fact}

/- A call begins there. -/
theorem begin
    (c : Call V)
    (v : V) :
    Astray c v (c.begin.phase .foreign) [] := by
  cases hCondition : c.condition with
  | none =>
      have hEntering :=
        Astray.entering (a := ⟨c.condition, [], c.limit⟩)
          (c.astray_of_none hCondition v)
      simpa only [Call.begin, Call.glances, hCondition,
        Turn.phase]
        using hEntering
  | some p =>
      simpa only [Call.begin, hCondition, Turn.phase]
        using Astray.judging hCondition

/- Waking has nothing to do with it. -/
theorem wake
    (hAstray : Astray c v ph fs)
    (g : Nat) :
    ph.wake g = ph := by
  cases hAstray <;> rfl

/- It goes on there after its condition was evaluated. -/
theorem judged
    {p : Predicate V}
    {a : Attempt V}
    (hCondition : c.condition = some p)
    (hAttempt : a = ⟨c.condition, [], c.limit⟩)
    (v : V) :
    Astray c v ((a.judge v).1.phase .foreign)
      (.judged :: (a.judge v).1.facts) := by
  have hOf : a.condition = some p := by
    rw [hAttempt, hCondition]
  have hGlances : [Fact.judged] = c.glances := by
    simp only [Call.glances, hCondition]
  subst hAttempt
  rw [Attempt.judge_eq hOf]
  split
  · rename_i e hEnding
    have hEnd : e = c.astray v := by
      simp only [Call.astray, hCondition, hEnding]
    change Astray c v .idle ([.judged] ++ [.finished e])
    rw [hGlances, hEnd]
    exact .done
  · rename_i hNone
    change Astray c v (.entering .foreign _) [.judged]
    rw [hGlances]
    apply Astray.entering
    simp only [Call.astray, hCondition, hNone]

/-
  A call that has not ended has told of one evaluation at
  most, and one that has ended did so as it must.
-/
theorem going_or_over
    (hAstray : Astray c v ph fs) :
    fs.countP (· = .judged) ≤ 1 ∧
      ((fs.filterMap Fact.ending? = [] ∧ fs.length < 2 ∧
          ∃ a, ph = .judging .foreign a ∨
            ph = .entering .foreign a) ∨
        (fs.filterMap Fact.ending? = [c.astray v] ∧
          ph = .idle)) := by
  have hGlances :
      c.glances.countP (· = .judged) ≤ 1 ∧
        c.glances.filterMap Fact.ending? = [] ∧
        c.glances.length < 2 := by
    unfold Call.glances
    split <;> decide
  rcases hGlances with ⟨hOnce, hNone, hShort⟩
  cases hAstray with
  | judging hCondition =>
      exact
        ⟨Nat.zero_le 1,
          Or.inl ⟨rfl, Nat.zero_lt_two, _, Or.inl rfl⟩⟩
  | entering hMisused =>
      exact ⟨hOnce, Or.inl ⟨hNone, hShort, _, Or.inr rfl⟩⟩
  | done =>
      refine ⟨?_, Or.inr ⟨?_, rfl⟩⟩
      · rw [List.countP_append]
        exact hOnce
      · rw [List.filterMap_append, hNone]
        rfl

end Phase.Astray

------------------------------------------------------------
-- What Stays as It Is
------------------------------------------------------------

namespace Machine

/-
  All that may have changed is what is behind the lock that is
  not bound, and where this thread is.
-/
structure Aside
    (m : Machine V)
    (t : Nat)
    (m' : Machine V) : Prop where
  settings : m'.settings = m.settings
  bound : m'.bound = m.bound
  holder : m'.foreign.holder = m.foreign.holder
  cohorts : m'.cohorts = m.cohorts
  current : m'.current = m.current
  tally : m'.tally = m.tally
  clock : m'.clock = m.clock
  others : ∀ u, u ≠ t → m'.threads[u]? = m.threads[u]?

/- Moving a thread and setting that value change no more. -/
theorem aside_setPhase
    (m : Machine V)
    (t : Nat)
    (v : V)
    (ph : Phase V) :
    m.Aside t ((m.setValue .foreign v).setPhase t ph) where
  settings := rfl
  bound := rfl
  holder := rfl
  cohorts := rfl
  current := rfl
  tally := rfl
  clock := rfl
  others := fun _ hNot => List.getElem?_set_ne hNot.symm

namespace Aside

variable {m m' m'' : Machine V}
variable {t : Nat}

/- Nothing has changed before the first step. -/
theorem refl
    (m : Machine V)
    (t : Nat) :
    m.Aside t m :=
  ⟨rfl, rfl, rfl, rfl, rfl, rfl, rfl, fun _ _ => rfl⟩

/- What one step and the others leave, all steps leave. -/
theorem trans
    (hFirst : m.Aside t m')
    (hThen : m'.Aside t m'') :
    m.Aside t m'' where
  settings := hThen.settings.trans hFirst.settings
  bound := hThen.bound.trans hFirst.bound
  holder := hThen.holder.trans hFirst.holder
  cohorts := hThen.cohorts.trans hFirst.cohorts
  current := hThen.current.trans hFirst.current
  tally := hThen.tally.trans hFirst.tally
  clock := hThen.clock.trans hFirst.clock
  others := fun u hNot =>
    (hThen.others u hNot).trans (hFirst.others u hNot)

end Aside

/-
  While a thread has the lock that is not bound, no other
  thread has anything to do with it.
-/
theorem Moves.foreign_of_other
    {m rest : Machine V}
    {t u : Nat}
    {ph ph' : Phase V}
    {facts : List Fact}
    (hMoves : m.Moves u ph ph' facts rest)
    (hOther : u ≠ t)
    (hHeld : m.foreign.holder = some t)
    (hHanded :
      ph.usesForeign = true → m.foreign.holder = some u) :
    rest.foreign = m.foreign := by
  have hNot : m.foreign.holder ≠ some u := by
    intro hTheirs
    cases hHeld.symm.trans hTheirs
    exact hOther rfl
  cases hMoves with
  | @acquire side hFree =>
      cases side with
      | bound => rfl
      | foreign => cases hHeld.symm.trans hFree
  | @release side hMine =>
      cases side with
      | bound => rfl
      | foreign => exact absurd (of_decide_eq_true hMine) hNot
  | @write side v hMine =>
      cases side with
      | bound => rfl
      | foreign => exact absurd (of_decide_eq_true hMine) hNot
  | @judge side a =>
      cases side with
      | bound => rfl
      | foreign => exact absurd (hHanded rfl) hNot
  | _ => rfl

------------------------------------------------------------
-- The Course of Such a Call
------------------------------------------------------------

/-
  A thread that has called with the wrong lock has it still,
  and behind it is what was there, as long as the condition
  was not evaluated.
-/
structure Strays
    (m : Machine V)
    (t : Nat)
    (c : Call V)
    (v : V)
    (fs : List Fact) : Prop where
  phase :
    ∃ ph, m.threads[t]? = some ph ∧ Phase.Astray c v ph fs
  held : m.foreign.holder = some t
  value : fs = [] → m.foreign.value = v

namespace Strays

variable {m m' : Machine V}
variable {t : Nat}
variable {c : Call V}
variable {v : V}
variable {fs : List Fact}

/-
  The thread's own step tells something and changes nothing
  else.
-/
theorem own
    {rest : Machine V}
    {ph ph' : Phase V}
    {facts : List Fact}
    (hStrays : m.Strays t c v fs)
    (hPhase : m.threads[t]? = some ph)
    (hBusy : ph ≠ .idle)
    (hMoves : m.Moves t ph ph' facts rest) :
    (rest.setPhase t ph').Strays t c v (fs ++ facts) ∧
      m.Aside t (rest.setPhase t ph') ∧ facts ≠ [] := by
  have hAfter := hMoves.phase_self hPhase
  rcases hStrays.phase with ⟨ph₁, hThere, hAstray⟩
  cases hPhase.symm.trans hThere
  cases hAstray with
  | done => exact absurd rfl hBusy
  | entering hMisused =>
      cases hMoves with
      | enterForeign =>
          refine
            ⟨⟨⟨_, hAfter, ?_⟩, hStrays.held, by simp⟩,
              aside_setPhase m t m.foreign.value .idle,
              by simp⟩
          rw [← hMisused]
          exact .done
  | @judging p hCondition =>
      cases hMoves with
      | judge =>
          have hValue : (m.lock .foreign).value = v :=
            hStrays.value rfl
          refine
            ⟨⟨⟨_, hAfter, ?_⟩, hStrays.held, nofun⟩,
              aside_setPhase m t _ _, nofun⟩
          rw [hValue]
          exact .judged hCondition rfl v

/- No other thread's step has a part in it. -/
theorem other
    {l : Label V}
    {ns : List Note}
    (hStrays : m.Strays t c v fs)
    (hHanded : m.Handed)
    (hOther : l.thread? ≠ some t)
    (hStep : m.step l = some (m', ns)) :
    m'.Strays t c v (fs ++ factsOf t ns) := by
  rcases hStrays.phase with ⟨ph, hPhase, hAstray⟩
  have hForeign : m'.foreign = m.foreign := by
    have hStepsBy := stepsBy_of_step hStep
    generalize l.thread? = taker at hOther hStepsBy
    cases hStepsBy with
    | join => rfl
    | tick hLater => rfl
    | move hThere hMoves =>
        exact
          hMoves.foreign_of_other
            (fun hSame => hOther (congrArg some hSame))
            hStrays.held (hHanded _ _ hThere)
  rcases own_or_other hStep hPhase
      (fun hOwn => absurd hOwn hOther) with
    ⟨hOwn, _⟩ | ⟨_, hFacts, ph', hThere, hWoken⟩
  · exact absurd hOwn hOther
  · have hSame : ph' = ph := by
      rcases hWoken with rfl | ⟨g, rfl⟩
      · rfl
      · exact hAstray.wake g
    subst hSame
    rw [hFacts, List.append_nil]
    exact
      ⟨⟨_, hThere, hAstray⟩, by rw [hForeign, hStrays.held],
        fun hNone => by rw [hForeign, hStrays.value hNone]⟩

/-
  So whatever steps are taken.  The thread takes at most as
  many as it tells facts, and they change nothing else.
-/
theorem run
    {ls : List (Label V)}
    {ns : List Note}
    (hStrays : m.Strays t c v fs)
    (hHanded : m.Handed)
    (hInner :
      ∀ l ∈ ls, l.thread? = some t → l.request? = none)
    (hRun : m.run ls = some (m', ns)) :
    m'.Strays t c v (fs ++ factsOf t ns) ∧
      ls.countP (fun l => l.thread? = some t) ≤
        (factsOf t ns).length ∧
      ((∀ l ∈ ls, l.thread? = some t) → m.Aside t m') := by
  induction ls generalizing m fs ns with
  | nil =>
      cases hRun
      refine ⟨?_, Nat.le_refl 0, fun _ => .refl _ t⟩
      rw [factsOf, List.filter_nil, List.map_nil,
        List.append_nil]
      exact hStrays
  | cons l ls ih =>
      rcases run_cons hRun with
        ⟨m₁, ns₁, ns₂, hStep, hRest, rfl⟩
      rcases List.forall_mem_cons.mp hInner with
        ⟨hFirst, hLater⟩
      have hHanded₁ := hHanded.steps (steps_of_step hStep)
      rw [factsOf_append, ← List.append_assoc,
        List.countP_cons, List.length_append]
      by_cases hOwn : l.thread? = some t
      · rcases hStrays.phase with ⟨ph, hPhase, _⟩
        rcases own_or_other hStep hPhase hFirst with
          ⟨_, ph', facts, rest, hBusy, hMoves, rfl, hFacts⟩ |
          ⟨hNot, _⟩
        · rcases hStrays.own hPhase hBusy hMoves with
            ⟨hStrays₁, hAside, hSome⟩
          rw [hFacts]
          rcases ih hStrays₁ hHanded₁ hLater hRest with
            ⟨hThen, hCount, hAlone⟩
          refine ⟨hThen, ?_, ?_⟩
          · have hPos := List.length_pos_iff.mpr hSome
            rw [if_pos (decide_eq_true hOwn)]
            omega
          · intro hAll
            exact
              hAside.trans
                (hAlone (List.forall_mem_cons.mp hAll).2)
        · exact absurd hOwn hNot
      · rcases ih (hStrays.other hHanded hOwn hStep) hHanded₁
            hLater hRest with
          ⟨hThen, hCount, _⟩
        refine ⟨hThen, ?_, ?_⟩
        · simp only [hOwn, decide_false, Bool.false_eq_true,
            if_false]
          omega
        · intro hAll
          exact absurd (hAll l List.mem_cons_self) hOwn

/- The thread can go on unless its call has ended. -/
theorem advances
    {a : Attempt V}
    (hPhase :
      m.threads[t]? = some (.judging .foreign a) ∨
        m.threads[t]? = some (.entering .foreign a)) :
    ∃ m' ns, m.step (.advance t) = some (m', ns) := by
  rcases hPhase with hJudging | hEntering
  · simp only [step, advance, hJudging]
    exact ⟨_, _, rfl⟩
  · simp only [step, advance, hEntering]
    exact ⟨_, _, rfl⟩

end Strays

/-
  Any machine, and any of its threads that has the lock which
  is not bound and is about to hand it over.

  An interrupt is refused on the spot, and the machine is what
  it was.  Any call to wait begins, and from then on, whatever
  steps are taken in which the thread asks for nothing else:
  it has that lock all the while; each of its own steps leaves
  the bound lock, the cohorts, the epoch, and the tally alone,
  and all of them do if no other thread takes any; and the
  condition was evaluated once at most.  A call that has not
  ended goes on, and ends within two steps of its thread.

  It ends by misuse if it has no condition, and also if the
  condition holds of what was behind the lock at first and
  there is time left or no limit.  It ends as clear, with all
  its time, if the condition is clear, as out of time if the
  condition holds and there is no time, and as broken off if
  the condition breaks off.
-/
theorem wrong_lock_changes_nothing
    {s : Settings}
    {value foreign : V}
    {m₀ : Machine V}
    {past : List Note}
    {t : Nat}
    (hReaches : (fresh s value foreign).Reaches past m₀)
    (hIdle : m₀.isIdle t = true)
    (hHeld : m₀.holds t .foreign = true) :
    m₀.step (.interruptHeld t .foreign) =
      some
        (m₀,
          [⟨t, m₀.clock,
            .finished (.misused .foreignLock)⟩]) ∧
    ∀ c : Call V,
      (∃ m₁,
        m₀.step (.call t .foreign c) = some (m₁, []) ∧
          m₀.Aside t m₁) ∧
      ∀ ls m ns,
        (∀ l ∈ ls, l.thread? = some t → l.request? = none) →
        m₀.run (.call t .foreign c :: ls) = some (m, ns) →
          m.holds t .foreign = true ∧
          (∀ l m' ns',
            l.thread? = some t → l.request? = none →
              m.step l = some (m', ns') → m.Aside t m') ∧
          ((∀ l ∈ ls, l.thread? = some t) →
            m₀.Aside t m) ∧
          evaluationsOf t ns ≤ 1 ∧
          ((endingsOf t ns = [] ∧
              ls.countP (fun l => l.thread? = some t) < 2 ∧
              ∃ m' ns',
                m.step (.advance t) = some (m', ns')) ∨
            ∃ e,
              endingsOf t ns = [e] ∧ m.isIdle t = true ∧
              (c.condition = none →
                e = .misused .foreignLock) ∧
              ∀ p,
                c.condition = some p →
                  (e = .misused .foreignLock ↔
                    (p.judge [] m₀.foreign.value).1 =
                        .keepWaiting ∧
                      ∀ d, c.limit = some d →
                        0 < d.toNanos) ∧
                  (e = .cleared c.limit ↔
                    (p.judge [] m₀.foreign.value).1 =
                      .clear) ∧
                  (e = .failed .timeout ↔
                    (p.judge [] m₀.foreign.value).1 =
                        .keepWaiting ∧
                      ∃ d, c.limit = some d ∧
                        d.toNanos = 0) ∧
                  ∀ message,
                    e = .aborted message ↔
                      (p.judge [] m₀.foreign.value).1 =
                        .abort message) := by
  have hPhase₀ := phase_of_isIdle hIdle
  refine ⟨?_, ?_⟩
  · simp only [step, interruptHeld, hIdle, hHeld, and_self,
      if_true]
    rfl
  intro c
  have hBegins :
      m₀.Aside t (m₀.setPhase t (c.begin.phase .foreign)) :=
    aside_setPhase m₀ t m₀.foreign.value _
  refine ⟨⟨_, ?_, hBegins⟩, ?_⟩
  · simp only [step, call, hIdle, hHeld, and_self, if_true,
      turn_eq, facts_begin]
    rfl
  intro ls m ns hInner hRun
  rcases run_of_call hRun with
    ⟨m₁, _, rfl, hPhase₁, hRest, _⟩
  have hHolder : m₀.foreign.holder = some t :=
    of_decide_eq_true hHeld
  have hHanded₁ :
      (m₀.setPhase t (c.begin.phase .foreign)).Handed :=
    hReaches.handed.steps (.move hPhase₀ (.call hHeld))
  have hStrays₁ :
      (m₀.setPhase t (c.begin.phase .foreign)).Strays t c
        m₀.foreign.value [] :=
    ⟨⟨_, hPhase₁, .begin c _⟩, hHolder, fun _ => rfl⟩
  rcases hStrays₁.run hHanded₁ hInner hRest with
    ⟨hStrays, hCount, hAlone⟩
  rw [List.nil_append] at hStrays
  rcases hStrays.phase with ⟨ph, hPhase, hAstray⟩
  rcases hAstray.going_or_over with ⟨hOnce, hWhere⟩
  refine
    ⟨decide_eq_true hStrays.held, ?_,
      fun hAll => hBegins.trans (hAlone hAll), hOnce, ?_⟩
  · intro l m' ns' hOwn hSilent hStep
    rcases own_or_other hStep hPhase (fun _ => hSilent) with
      ⟨_, ph', facts, rest, hBusy, hMoves, rfl, _⟩ |
      ⟨hNot, _⟩
    · exact (hStrays.own hPhase hBusy hMoves).2.1
    · exact absurd hOwn hNot
  · rcases hWhere with
      ⟨hGoing, hFew, a, hThere⟩ | ⟨hOver, hDone⟩
    · refine Or.inl ⟨hGoing, by omega, ?_⟩
      rcases hThere with rfl | rfl
      · exact Strays.advances (Or.inl hPhase)
      · exact Strays.advances (Or.inr hPhase)
    · refine
        Or.inr
          ⟨_, hOver, ?_, fun hNone => c.astray_of_none hNone _,
            fun p hSome => Call.astray_spec hSome _⟩
      subst hDone
      simp only [isIdle, hPhase]

/-
  While a thread is parked and has a permit to look forward
  to, another waits with the wrong lock for a value of one at
  least.  It evaluates its condition, which holds, and finds
  out.  The permit and the tally are as before.
-/
theorem wrong_lock_changes_nothing_beside_permit :
    ∃ (m₀ m : Machine Int) (past ns : List Note),
      (fresh .standard 0 0).Reaches past m₀ ∧
      m₀.isIdle 0 = true ∧
      m₀.holds 0 .foreign = true ∧
      (m₀.cohort 0).permits = 1 ∧
      m₀.run
          [.call 0 .foreign (.waitWhile (.below 1)),
            .advance 0, .advance 0] =
        some (m, ns) ∧
      endingsOf 0 ns = [.misused .foreignLock] ∧
      evaluationsOf 0 ns ≤ 1 ∧
      m.cohorts = m₀.cohorts ∧ m.tally = m₀.tally := by
  have hRuns :
      ∃ (m₀ m : Machine Int) (past ns : List Note),
        (fresh .standard 0 0).run
            [.join, .join, .acquire 1 .bound,
              .call 1 .bound .wait, .advance 1, .advance 1,
              .advance 1, .advance 1, .advance 1, .signal 0,
              .advance 0, .notify 0 (some 1),
              .acquire 0 .foreign] =
          some (m₀, past) ∧
        m₀.isIdle 0 = true ∧
        m₀.holds 0 .foreign = true ∧
        (m₀.cohort 0).permits = 1 ∧
        m₀.run
            [.call 0 .foreign (.waitWhile (.below 1)),
              .advance 0, .advance 0] =
          some (m, ns) ∧
        endingsOf 0 ns = [.misused .foreignLock] :=
    ⟨_, _, _, _, rfl, rfl, rfl, rfl, rfl, rfl⟩
  rcases hRuns with
    ⟨m₀, m, past, ns, hFirst, hIdle, hHeld, hPermit, hRun,
      hEndings⟩
  have hReaches := Reaches.of_run .refl hFirst
  have hInner :
      ∀ l ∈ ([.advance 0, .advance 0] : List (Label Int)),
        l.thread? = some 0 → l.request? = none := by
    decide
  rcases (wrong_lock_changes_nothing hReaches hIdle
      hHeld).2 (.waitWhile (.below 1)) with ⟨_, hThen⟩
  rcases hThen _ m ns hInner hRun with
    ⟨_, _, hAlone, hOnce, _⟩
  have hAside := hAlone (by decide)
  exact
    ⟨m₀, m, _, ns, hReaches, hIdle, hHeld, hPermit, hRun,
      hEndings, hOnce, hAside.cohorts, hAside.tally⟩

end Machine

end CondVar
