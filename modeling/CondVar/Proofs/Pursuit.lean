import CondVar.Proofs.Stalls
import CondVar.Proofs.Turns

/-
  How a thread pursues its call while others take their steps.

  The steps of other threads may come between any two steps of
  a thread in a call, and at most wake it.  By its own steps
  it goes from one turn of its call to the next: where it
  evaluates its condition or is done with blocking, its call
  gets an answer, and nowhere else.  So any run, seen by one
  thread, is a call that follows its answers.

  Main declarations:
    * `Machine.own_or_other`
    * `Phase.Pursues`
    * `Progress`
    * `Machine.progress_of_call`
-/

namespace CondVar

variable {V : Type}

------------------------------------------------------------
-- Facts of One Thread
------------------------------------------------------------

/- What two histories tell of a thread, both tell of it. -/
theorem factsOf_append
    (t : Nat)
    (ns ns' : List Note) :
    factsOf t (ns ++ ns') = factsOf t ns ++ factsOf t ns' := by
  unfold factsOf
  rw [List.filter_append, List.map_append]

/- The facts of a thread's own step are told of it. -/
theorem factsOf_self
    (t : Nat)
    (time : Instant)
    (facts : List Fact) :
    factsOf t (facts.map (Note.mk t time)) = facts := by
  induction facts with
  | nil => rfl
  | cons f fs ih => simpa [factsOf] using ih

/- No fact of another thread's step is. -/
theorem factsOf_other
    {t u : Nat}
    (hOther : u ≠ t)
    (time : Instant)
    (facts : List Fact) :
    factsOf t (facts.map (Note.mk u time)) = [] := by
  unfold factsOf
  rw [List.map_eq_nil_iff, List.filter_eq_nil_iff]
  intro n hMem hThread
  rcases List.mem_map.mp hMem with ⟨f, _, rfl⟩
  exact hOther (of_decide_eq_true hThread)

------------------------------------------------------------
-- Own Steps and Others
------------------------------------------------------------

namespace Machine

/- A thread goes on with its call by its own labels. -/
theorem Goes.thread
    {t : Nat}
    {l : Label V}
    (hGoes : Goes t l) :
    l.thread? = some t := by
  cases hGoes <;> rfl

/-
  A thread that asks for nothing new goes on with its call, or
  another thread takes the step and at most wakes it.
-/
theorem own_or_other
    {m m' : Machine V}
    {l : Label V}
    {ns : List Note}
    {t : Nat}
    {ph : Phase V}
    (hStep : m.step l = some (m', ns))
    (hPhase : m.threads[t]? = some ph)
    (hInner : l.thread? = some t → l.request? = none) :
    (l.thread? = some t ∧
      ∃ ph' facts rest,
        ph ≠ .idle ∧
          m.Moves t ph ph' facts rest ∧
          m' = rest.setPhase t ph' ∧
          factsOf t ns = facts) ∨
      (l.thread? ≠ some t ∧
        factsOf t ns = [] ∧
        ∃ ph', m'.threads[t]? = some ph' ∧
          (ph' = ph ∨ ∃ g, ph' = ph.wake g)) := by
  by_cases hOwn : l.thread? = some t
  · rcases goes_of_inner (hInner hOwn) with ⟨u, hGoes⟩
    have hSame : u = t :=
      Option.some.inj (hGoes.thread.symm.trans hOwn)
    subst hSame
    rcases moves_of_goes hGoes hStep with
      ⟨ph₁, ph', facts, rest, hPhase₁, hBusy, hMoves, hRest,
        rfl⟩
    rw [hPhase] at hPhase₁
    cases hPhase₁
    exact
      Or.inl
        ⟨hOwn, ph', facts, rest, hBusy, hMoves, hRest,
          factsOf_self u m.clock facts⟩
  · refine Or.inr ⟨hOwn, ?_⟩
    have hStepsBy := stepsBy_of_step hStep
    generalize l.thread? = taker at hOwn hStepsBy
    rcases List.getElem?_eq_some_iff.mp hPhase with ⟨hLt, _⟩
    cases hStepsBy with
    | join =>
        refine ⟨rfl, ph, ?_, Or.inl rfl⟩
        exact (List.getElem?_append_left hLt).trans hPhase
    | tick hLater => exact ⟨rfl, ph, hPhase, Or.inl rfl⟩
    | @move u _ _ facts _ hPhase₁ hMoves =>
        have hOther : u ≠ t := by
          rintro rfl
          exact hOwn rfl
        refine ⟨factsOf_other hOther m.clock facts, ?_⟩
        have hLength := hMoves.length_threads
        have hThere := List.getElem?_eq_getElem (hLength ▸ hLt)
        rcases hMoves.phase_other hOther.symm hThere with
          ⟨ph₂, hBefore, hWoken⟩
        rw [hPhase] at hBefore
        cases hBefore
        exact ⟨_, hThere, hWoken⟩

/-
  What holds of a thread's phase, of the answers it got and of
  what was told of it, before every own step and after it, and
  still when it is woken, holds after all steps.
-/
theorem thread_run
    {P : Phase V → List (Answer V) → List Fact → Prop}
    {m m' : Machine V}
    {t : Nat}
    {ls : List (Label V)}
    {ns : List Note}
    {ph : Phase V}
    (rs : List (Answer V))
    (fs : List Fact)
    (hOwn :
      ∀ {m rest : Machine V} {ph ph' facts rs fs},
        m.Moves t ph ph' facts rest → ph ≠ .idle →
          P ph rs fs →
            P ph' (rs ++ (ph.answer? m).toList) (fs ++ facts))
    (hWake :
      ∀ {ph rs fs}, P ph rs fs → ∀ g, P (ph.wake g) rs fs)
    (hPhase : m.threads[t]? = some ph)
    (hStart : P ph rs fs)
    (hInner :
      ∀ l ∈ ls, l.thread? = some t → l.request? = none)
    (hRun : m.run ls = some (m', ns)) :
    ∃ ph',
      m'.threads[t]? = some ph' ∧
        P ph' (rs ++ m.answers t ls) (fs ++ factsOf t ns) := by
  induction ls generalizing m ph rs fs ns with
  | nil =>
      cases hRun
      refine ⟨ph, hPhase, ?_⟩
      rw [answers, factsOf, List.filter_nil, List.map_nil,
        List.append_nil, List.append_nil]
      exact hStart
  | cons l ls ih =>
      rcases run_cons hRun with
        ⟨m₁, ns₁, ns₂, hStep, hRest, rfl⟩
      have hLater :
          ∀ l' ∈ ls, l'.thread? = some t → l'.request? = none :=
        fun l' hMem => hInner l' (List.mem_cons_of_mem l hMem)
      rw [factsOf_append]
      simp only [answers, hStep, hPhase, Option.bind_some,
        ← List.append_assoc]
      rcases own_or_other hStep hPhase
          (hInner l List.mem_cons_self) with
        ⟨hOurs, ph₁, facts, rest, hBusy, hMoves, rfl, hFacts⟩ |
        ⟨hNot, hFacts, ph₁, hThere, hWoken⟩
      · rw [if_pos hOurs, hFacts]
        exact
          ih _ _ (hMoves.phase_self hPhase)
            (hOwn hMoves hBusy hStart) hLater hRest
      · rw [if_neg hNot, hFacts, List.append_nil,
          List.append_nil]
        rcases hWoken with rfl | ⟨g, rfl⟩
        · exact ih _ _ hThere hStart hLater hRest
        · exact ih _ _ hThere (hWake hStart g) hLater hRest

end Machine

------------------------------------------------------------
-- Pursuing a Call
------------------------------------------------------------

namespace Phase

/- The turn of its call that a thread takes in a phase. -/
def turn? : Phase V → Option (Turn V)
| .judging _ a => some (.judge a)
| .entering _ a => some (.block a)
| .ticketed a _ => some (.block a)
| .enrolled a _ => some (.block a)
| .departed a _ => some (.block a)
| .watching a _ _ => some (.block a)
| .parked a _ _ _ => some (.block a)
| .settled a _ _ _ => some (.block a)
| .returning a _ o left => some (a.resume o left)
| .regained a _ o left => some (a.resume o left)
| _ => none

/- Whether a thread has a permit that its call has not used. -/
def hasPermit : Phase V → Bool
| .settled _ _ _ o => o = .signaled
| _ => false

end Phase

/-
  Whether a call is about to block or is told what came of it.
-/
def Turn.Blocks (y : Turn V) : Prop :=
  (∃ a, y = .block a) ∨
    ∃ (a : Attempt V) (o : Outcome) (left : Option Duration),
      y = a.resume o left

namespace Phase

/-
  A thread takes a turn of its call, or could not be counted
  for blocking.  Or it is outside, as the call has ended, or
  was broken off when it blocked because of misuse.
-/
inductive Pursues (y : Turn V) :
    Phase V → List Ending → Prop where
| going {ph : Phase V}
    (hTurn : ph.turn? = some y) : Pursues y ph []
| refused {a : Attempt V} {g : Nat} {misuse : Misuse}
    (hTurn : y = .block a) : Pursues y (.withdrawing g misuse) []
| ended {e : Ending}
    (hEnd : y = .finish e) : Pursues y .idle [e]
| misused {misuse : Misuse}
    (hBlocks : y.Blocks) : Pursues y .idle [.misused misuse]

/- A woken thread takes the same turn of its call. -/
theorem turn?_wake
    (g : Nat)
    (ph : Phase V) :
    (ph.wake g).turn? = ph.turn? :=
  ph.apply_wake turn? (fun _ _ _ _ => rfl) g

/- So it pursues the same call. -/
theorem Pursues.wake
    {y : Turn V}
    {ph : Phase V}
    {es : List Ending}
    (hPursues : ph.Pursues y es)
    (g : Nat) :
    (ph.wake g).Pursues y es := by
  cases hPursues with
  | going hTurn => exact .going ((turn?_wake g ph).trans hTurn)
  | refused hTurn => exact .refused hTurn
  | ended hEnd => exact .ended hEnd
  | misused hBlocks => exact .misused hBlocks

/- A thread that is neither outside nor refused takes a turn. -/
theorem Pursues.turn?_eq
    {y : Turn V}
    {ph : Phase V}
    {es : List Ending}
    (hPursues : ph.Pursues y es)
    (hBusy : ph ≠ .idle)
    (hCounted : ∀ g misuse, ph ≠ .withdrawing g misuse) :
    ph.turn? = some y ∧ es = [] := by
  cases hPursues with
  | going hTurn => exact ⟨hTurn, rfl⟩
  | refused hTurn => exact absurd rfl (hCounted _ _)
  | ended hEnd => exact absurd rfl hBusy
  | misused hBlocks => exact absurd rfl hBusy

/- A call ends once, as it should or because of misuse. -/
theorem Pursues.over
    {y : Turn V}
    {ph : Phase V}
    {es : List Ending}
    {e : Ending}
    (hPursues : ph.Pursues y es)
    (hMem : e ∈ es) :
    ph = .idle ∧ es = [e] ∧
      (y = .finish e ∨ ∃ misuse, e = .misused misuse) := by
  cases hPursues with
  | going hTurn => cases hMem
  | refused hTurn => cases hMem
  | ended hEnd =>
      cases List.mem_singleton.mp hMem
      exact ⟨rfl, rfl, Or.inl hEnd⟩
  | @misused misuse hBlocks =>
      cases List.mem_singleton.mp hMem
      exact ⟨rfl, rfl, Or.inr ⟨misuse, rfl⟩⟩

/-
  A call that is to end has ended, unless it is only just told
  what came of blocking or was broken off then.
-/
theorem Pursues.of_finish
    {e : Ending}
    {ph : Phase V}
    {es : List Ending}
    (hPursues : ph.Pursues (.finish e) es) :
    es = [e] ∨
      (Turn.finish (V := V) e).Blocks ∧
        ((ph.turn? = some (.finish e) ∧ es = []) ∨
          ∃ misuse, es = [.misused misuse]) := by
  cases hPursues with
  | going hTurn =>
      refine Or.inr ⟨?_, Or.inl ⟨hTurn, rfl⟩⟩
      cases ph with
      | returning a g o left =>
          exact
            Or.inr ⟨a, o, left, (Option.some.inj hTurn).symm⟩
      | regained a g o left =>
          exact
            Or.inr ⟨a, o, left, (Option.some.inj hTurn).symm⟩
      | _ => cases hTurn
  | refused hTurn => cases hTurn
  | ended hEnd =>
      cases hEnd
      exact Or.inl rfl
  | @misused misuse hBlocks =>
      exact Or.inr ⟨hBlocks, Or.inr ⟨misuse, rfl⟩⟩

/- Waking gives no thread a permit, and takes none. -/
theorem hasPermit_wake
    (ph : Phase V)
    (g : Nat) :
    (ph.wake g).hasPermit = ph.hasPermit :=
  ph.apply_wake hasPermit (fun _ _ _ _ => rfl) g

/- A thread that takes a turn of its call pursues it. -/
theorem pursues_turn
    (y : Turn V)
    (side : Side) :
    (y.phase side).Pursues y
      (y.facts.filterMap Fact.ending?) := by
  cases y with
  | block a => exact .going rfl
  | judge a => exact .going rfl
  | finish e => exact .ended rfl

/- It has no permit for that. -/
theorem hasPermit_turn
    (y : Turn V)
    (side : Side) :
    (y.phase side).hasPermit = false := by
  cases y <;> rfl

end Phase

/-
  A thread has got from one phase and turn of its call to
  others, by these answers and with these facts and incidents.

  `judged`: what it has told of evaluations are those of its
  call.  `taken`: it has told of a permit for each time that
  its call was signaled, and for one that it still has.
-/
structure Progress
    (ph : Phase V)
    (y : Turn V)
    (es : List Ending)
    (rs : List (Answer V))
    (facts : List Fact)
    (xs : List Incident)
    (ph' : Phase V)
    (y' : Turn V) : Prop where
  follows : y.follow? rs = some (xs, y')
  pursues : ph'.Pursues y' (es ++ facts.filterMap Fact.ending?)
  judged :
    facts.countP (· = .judged) =
      xs.countP Incident.isEvaluation
  taken :
    facts.countP Fact.takesPermit + ph.hasPermit.toNat =
      xs.countP Incident.isSignaled + ph'.hasPermit.toNat

namespace Progress

variable {ph ph' ph'' : Phase V}
variable {y y' y'' : Turn V}
variable {es : List Ending}
variable {rs rs' : List (Answer V)}
variable {facts facts' : List Fact}
variable {xs xs' : List Incident}

/- A thread that has nothing to tell stays at its turn. -/
theorem stays
    (hPursues : ph'.Pursues y es)
    (hPermit : ph'.hasPermit = ph.hasPermit) :
    Progress ph y es [] [] [] ph' y where
  follows := rfl
  pursues := by
    rw [List.filterMap_nil, List.append_nil]
    exact hPursues
  judged := rfl
  taken := by rw [hPermit]; rfl

/- A thread may go on with its turn and tell of that. -/
theorem goes
    (hTurn : ph'.turn? = some y)
    (hEndings : facts.filterMap Fact.ending? = [])
    (hJudged : facts.countP (· = .judged) = 0)
    (hTaken :
      facts.countP Fact.takesPermit + ph.hasPermit.toNat =
        ph'.hasPermit.toNat) :
    Progress ph y [] [] facts [] ph' y where
  follows := rfl
  pursues := by
    rw [hEndings]
    exact .going hTurn
  judged := hJudged
  taken := by
    rw [hTaken]
    exact (Nat.zero_add _).symm

/- A call may be broken off because of misuse. -/
theorem breaks
    {misuse : Misuse}
    (hBlocks : y.Blocks)
    (hEndings :
      facts.filterMap Fact.ending? = [.misused misuse])
    (hJudged : facts.countP (· = .judged) = 0)
    (hTaken : facts.countP Fact.takesPermit = 0)
    (hPermit : ph.hasPermit = false) :
    Progress ph y [] [] facts [] .idle y where
  follows := rfl
  pursues := by
    rw [hEndings]
    exact .misused hBlocks
  judged := hJudged
  taken := by
    rw [hTaken, hPermit]
    rfl

/- One progress after another is a progress. -/
theorem trans
    (hFirst : Progress ph y es rs facts xs ph' y')
    (hThen :
      Progress ph' y' (es ++ facts.filterMap Fact.ending?) rs'
        facts' xs' ph'' y'') :
    Progress ph y es (rs ++ rs') (facts ++ facts') (xs ++ xs')
      ph'' y'' where
  follows := Turn.follow?_append hFirst.follows hThen.follows
  pursues := by
    rw [List.filterMap_append, ← List.append_assoc]
    exact hThen.pursues
  judged := by
    rw [List.countP_append, List.countP_append, hFirst.judged,
      hThen.judged]
  taken := by
    have hTaken := hFirst.taken
    have hTaken' := hThen.taken
    rw [List.countP_append, List.countP_append]
    omega

end Progress

------------------------------------------------------------
-- Every Step Is Progress
------------------------------------------------------------

namespace Machine

/- A turn tells of the end of its call at most. -/
theorem countP_turn_facts
    (y : Turn V)
    {q : Fact → Bool}
    (hNot : ∀ e, q (.finished e) = false) :
    y.facts.countP q = 0 := by
  cases y with
  | block a => rfl
  | judge a => rfl
  | finish e =>
      change [Fact.finished e].countP q = 0
      rw [countP_one, hNot]
      rfl

/- A thread takes the next turn of its call. -/
theorem progress_turn
    {ph : Phase V}
    {y y' : Turn V}
    {rs : List (Answer V)}
    {f : Fact}
    {xs : List Incident}
    (side : Side)
    (hFollows : y.follow? rs = some (xs, y'))
    (hEnding : f.ending? = none)
    (hPermit : f.takesPermit = false)
    (hNone : ph.hasPermit.toNat = xs.countP Incident.isSignaled)
    (hJudged :
      (decide (f = .judged)).toNat =
        xs.countP Incident.isEvaluation) :
    Progress ph y [] rs (f :: y'.facts) xs (y'.phase side)
      y' where
  follows := hFollows
  pursues := by
    rw [List.filterMap_cons_none hEnding, List.nil_append]
    exact Phase.pursues_turn y' side
  judged := by
    rw [List.countP_cons, countP_turn_facts y' (fun e => rfl),
      Nat.zero_add, ← toNat_eq_ite]
    exact hJudged
  taken := by
    rw [List.countP_cons, countP_turn_facts y' (fun e => rfl),
      hPermit, Phase.hasPermit_turn y' side, hNone]
    exact Nat.zero_add _

/- A thread's own step is progress in its call. -/
theorem Moves.progress
    {m rest : Machine V}
    {t : Nat}
    {ph ph' : Phase V}
    {facts : List Fact}
    {y : Turn V}
    {es : List Ending}
    (hMoves : m.Moves t ph ph' facts rest)
    (hBusy : ph ≠ .idle)
    (hPursues : ph.Pursues y es) :
    ∃ xs y',
      Progress ph y es (ph.answer? m).toList facts xs ph'
        y' := by
  cases hPursues with
  | ended hEnd => exact absurd rfl hBusy
  | misused hBlocks => exact absurd rfl hBusy
  | @refused a g misuse hTurn =>
      cases hMoves with
      | withdraw =>
          exact
            ⟨[], y,
              .breaks (Or.inl ⟨a, hTurn⟩) rfl rfl rfl rfl⟩
  | going hTurn =>
      cases hMoves with
      | @judge side a =>
          cases hTurn
          exact ⟨_, _, progress_turn side rfl rfl rfl rfl rfl⟩
      | @enterForeign a =>
          cases hTurn
          exact
            ⟨[], _, .breaks (Or.inl ⟨a, rfl⟩) rfl rfl rfl rfl⟩
      | enroll => exact ⟨[], y, .goes hTurn rfl rfl rfl⟩
      | count hCounted =>
          exact ⟨[], y, .goes hTurn rfl rfl rfl⟩
      | refuse hRefused =>
          cases hTurn
          exact ⟨[], _, .stays (.refused rfl) rfl⟩
      | depart => exact ⟨[], y, .goes hTurn rfl rfl rfl⟩
      | watch => exact ⟨[], y, .goes hTurn rfl rfl rfl⟩
      | @settle a g v o hLook =>
          refine ⟨[], y, .goes hTurn rfl rfl ?_⟩
          cases o <;> rfl
      | @park a g v v' wakeAt stalled hLook =>
          cases stalled with
          | none => exact ⟨[], y, .goes hTurn rfl rfl rfl⟩
          | some d => exact ⟨[], y, .goes hTurn rfl rfl rfl⟩
      | expire hDue => exact ⟨[], y, .goes hTurn rfl rfl rfl⟩
      | @measure a g v o =>
          cases hTurn
          refine
            ⟨[.blocked a.budget o (m.clock.since v.started)], _,
              { follows := rfl
                pursues := .going rfl
                judged := rfl
                taken := ?_ }⟩
          cases o <;> rfl
      | regain hFree => exact ⟨[], y, .goes hTurn rfl rfl rfl⟩
      | resume hCounted =>
          cases hTurn
          exact
            ⟨[], _, progress_turn .bound rfl rfl rfl rfl rfl⟩
      | @underflow a g o left misuse hRefused =>
          cases hTurn
          exact
            ⟨[], _,
              .breaks (Or.inr ⟨a, o, left, rfl⟩) rfl rfl rfl
                rfl⟩
      | _ => cases hTurn

/- A call begins as it is asked for, and gets no answer yet. -/
theorem run_of_call
    {m m' : Machine V}
    {t : Nat}
    {side : Side}
    {c : Call V}
    {ls : List (Label V)}
    {ns : List Note}
    (hRun : m.run (.call t side c :: ls) = some (m', ns)) :
    ∃ m₁ : Machine V,
      m.holds t side = true ∧
        m₁ = m.setPhase t (c.begin.phase side) ∧
        m₁.threads[t]? = some (c.begin.phase side) ∧
        m₁.run ls = some (m', ns) ∧
        m.answers t (.call t side c :: ls) =
          m₁.answers t ls := by
  rcases run_cons hRun with
    ⟨m₁, ns₁, ns₂, hStep, hRest, rfl⟩
  rcases call_of_step hStep with ⟨hIdle, hHeld, rfl, rfl⟩
  refine
    ⟨_, hHeld, rfl, (Moves.call hHeld).phase_self hIdle,
      hRest, ?_⟩
  simp only [answers, hStep, hIdle, Option.bind_some,
    Phase.answer?, Option.toList_none, ite_self,
    List.nil_append]

/-
  Whatever steps a machine takes from the beginning of a call
  on, the call has followed the answers that its thread got
  there, unless the thread has asked for something else.
-/
theorem progress_of_call
    {m m' : Machine V}
    {t : Nat}
    {side : Side}
    {c : Call V}
    {ls : List (Label V)}
    {ns : List Note}
    (hInner :
      ∀ l ∈ ls, l.thread? = some t → l.request? = none)
    (hRun : m.run (.call t side c :: ls) = some (m', ns)) :
    ∃ ph,
      m'.threads[t]? = some ph ∧
        ∃ xs y,
          Progress (c.begin.phase side) c.begin []
            (m.answers t (.call t side c :: ls)) (factsOf t ns)
            xs ph y := by
  rcases run_of_call hRun with
    ⟨m₁, _, _, hPhase, hRest, hAnswers⟩
  have hPursues := Phase.pursues_turn c.begin side
  rw [facts_begin] at hPursues
  rw [hAnswers]
  refine
    thread_run
      (P := fun ph rs fs =>
        ∃ xs y,
          Progress (c.begin.phase side) c.begin [] rs fs xs ph
            y)
      [] [] ?_ ?_ hPhase ⟨[], _, .stays hPursues rfl⟩ hInner
      hRest
  · rintro m rest ph ph' facts rs fs hMoves hBusy
      ⟨xs, y, hProgress⟩
    rcases hMoves.progress hBusy hProgress.pursues with
      ⟨xs', y', hNext⟩
    exact ⟨_, _, hProgress.trans hNext⟩
  · rintro ph rs fs ⟨xs, y, hProgress⟩ g
    have hWoken :=
      hProgress.trans
        (.stays (hProgress.pursues.wake g)
          (ph.hasPermit_wake g))
    rw [List.append_nil, List.append_nil, List.append_nil]
      at hWoken
    exact ⟨_, _, hWoken⟩

end Machine

end CondVar
