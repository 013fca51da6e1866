import CondVar.Proofs.Covering
import CondVar.Proofs.Wakeful

/-
  Signals and interrupts are atomic.

  What is seen of a machine, where a signal reads the cohort
  and posts to it later, and an interrupt closes the cohort
  and replaces it later, can be seen of the atomic system.
  The atomic system goes along with the machine as its waiters
  would act if they never fell asleep.

  Main declarations:
    * `Atomic.Matches.of_wakeful`
    * `Machine.exists_accompanies`
    * `Machine.refines_atomic`
-/

namespace CondVar

variable {V : Type}

------------------------------------------------------------
-- Waiters That Never Park
------------------------------------------------------------

namespace Machine

/- A phase where nobody has parked comes from the machine's. -/
theorem phase_of_wakeful
    {m : Machine V}
    {s : Settings}
    {t : Nat}
    {x : Phase V}
    (hPhase : (m.wakeful s).threads[t]? = some x) :
    ∃ ph, m.threads[t]? = some ph ∧ ph.wakeful s = x := by
  change (m.threads.map (Phase.wakeful s))[t]? = _ at hPhase
  rw [List.getElem?_map] at hPhase
  exact Option.map_eq_some_iff.mp hPhase

/- A phase that is no waiter's is the machine's own. -/
theorem phase_of_wakeful_of_eq
    {m : Machine V}
    {s : Settings}
    {t : Nat}
    {x : Phase V}
    (hPhase : (m.wakeful s).threads[t]? = some x)
    (hOnly : ∀ ph : Phase V, ph.wakeful s = x → ph = x) :
    m.threads[t]? = some x := by
  rcases phase_of_wakeful hPhase with ⟨ph, hThere, hSame⟩
  rw [hThere, hOnly ph hSame]

/- Where nobody parks, nobody sleeps. -/
theorem awake_of_wakeful
    (m : Machine V)
    (s : Settings) :
    ∀ ph ∈ (m.wakeful s).threads, ph.isAsleep = false := by
  intro x hMem
  rcases List.mem_map.mp hMem with ⟨ph, _, rfl⟩
  cases ph <;> rfl

end Machine

namespace Phase

/- Only a signal's phase is a signal's where nobody parks. -/
theorem eq_signaling_of_wakeful
    {s : Settings}
    {g : Nat}
    (ph : Phase V)
    (hSame : ph.wakeful s = .signaling g) :
    ph = .signaling g := by
  cases ph with
  | signaling g' => exact hSame
  | _ => cases hSame

/- Only an interrupt's phase is one where nobody parks. -/
theorem eq_closing_of_wakeful
    {s : Settings}
    {taken : Bool}
    (ph : Phase V)
    (hSame : ph.wakeful s = .closing taken) :
    ph = .closing taken := by
  cases ph with
  | closing taken' => exact hSame
  | _ => cases hSame

/- Only an interrupt's phase is one where nobody parks. -/
theorem eq_rousing_of_wakeful
    {s : Settings}
    {taken : Bool}
    {g : Nat}
    {r : WakeReport}
    (ph : Phase V)
    (hSame : ph.wakeful s = .rousing taken g r) :
    ph = .rousing taken g r := by
  cases ph with
  | rousing taken' g' r' => exact hSame
  | _ => cases hSame

end Phase

namespace Atomic

/-
  What matches a step where nobody has parked matches the
  machine's own step.
-/
theorem Matches.of_wakeful
    {m m' : Machine V}
    {s : Settings}
    {l l' : Label V}
    {ls : List (Label V)}
    {ns ns' : List Note}
    (hMatches :
      Matches (m.wakeful s) (m'.wakeful s) l' ns ls ns')
    (hAlike : l.Alike l') :
    Matches m m' l ns ls ns' := by
  have hSignal :
      ∀ {t : Nat}, l' = .signal t → l = .signal t := by
    rintro t rfl
    rcases hAlike with hSame | ⟨_, _, _, hNotify⟩
    · exact hSame.symm
    · cases hNotify
  have hAdvance :
      ∀ {t : Nat}, l' = .advance t → l = .advance t := by
    rintro t rfl
    rcases hAlike with hSame | ⟨_, _, _, hNotify⟩
    · exact hSame.symm
    · cases hNotify
  have hSignaling :
      ∀ {m : Machine V} {t : Nat},
        (∃ g, (m.wakeful s).threads[t]? =
          some (.signaling g)) →
        ∃ g, m.threads[t]? = some (.signaling g) := by
    rintro m t ⟨g, hPhase⟩
    exact
      ⟨g,
        Machine.phase_of_wakeful_of_eq hPhase
          Phase.eq_signaling_of_wakeful⟩
  constructor
  · rw [← hAlike.request?_eq]
    exact hMatches.asked
  · exact hMatches.reported
  · intro n hMem epoch r hFact
    rcases hMatches.signals n hMem epoch r hFact with
      ⟨hBegun, hOpen⟩
    exact
      ⟨hBegun.imp hSignal hSignaling,
        hOpen.imp hAdvance hSignaling⟩
  · intro n hMem epoch r hFact
    rcases hMatches.interrupts n hMem epoch r hFact with
      ⟨hLabel, ⟨taken, hBefore⟩, taken', g, hAfter⟩
    exact
      ⟨hAdvance hLabel,
        ⟨taken,
          Machine.phase_of_wakeful_of_eq hBefore
            Phase.eq_closing_of_wakeful⟩,
        taken', g,
        Machine.phase_of_wakeful_of_eq hAfter
          Phase.eq_rousing_of_wakeful⟩

/- Of a step of which nothing is seen nothing is reported. -/
theorem Matches.of_silent
    {m m' : Machine V}
    {l : Label V}
    {ns : List Note}
    (hSilent : m.Silent m' l ns) :
    Matches m m' l ns [] [] := by
  rcases hSilent with ⟨hInner, hQuiet, _⟩
  refine .of_quiet ?_ ?_ nofun
  · rw [hInner]
    rfl
  · symm
    change ns.filter Note.isReport = []
    rw [List.filter_eq_nil_iff] at hQuiet ⊢
    intro n hMem hReport
    apply hQuiet n hMem
    unfold Note.isReport at hReport
    split at hReport
    · cases hReport
    · exact hReport

end Atomic

------------------------------------------------------------
-- Runs Side by Side
------------------------------------------------------------

/-
  The atomic system that comes from an orderly machine whose
  waiters never park goes along with every run of the machine,
  by a run of its own in which the same is asked for and
  reported.  It ends as what comes from the machine's end.
-/
theorem Machine.exists_accompanies
    {m m' : Machine V}
    {s : Settings}
    {ls : List (Label V)}
    {ns : List Note}
    (hOrderly : (m.wakeful s).Orderly)
    (hRun : m.run ls = some (m', ns)) :
    ∃ blocks ns',
      Atomic.Accompanies m (m.wakeful s).atomic ls blocks ∧
        (m.wakeful s).atomic.run blocks.flatten =
          some ((m'.wakeful s).atomic, ns') ∧
        blocks.flatten.filterMap Label.request? =
          ls.filterMap Label.request? ∧
        ns'.filter Note.isReport =
          ns.filter Note.isReport ∧
        (m'.wakeful s).Orderly := by
  induction ls generalizing m ns with
  | nil =>
      cases hRun
      exact ⟨[], [], .done, rfl, rfl, rfl, hOrderly⟩
  | cons l ls ih =>
      rcases run_cons hRun with
        ⟨m₁, ns₁, ns₂, hStep, hTail, rfl⟩
      -- Either nothing is seen of the step, or it is covered.
      have hFirst :
          ∃ labels ns₁',
            (m.wakeful s).atomic.run labels =
                some ((m₁.wakeful s).atomic, ns₁') ∧
              Atomic.Matches m m₁ l ns₁ labels ns₁' ∧
              (m₁.wakeful s).Orderly := by
        rcases wakeful_of_step s hStep with
          ⟨hSilent, hSame⟩ | ⟨l', hAlike, hStep'⟩
        · rw [hSame]
          exact ⟨[], [], rfl, .of_silent hSilent, hOrderly⟩
        · rcases hOrderly.covered_of_step
              (m.awake_of_wakeful s) (m₁.awake_of_wakeful s)
              hStep' with
            ⟨labels, ns₁', hLabels, hMatches⟩
          exact
            ⟨labels, ns₁', hLabels,
              hMatches.of_wakeful hAlike,
              hOrderly.steps (steps_of_step hStep')⟩
      rcases hFirst with
        ⟨labels, ns₁', hLabels, hMatches, hOrderly₁⟩
      rcases ih hOrderly₁ hTail with
        ⟨blocks, ns₂', hAlong, hRest, hAsked, hReported,
          hOrderly'⟩
      refine
        ⟨labels :: blocks, ns₁' ++ ns₂',
          .step hStep hLabels hMatches hAlong,
          Atomic.run_append hLabels hRest, ?_, ?_, hOrderly'⟩
      · rw [List.flatten_cons, List.filterMap_append,
          hMatches.asked, hAsked]
        cases hRequest : l.request? with
        | none =>
            rw [List.filterMap_cons_none hRequest]
            rfl
        | some r =>
            rw [List.filterMap_cons_some hRequest]
            rfl
      · rw [List.filter_append, List.filter_append,
          hMatches.reported, hReported]

/- What is ahead of an orderly machine is open. -/
theorem Machine.Orderly.open_ahead
    {m : Machine V}
    (hOrderly : m.Orderly) :
    (m.ahead.cohort m.ahead.current).closed = false := by
  cases hClosed : (m.cohort m.current).closed with
  | false =>
      rw [hOrderly.cohort_ahead_of_open hClosed]
      exact hClosed
  | true =>
      rw [cohort_front hOrderly.numbered hClosed]
      rfl

/-
  Every run of a condition variable, with any number of
  threads, has an atomic system go along with it: signals and
  interrupts take effect in one step, each signal between the
  steps in which it reads the cohort and posts to it, and each
  interrupt as it closes the cohort.  The history of the run,
  of what is asked for and of the results of signals,
  interrupts and waits, is a history of the atomic system.
  At the end of both, the locks, the count of waiters and the
  clock are the same, and the atomic system's current cohort
  is open.
-/
theorem Machine.refines_atomic
    (s : Settings)
    (value foreign : V)
    (ls : List (Label V))
    (m : Machine V)
    (ns : List Note)
    (hRun :
      (Machine.fresh s value foreign).run ls =
        some (m, ns)) :
    ∃ (blocks : List (List (Label V))) (a : Atomic V)
        (ns' : List Note),
      Atomic.Accompanies (.fresh s value foreign)
          (.fresh s value foreign) ls blocks ∧
        (Atomic.fresh s value foreign).run blocks.flatten =
          some (a, ns') ∧
        blocks.flatten.filterMap Label.request? =
          ls.filterMap Label.request? ∧
        ns'.filter Note.isReport =
          ns.filter Note.isReport ∧
        a.core.bound = m.bound ∧
        a.core.foreign = m.foreign ∧
        a.core.tally = m.tally ∧
        a.core.clock = m.clock ∧
        (a.core.cohort a.core.current).closed = false := by
  have hStart :
      (Machine.wakeful s (.fresh s value foreign)).atomic =
        Atomic.fresh s value foreign :=
    rfl
  have hOrderly :
      (Machine.wakeful s (.fresh s value foreign)).Orderly :=
    orderly_fresh s value foreign
  rcases exists_accompanies hOrderly hRun with
    ⟨blocks, ns', hAlong, hRun', hAsked, hReported,
      hOrderly'⟩
  rw [hStart] at hAlong hRun'
  exact
    ⟨blocks, (m.wakeful s).atomic, ns', hAlong, hRun', hAsked,
      hReported, rfl, rfl, rfl, rfl, hOrderly'.open_ahead⟩

/-
  A signal reads the first cohort, and posts to it after the
  cohort has been closed and replaced and a waiter is there
  with the new one.  It reports nobody, and so it does in the
  atomic system, where the waiter registers after the signal
  has taken effect.
-/
theorem Machine.refines_atomic_late_signal :
    ∃ (ls : List (Label Unit)) (m : Machine Unit)
        (ns : List Note) (blocks : List (List (Label Unit)))
        (a : Atomic Unit) (ns' : List Note),
      (Machine.fresh .standard () ()).run ls = some (m, ns) ∧
        (m.cohort m.current).registered = 1 ∧
        ⟨1, ⟨0⟩, .signaled .nobody⟩ ∈ ns ∧
        Atomic.Accompanies (.fresh .standard () ())
          (.fresh .standard () ()) ls blocks ∧
        (Atomic.fresh .standard () ()).run blocks.flatten =
          some (a, ns') ∧
        ⟨1, ⟨0⟩, .signaled .nobody⟩ ∈ ns' := by
  have hRuns :
      ∃ (m : Machine Unit) (ns : List Note),
        (Machine.fresh .standard () ()).run
            [.join, .join, .join, .signal 1, .interrupt 2,
              .advance 2, .advance 2, .advance 2, .advance 2,
              .acquire 0 .bound, .call 0 .bound .wait,
              .advance 0, .advance 0, .advance 0,
              .advance 1] =
          some (m, ns) ∧
        (m.cohort m.current).registered = 1 ∧
        ⟨1, ⟨0⟩, .signaled .nobody⟩ ∈ ns :=
    ⟨_, _, rfl, rfl, by decide⟩
  rcases hRuns with ⟨m, ns, hRun, hWaiter, hSignaled⟩
  rcases refines_atomic .standard () () _ m ns hRun with
    ⟨blocks, a, ns', hAlong, hRun', _, hReported, _⟩
  refine
    ⟨_, m, ns, blocks, a, ns', hRun, hWaiter, hSignaled,
      hAlong, hRun', ?_⟩
  have hMem :
      ⟨1, ⟨0⟩, .signaled .nobody⟩ ∈
        ns'.filter Note.isReport := by
    rw [hReported]
    exact List.mem_filter.mpr ⟨hSignaled, rfl⟩
  exact (List.mem_filter.mp hMem).1

end CondVar
