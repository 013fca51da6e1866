import CondVar.Proofs.Ahead

/-
  The steps of a machine as steps of an atomic system.

  A signal that reads a closed cohort takes effect at once: on
  the next cohort, where nobody has registered yet.  One that
  has read an open cohort takes effect as it posts, or else as
  soon as the cohort is closed.  An interrupt takes effect as
  it closes.  All other steps of threads that are awake are
  the same.

  Main declarations:
    * `Atomic.run_post_nobody`
    * `Machine.Covered`
    * `Machine.Orderly.covered_of_post`
    * `Machine.Orderly.covered_of_close`
    * `Machine.Orderly.covered_of_step`
-/

namespace CondVar

variable {V : Type}

------------------------------------------------------------
-- Runs of Atomic Systems
------------------------------------------------------------

/- A cohort that stays as it is changes nothing. -/
theorem Machine.setCohort_self
    (m : Machine V)
    (g : Nat) :
    m.setCohort g (m.cohort g) = m := by
  unfold setCohort cohort
  by_cases hLt : g < m.cohorts.length
  · rw [List.getElem?_eq_getElem hLt, Option.getD_some,
      List.set_getElem_self]
  · rw [List.set_eq_of_length_le (Nat.le_of_not_lt hLt)]

namespace Atomic

/- A run of one step. -/
theorem run_one
    {a a' : Atomic V}
    {l : Label V}
    {ns : List Note}
    (hStep : a.step l = some (a', ns)) :
    a.run [l] = some (a', ns) := by
  simp [run, hStep]

/- A run goes on where another ends. -/
theorem run_append
    {a a' a'' : Atomic V}
    {ls ls' : List (Label V)}
    {ns ns' : List Note}
    (hRun : a.run ls = some (a', ns))
    (hRest : a'.run ls' = some (a'', ns')) :
    a.run (ls ++ ls') = some (a'', ns ++ ns') := by
  induction ls generalizing a ns with
  | nil =>
      cases hRun
      exact hRest
  | cons l ls ih =>
      rw [run] at hRun
      rcases Option.bind_eq_some_iff.mp hRun with
        ⟨⟨a₁, ns₁⟩, hStep, hBind⟩
      rcases Option.bind_eq_some_iff.mp hBind with
        ⟨⟨a₂, ns₂⟩, hTail, hEq⟩
      cases hEq
      have hWhole := ih hTail
      simp [run, hStep, hWhole]

/- A signal that has begun and not taken effect may do so. -/
theorem step_post
    {a : Atomic V}
    {t n : Nat}
    {c : Cohort}
    {r : WakeReport}
    (hPhase : a.core.threads[t]? = some (.signaling n))
    (hNone : a.answers t = none)
    (hPost :
      (a.core.cohort a.core.current).post = (c, r)) :
    a.step (.advance t) =
      some
        (setAnswer
            ⟨a.core.setCohort a.core.current c, a.answers⟩ t
            (some r),
          [⟨t, a.core.clock, .posted c.epoch r⟩]) := by
  simp only [step, advance, hPhase, hNone, post, hPost, noted]
  rfl

/- A signal that has taken effect may return. -/
theorem step_reply
    {a : Atomic V}
    {t n : Nat}
    {r : WakeReport}
    (hPhase : a.core.threads[t]? = some (.signaling n))
    (hAnswer : a.answers t = some r) :
    a.step (.advance t) =
      some
        ((a.reply t r).1, [⟨t, a.core.clock, .signaled r⟩]) := by
  simp only [step, advance, hPhase, hAnswer, noted]
  rfl

/- An interrupt may take effect. -/
theorem step_replace
    {a : Atomic V}
    {t : Nat}
    {taken : Bool}
    {c : Cohort}
    {r : WakeReport}
    (hPhase : a.core.threads[t]? = some (.closing taken))
    (hClose :
      (a.core.cohort a.core.current).close = (c, r)) :
    a.step (.advance t) =
      some
        (⟨Machine.setPhase
              { a.core with
                cohorts :=
                  a.core.cohorts.set a.core.current c ++
                    [.fresh (c.epoch + 1)]
                current := a.core.cohorts.length }
              t (.renewing taken a.core.current r),
            a.answers⟩,
          [⟨t, a.core.clock, .closed c.epoch r⟩]) := by
  simp only [step, advance, hPhase, replace, hClose, noted]
  rfl

/- An interrupt that has taken effect may return. -/
theorem step_leave
    {a : Atomic V}
    {t g : Nat}
    {taken : Bool}
    {r : WakeReport}
    (hPhase :
      a.core.threads[t]? = some (.renewing taken g r)) :
    a.step (.advance t) =
      some
        (⟨(if taken then a.core.setHolder .bound none
            else a.core).setPhase t .idle,
            a.answers⟩,
          [⟨t, a.core.clock,
            .interrupted (a.core.cohort g).epoch r⟩]) := by
  simp only [step, advance, hPhase, leave, noted]
  rfl

/-
  A signal that finds nobody registered without a permit
  changes nothing but its answer.
-/
theorem step_post_nobody
    {a : Atomic V}
    {t n : Nat}
    (hPhase : a.core.threads[t]? = some (.signaling n))
    (hNone : a.answers t = none)
    (hNobody :
      (a.core.cohort a.core.current).registered ≤
        (a.core.cohort a.core.current).permits) :
    a.step (.advance t) =
      some
        (a.setAnswer t (some .nobody),
          [⟨t, a.core.clock,
            .posted (a.core.cohort a.core.current).epoch
              .nobody⟩]) := by
  have hPost :
      (a.core.cohort a.core.current).post =
        (a.core.cohort a.core.current, .nobody) := by
    unfold Cohort.post
    rw [if_pos (Or.inr hNobody)]
  rw [step_post hPhase hNone hPost, Machine.setCohort_self]

/-
  Signals that find nobody take effect one after the other,
  in any order.
-/
theorem run_post_nobody
    {a : Atomic V}
    {ts : List Nat}
    (hDistinct : ts.Nodup)
    (hPhases :
      ∀ t ∈ ts,
        ∃ n, a.core.threads[t]? = some (.signaling n))
    (hNone : ∀ t ∈ ts, a.answers t = none)
    (hNobody :
      (a.core.cohort a.core.current).registered ≤
        (a.core.cohort a.core.current).permits) :
    a.run (ts.map Label.advance) =
      some
        ({ a with
            answers := fun u =>
              if u ∈ ts then some .nobody else a.answers u },
          ts.map
            (fun t =>
              ⟨t, a.core.clock,
                .posted (a.core.cohort a.core.current).epoch
                  .nobody⟩)) := by
  induction ts generalizing a with
  | nil =>
      simp [run]
  | cons t ts ih =>
      rcases hPhases t List.mem_cons_self with ⟨n, hPhase⟩
      have hStep :=
        step_post_nobody hPhase (hNone t List.mem_cons_self)
          hNobody
      rcases List.nodup_cons.mp hDistinct with
        ⟨hNew, hDistinct'⟩
      have hNone' :
          ∀ u ∈ ts,
            (a.setAnswer t (some .nobody)).answers u =
              none := by
        intro u hMem
        have hOther : u ≠ t := by
          rintro rfl
          exact hNew hMem
        change (if u = t then _ else a.answers u) = none
        rw [if_neg hOther]
        exact hNone u (List.mem_cons_of_mem t hMem)
      have hRest :=
        ih (a := a.setAnswer t (some .nobody)) hDistinct'
          (fun u hMem => hPhases u (List.mem_cons_of_mem t hMem))
          hNone' hNobody
      have hAnswers :
          (fun u =>
              if u ∈ ts then some .nobody
              else (a.setAnswer t (some .nobody)).answers u) =
            fun u =>
              if u ∈ t :: ts then some WakeReport.nobody
              else a.answers u := by
        funext u
        change
          (if u ∈ ts then _
            else if u = t then some .nobody
            else a.answers u) = _
        by_cases hSelf : u = t
        · simp [hSelf]
        · simp [hSelf]
      rw [hAnswers] at hRest
      exact run_append (run_one hStep) hRest

/- An answer that is set again is the later one. -/
theorem setAnswer_setAnswer
    (a : Atomic V)
    (t : Nat)
    (r r' : Option WakeReport) :
    (a.setAnswer t r).setAnswer t r' = a.setAnswer t r' := by
  unfold setAnswer
  congr 1
  funext u
  split
  · rfl
  · rename_i hOther
    exact if_neg hOther

end Atomic

------------------------------------------------------------
-- Covered Steps
------------------------------------------------------------

/-
  Whether a fact is of a signal or an interrupt that takes
  effect.
-/
def Fact.takesEffect : Fact → Bool
| .posted _ _ => true
| .closed _ _ => true
| _ => false

/- Steps that take effect on no cohort do so at no time. -/
theorem Atomic.Matches.of_quiet
    {m m' : Machine V}
    {l : Label V}
    {ls : List (Label V)}
    {ns ns' : List Note}
    (hAsked :
      ls.filterMap Label.request? = l.request?.toList)
    (hReported :
      ns'.filter Note.isReport = ns.filter Note.isReport)
    (hQuiet : ∀ n ∈ ns', n.fact.takesEffect = false) :
    Matches m m' l ns ls ns' where
  asked := hAsked
  reported := hReported
  signals := by
    intro n hMem epoch r hFact
    have hNot := hQuiet n hMem
    rw [hFact] at hNot
    cases hNot
  interrupts := by
    intro n hMem epoch r hFact
    have hNot := hQuiet n hMem
    rw [hFact] at hNot
    cases hNot

namespace Machine

/-
  A step is covered if the atomic system can go along with it
  and be again what it makes of the machine.
-/
def Covered
    (m m' : Machine V)
    (l : Label V)
    (ns : List Note) : Prop :=
  ∃ ls ns',
    m.atomic.run ls = some (m'.atomic, ns') ∧
      Atomic.Matches m m' l ns ls ns'

/- A step that is one of the atomic system is covered. -/
theorem Covered.of_step
    {m m' : Machine V}
    {l : Label V}
    {ns : List Note}
    (hStep : m.atomic.step l = some (m'.atomic, ns))
    (hQuiet : ∀ n ∈ ns, n.fact.takesEffect = false) :
    m.Covered m' l ns := by
  refine
    ⟨[l], ns, Atomic.run_one hStep,
      .of_quiet ?_ rfl hQuiet⟩
  cases l <;> rfl

/-
  The atomic view after a move within an era: the thread is in
  its new phase, and its signal has its new answer.
-/
theorem atomic_of_sameEra
    {m rest : Machine V}
    {t : Nat}
    {ph : Phase V}
    (hSame : m.SameEra rest)
    (hThreads : rest.threads = m.threads)
    (hPhase : m.threads[t]? = some ph)
    (ph' : Phase V) :
    (rest.setPhase t ph').atomic =
      Atomic.setAnswer
        ⟨(rest.aheadOf m).setPhase t ph'.atomic,
          m.atomic.answers⟩
        t (m.answerTo ph') := by
  symm
  apply atomic_eq
  · exact (hSame.ahead_eq hThreads t ph').symm
  · rw [answers_setPhase hThreads _ hPhase ph',
      hSame.answerTo_eq]
    · rfl
    · intro u x _
      rw [hSame.answerTo_eq]

/-
  The same after a move by which the thread's signal, if it is
  in one, takes no effect and does not return.
-/
theorem atomic_of_sameEra_of_eq
    {m rest : Machine V}
    {t : Nat}
    {ph ph' : Phase V}
    (hSame : m.SameEra rest)
    (hThreads : rest.threads = m.threads)
    (hPhase : m.threads[t]? = some ph)
    (hReport : m.answerTo ph' = m.answerTo ph) :
    (rest.setPhase t ph').atomic =
      ⟨(rest.aheadOf m).setPhase t ph'.atomic,
        m.atomic.answers⟩ := by
  symm
  apply atomic_eq
  · exact (hSame.ahead_eq hThreads t ph').symm
  · exact (hSame.answers_eq hThreads hPhase hReport).symm

/- A machine is in its own era. -/
theorem sameEra_self
    (m : Machine V) :
    m.SameEra m :=
  .of_eq rfl rfl

/- What a thread's signal has to report in the atomic view. -/
theorem answer_of_phase
    {m : Machine V}
    {t : Nat}
    {ph : Phase V}
    (hPhase : m.threads[t]? = some ph) :
    m.atomic.answers t = m.answerTo ph := by
  change m.threads[t]?.bind m.answerTo = _
  rw [hPhase]
  rfl

/- A signal has nothing to report while its cohort is open. -/
theorem answerTo_of_open
    {m : Machine V}
    {g : Nat}
    (hOpen : (m.cohort g).closed = false) :
    m.answerTo (.signaling g) = none := by
  simp only [answerTo, hOpen]
  rfl

/- A signal of a closed cohort is to report nobody. -/
theorem answerTo_of_closed
    {m : Machine V}
    {g : Nat}
    (hClosed : (m.cohort g).closed = true) :
    m.answerTo (.signaling g) = some .nobody := by
  simp only [answerTo, hClosed, if_true]

/- The open cohort is the current one. -/
theorem Orderly.eq_current_of_open
    {m : Machine V}
    {g : Nat}
    (hOrderly : m.Orderly)
    (hLe : g ≤ m.current)
    (hOpen : (m.cohort g).closed = false) :
    g = m.current := by
  rcases Nat.lt_or_eq_of_le hLe with hPast | hSame
  · rw [hOrderly.past g hPast] at hOpen
    cases hOpen
  · exact hSame

/- An open cohort is the current one in the atomic view. -/
theorem Orderly.cohort_ahead_of_open
    {m : Machine V}
    (hOrderly : m.Orderly)
    (hOpen : (m.cohort m.current).closed = false) :
    m.ahead.cohort m.ahead.current = m.cohort m.current := by
  have hCurrent : m.ahead.current = m.current :=
    (ahead_of_open hOpen).2
  rw [hCurrent]
  exact cohort_aheadOf (hOrderly.lt_length (Nat.le_refl _))

/- Ahead of a closed cohort, nobody has registered. -/
theorem cohort_front
    {m : Machine V}
    (hNumbered : m.cohorts.length = m.current + 1)
    (hClosed : (m.cohort m.current).closed = true) :
    m.ahead.cohort m.ahead.current =
      .fresh (m.current + 1) := by
  rcases ahead_of_closed hClosed with ⟨hNext, hFront⟩
  have hCohorts :
      m.ahead.cohorts =
        m.cohorts ++ [.fresh (m.current + 1)] := by
    change m.cohorts ++ m.next = _
    rw [hNext]
  have hCurrent : m.ahead.current = m.cohorts.length := by
    rw [hNumbered]
    exact hFront
  rw [cohort_of_append hCohorts, if_pos hCurrent]

------------------------------------------------------------
-- Signals
------------------------------------------------------------

/-
  A signal that reads the cohort begins.  If the cohort is
  closed, it takes effect on the next one, and finds nobody.
-/
theorem Orderly.covered_of_signal
    {m : Machine V}
    {t : Nat}
    (hOrderly : m.Orderly)
    (hIdle : m.threads[t]? = some .idle) :
    m.Covered (m.setPhase t (.signaling m.current))
      (.signal t) [] := by
  have hThere := phase_aheadOf hIdle m
  have hNone := answer_of_phase hIdle
  have hBegin :
      m.atomic.step (.signal t) =
        some
          (⟨m.ahead.setPhase t (.signaling 0),
              m.atomic.answers⟩,
            []) := by
    have hCan : m.atomic.core.isIdle t = true :=
      isIdle_of_phase hThere
    simp only [Atomic.step, Atomic.signal, if_pos hCan,
      Atomic.noted]
    rfl
  rcases List.getElem?_eq_some_iff.mp hIdle with ⟨hLt, _⟩
  cases hClosed : (m.cohort m.current).closed with
  | false =>
      refine
        .of_step ?_
          (fun n hMem => absurd hMem List.not_mem_nil)
      rw [atomic_of_sameEra_of_eq m.sameEra_self rfl hIdle
        (answerTo_of_open hClosed)]
      exact hBegin
  | true =>
      have hAfter :
          (m.setPhase t (.signaling m.current)).atomic =
            Atomic.setAnswer
              ⟨m.ahead.setPhase t (.signaling 0),
                m.atomic.answers⟩
              t (some .nobody) := by
        rw [← answerTo_of_closed hClosed]
        exact atomic_of_sameEra m.sameEra_self rfl hIdle _
      have hFront :
          (m.ahead.setPhase t (.signaling 0)).cohort
              (m.ahead.setPhase t (.signaling 0)).current =
            .fresh (m.current + 1) :=
        cohort_front hOrderly.numbered hClosed
      have hBegun :
          (m.ahead.setPhase t (.signaling 0)).threads[t]? =
            some (.signaling 0) := by
        rcases List.getElem?_eq_some_iff.mp hThere with
          ⟨hLt', _⟩
        exact List.getElem?_set_self hLt'
      have hEffect :=
        Atomic.step_post_nobody
          (a :=
            ⟨m.ahead.setPhase t (.signaling 0),
              m.atomic.answers⟩)
          hBegun hNone (by rw [hFront]; exact Nat.le_refl _)
      rw [← hAfter] at hEffect
      refine
        ⟨_, _,
          Atomic.run_append (Atomic.run_one hBegin)
            (Atomic.run_one hEffect),
          rfl, rfl, ?_, ?_⟩
      · intro n hMem epoch r hFact
        cases List.mem_singleton.mp hMem
        exact
          ⟨Or.inl rfl,
            Or.inr ⟨_, List.getElem?_set_self hLt⟩⟩
      · intro n hMem epoch r hFact
        cases List.mem_singleton.mp hMem
        cases hFact

/-
  A signal that posts a permit does so to the current cohort,
  since all others are closed, and takes effect by that.
-/
theorem Orderly.covered_of_post
    {m : Machine V}
    {t g : Nat}
    {c : Cohort}
    (hOrderly : m.Orderly)
    (hPhase : m.threads[t]? = some (.signaling g))
    (hOpen : (m.cohort g).closed = false)
    (hPost : (m.cohort g).post = (c, .woken 1))
    (hEpoch : c.epoch = (m.cohort g).epoch)
    (hStays : c.closed = (m.cohort g).closed) :
    m.Covered
      ((m.setCohort g c).setPhase t (.announcing g))
      (.advance t)
      [⟨t, m.clock, .posted (m.cohort g).epoch (.woken 1)⟩] := by
  have hFits := hOrderly.fits t _ (standings_of_phase hPhase)
  have hHere := hOrderly.eq_current_of_open hFits.1 hOpen
  subst hHere
  have hCurrent : m.ahead.current = m.current :=
    (ahead_of_open hOpen).2
  have hSame : m.SameEra (m.setCohort m.current c) :=
    .of_set rfl rfl hEpoch hStays
  have hCore :
      ((m.setCohort m.current c).aheadOf m).setPhase t
          (.signaling 0) =
        m.ahead.setCohort m.ahead.current c := by
    rw [hCurrent]
    exact
      (setPhase_of_phase (phase_aheadOf hPhase _)).trans
        (setCohort_aheadOf
          (hOrderly.lt_length (Nat.le_refl _)) c).symm
  have hAfter :
      ((m.setCohort m.current c).setPhase t
          (.announcing m.current)).atomic =
        Atomic.setAnswer
          ⟨m.ahead.setCohort m.ahead.current c,
            m.atomic.answers⟩
          t (some (.woken 1)) := by
    rw [← hCore]
    exact atomic_of_sameEra hSame rfl hPhase _
  have hNone : m.atomic.answers t = none :=
    (answer_of_phase hPhase).trans (answerTo_of_open hOpen)
  have hFound : (m.ahead.cohort m.ahead.current).post = _ :=
    (congrArg Cohort.post
      (hOrderly.cohort_ahead_of_open hOpen)).trans hPost
  have hStep :=
    Atomic.step_post (a := m.atomic)
      (phase_aheadOf hPhase m) hNone hFound
  change
    _ =
      some
        (Atomic.setAnswer
            ⟨m.ahead.setCohort m.ahead.current c,
              m.atomic.answers⟩ t _, _) at hStep
  rw [← hAfter, hEpoch] at hStep
  refine
    ⟨_, _, Atomic.run_one hStep, rfl, rfl, ?_, ?_⟩
  · intro n hMem epoch r hFact
    cases List.mem_singleton.mp hMem
    exact ⟨Or.inr ⟨_, hPhase⟩, Or.inl rfl⟩
  · intro n hMem epoch r hFact
    cases List.mem_singleton.mp hMem
    cases hFact

/- A signal that has taken effect returns its report. -/
theorem step_atomic_of_answer
    {m : Machine V}
    {t : Nat}
    {ph : Phase V}
    {r : WakeReport}
    (hPhase : m.threads[t]? = some ph)
    (hAnswer : m.answerTo ph = some r) :
    m.atomic.step (.advance t) =
      some
        ((m.setPhase t .idle).atomic,
          [⟨t, m.clock, .signaled r⟩]) := by
  have hSignal : ph.atomic = .signaling 0 := by
    cases ph with
    | signaling g => rfl
    | announcing g => rfl
    | _ => cases hAnswer
  have hThere := phase_aheadOf hPhase m
  rw [hSignal] at hThere
  rw [atomic_of_sameEra m.sameEra_self rfl hPhase]
  exact
    Atomic.step_reply (a := m.atomic) hThere
      ((answer_of_phase hPhase).trans hAnswer)

/-
  A signal that finds nobody without a permit returns.  If its
  cohort is open, it takes effect now, and has otherwise.
-/
theorem Orderly.covered_of_drop
    {m : Machine V}
    {t g : Nat}
    (hOrderly : m.Orderly)
    (hPhase : m.threads[t]? = some (.signaling g))
    (hDropped :
      (m.cohort g).closed = true ∨
        (m.cohort g).registered ≤ (m.cohort g).permits) :
    m.Covered (m.setPhase t .idle) (.advance t)
      [⟨t, m.clock, .posted (m.cohort g).epoch .nobody⟩,
        ⟨t, m.clock, .signaled .nobody⟩] := by
  cases hClosed : (m.cohort g).closed with
  | true =>
      have hReply :=
        step_atomic_of_answer hPhase
          (answerTo_of_closed hClosed)
      refine
        ⟨_, _, Atomic.run_one hReply,
          .of_quiet rfl rfl ?_⟩
      intro n hMem
      cases List.mem_singleton.mp hMem
      rfl
  | false =>
      have hNobody :
          (m.cohort g).registered ≤ (m.cohort g).permits := by
        rcases hDropped with hNot | hNobody
        · rw [hClosed] at hNot
          cases hNot
        · exact hNobody
      have hFits :=
        hOrderly.fits t _ (standings_of_phase hPhase)
      have hHere :=
        hOrderly.eq_current_of_open hFits.1 hClosed
      subst hHere
      have hNobody' :
          (m.ahead.cohort m.ahead.current).registered ≤
            (m.ahead.cohort m.ahead.current).permits := by
        rw [hOrderly.cohort_ahead_of_open hClosed]
        exact hNobody
      have hThere := phase_aheadOf hPhase m
      have hEffect :=
        Atomic.step_post_nobody (a := m.atomic) hThere
          ((answer_of_phase hPhase).trans
            (answerTo_of_open hClosed))
          hNobody'
      have hReply :=
        Atomic.step_reply
          (a := m.atomic.setAnswer t (some .nobody))
          (r := .nobody) hThere (if_pos rfl)
      have hAfter :
          (m.setPhase t .idle).atomic =
            ((m.atomic.setAnswer t (some .nobody)).reply t
              .nobody).1 := by
        rw [atomic_of_sameEra m.sameEra_self rfl hPhase]
        exact
          (Atomic.setAnswer_setAnswer
            ⟨m.ahead.setPhase t .idle, m.atomic.answers⟩ t
            (some .nobody) none).symm
      rw [← hAfter] at hReply
      refine
        ⟨_, _,
          Atomic.run_append (Atomic.run_one hEffect)
            (Atomic.run_one hReply),
          rfl, rfl, ?_, ?_⟩
      · intro n hMem epoch r hFact
        rcases List.mem_cons.mp hMem with rfl | hLast
        · exact ⟨Or.inr ⟨_, hPhase⟩, Or.inl rfl⟩
        · cases List.mem_singleton.mp hLast
          cases hFact
      · intro n hMem epoch r hFact
        rcases List.mem_cons.mp hMem with rfl | hLast
        · cases hFact
        · cases List.mem_singleton.mp hLast
          cases hFact

/- A signal that has told its waiter returns. -/
theorem covered_of_announce
    {m : Machine V}
    {t g : Nat}
    {l : Label V}
    (hPhase : m.threads[t]? = some (.announcing g))
    (hInner : l.request? = none) :
    m.Covered (m.setPhase t .idle) l
      [⟨t, m.clock, .signaled (.woken 1)⟩] := by
  have hReply :=
    step_atomic_of_answer (r := .woken 1) hPhase rfl
  refine
    ⟨_, _, Atomic.run_one hReply, .of_quiet ?_ rfl ?_⟩
  · rw [hInner]
    rfl
  · intro n hMem
    cases List.mem_singleton.mp hMem
    rfl

------------------------------------------------------------
-- Interrupts
------------------------------------------------------------

/- The signals that have read a cohort and are to post. -/
def readers
    (m : Machine V)
    (g : Nat) : List Nat :=
  (List.range m.threads.length).filter
    (fun t =>
      match m.threads[t]? with
      | some (.signaling g') => g' = g
      | _ => false)

/- A signal is to post to the cohort that its phase says. -/
theorem mem_readers_iff
    {m : Machine V}
    {g t : Nat} :
    t ∈ m.readers g ↔ m.threads[t]? = some (.signaling g) := by
  unfold readers
  rw [List.mem_filter, List.mem_range]
  constructor
  · rintro ⟨_, hReads⟩
    split at hReads
    · rename_i g' hPhase
      rw [hPhase, of_decide_eq_true hReads]
    · cases hReads
  · intro hPhase
    refine ⟨(List.getElem?_eq_some_iff.mp hPhase).1, ?_⟩
    simp [hPhase]

/- Nothing is ahead of a machine whose cohort is open. -/
theorem ahead_eq_of_open
    {m : Machine V}
    (hOpen : (m.cohort m.current).closed = false) :
    m.ahead =
      { m with threads := m.threads.map Phase.atomic } := by
  rcases ahead_of_open hOpen with ⟨hNext, hFront⟩
  unfold ahead aheadOf
  rw [hNext, hFront, List.append_nil]

/-
  After a close, all signals that have read the cohort and
  are to post to it have found nobody.
-/
theorem answers_of_close
    {m m' : Machine V}
    {t : Nat}
    {ph' : Phase V}
    {c : Cohort}
    (hOrderly : m.Orderly)
    (hThreads : m'.threads = m.threads.set t ph')
    (hCohorts : m'.cohorts = m.cohorts.set m.current c)
    (hClosed : c.closed = true)
    (hBefore :
      ∃ ph, m.threads[t]? = some ph ∧ m.answerTo ph = none ∧
        ∀ g, ph ≠ .signaling g)
    (hNone : m'.answerTo ph' = none) :
    m'.atomic.answers =
      fun u =>
        if u ∈ m.readers m.current then some .nobody
        else m.atomic.answers u := by
  rcases hBefore with ⟨ph, hPhase, hAnswer, hOther⟩
  funext u
  change m'.threads[u]?.bind m'.answerTo = _
  rw [hThreads]
  by_cases hSelf : u = t
  · subst hSelf
    rcases List.getElem?_eq_some_iff.mp hPhase with ⟨hLt, _⟩
    have hNot : u ∉ m.readers m.current := by
      rw [mem_readers_iff, hPhase]
      intro hSignal
      exact hOther _ (Option.some.inj hSignal)
    rw [List.getElem?_set_self hLt, if_neg hNot,
      answer_of_phase hPhase, hAnswer]
    exact hNone
  · rw [List.getElem?_set_ne (Ne.symm hSelf)]
    by_cases hReads : u ∈ m.readers m.current
    · rw [if_pos hReads, mem_readers_iff.mp hReads]
      apply answerTo_of_closed
      rw [cohort_of_set hCohorts,
        if_pos ⟨rfl, hOrderly.lt_length (Nat.le_refl _)⟩]
      exact hClosed
    · rw [if_neg hReads]
      change _ = m.threads[u]?.bind m.answerTo
      cases hThere : m.threads[u]? with
      | none => rfl
      | some x =>
          apply answerTo_congr
          rintro g rfl
          have hElsewhere : g ≠ m.current := by
            rintro rfl
            exact hReads (mem_readers_iff.mpr hThere)
          rw [cohort_of_set hCohorts,
            if_neg (fun h => hElsewhere h.1)]

/-
  The core in which the cohort is closed and replaced is what
  the machine that has closed it looks like.
-/
theorem Orderly.ahead_of_close
    {m : Machine V}
    {t : Nat}
    {c : Cohort}
    {r : WakeReport}
    (hOrderly : m.Orderly)
    (hOpen : (m.cohort m.current).closed = false)
    (hEpoch : c.epoch = m.current)
    (hClosed : c.closed = true)
    (taken : Bool) :
    ((m.setCohort m.current c).setPhase t
        (.rousing taken m.current r)).ahead =
      Machine.setPhase
        { m.ahead with
          cohorts :=
            m.ahead.cohorts.set m.ahead.current c ++
              [.fresh (c.epoch + 1)]
          current := m.ahead.cohorts.length }
        t (.renewing taken m.ahead.current r) := by
  have hAfter :
      (((m.setCohort m.current c).setPhase t
          (.rousing taken m.current r)).cohort
        m.current).closed = true := by
    rw [cohort_of_set (m := m) rfl,
      if_pos ⟨rfl, hOrderly.lt_length (Nat.le_refl _)⟩]
    exact hClosed
  rcases ahead_of_closed hAfter with ⟨hNext, hFront⟩
  rw [ahead_eq_of_open hOpen]
  unfold ahead aheadOf
  rw [hNext, hFront]
  unfold setPhase setCohort
  rw [List.map_set, hEpoch, hOrderly.numbered]
  rfl

/-
  On the cohort that is ahead of a closed one, signals that
  have begun find nobody.
-/
theorem run_post_ahead
    {m : Machine V}
    {answers : Nat → Option WakeReport}
    {ts : List Nat}
    (hNumbered : m.cohorts.length = m.current + 1)
    (hClosed : (m.cohort m.current).closed = true)
    (hDistinct : ts.Nodup)
    (hPhases :
      ∀ t ∈ ts, ∃ g, m.threads[t]? = some (.signaling g))
    (hNone : ∀ t ∈ ts, answers t = none)
    (hAnswers :
      m.atomic.answers =
        fun u => if u ∈ ts then some .nobody else answers u) :
    (Atomic.mk m.ahead answers).run (ts.map Label.advance) =
      some
        (m.atomic,
          ts.map
            (fun t =>
              ⟨t, m.clock,
                .posted
                  (m.ahead.cohort m.ahead.current).epoch
                  .nobody⟩)) := by
  rw [← atomic_eq (a := ⟨m.ahead, _⟩) rfl hAnswers.symm]
  apply Atomic.run_post_nobody hDistinct
  · intro t hMem
    rcases hPhases t hMem with ⟨g, hPhase⟩
    exact ⟨0, phase_aheadOf hPhase m⟩
  · exact hNone
  · change
      (m.ahead.cohort m.ahead.current).registered ≤
        (m.ahead.cohort m.ahead.current).permits
    rw [cohort_front hNumbered hClosed]
    exact Nat.le_refl 0

/-
  An interrupt takes effect as it closes the cohort, and with
  it all signals that have read the cohort and are to post.
-/
theorem matches_of_close
    {m m' : Machine V}
    {t g : Nat}
    {taken : Bool}
    {ts : List Nat}
    {time : Instant}
    {epoch epoch' : Nat}
    {r : WakeReport}
    (hPhase : m.threads[t]? = some (.closing taken))
    (hSelf : m'.threads[t]? = some (.rousing taken g r))
    (hReaders :
      ∀ u ∈ ts,
        (∃ g, m.threads[u]? = some (.signaling g)) ∧
          ∃ g, m'.threads[u]? = some (.signaling g)) :
    Atomic.Matches m m' (.advance t)
      [⟨t, time, .closed epoch r⟩]
      (Label.advance t :: ts.map Label.advance)
      (⟨t, time, .closed epoch r⟩ ::
        ts.map (fun u => ⟨u, time, .posted epoch' .nobody⟩)) := by
  refine ⟨?_, ?_, ?_, ?_⟩
  · simp [Label.request?]
  · have hNone :
        (ts.map
          (fun u =>
            Note.mk u time (.posted epoch' .nobody))).filter
            Note.isReport =
          [] := by
      rw [List.filter_eq_nil_iff]
      intro n hMem
      rcases List.mem_map.mp hMem with ⟨u, _, rfl⟩
      exact Bool.false_ne_true
    rw [List.filter_cons_of_pos rfl, hNone]
    rfl
  · intro n hMem epoch r' hFact
    rcases List.mem_cons.mp hMem with rfl | hPosting
    · cases hFact
    · rcases List.mem_map.mp hPosting with ⟨u, hReads, rfl⟩
      rcases hReaders u hReads with ⟨hBefore, hAfter⟩
      exact ⟨Or.inr hBefore, Or.inr hAfter⟩
  · intro n hMem epoch r' hFact
    rcases List.mem_cons.mp hMem with rfl | hPosting
    · cases hFact
      exact ⟨rfl, ⟨_, hPhase⟩, _, _, hSelf⟩
    · rcases List.mem_map.mp hPosting with ⟨u, _, rfl⟩
      cases hFact

/-
  An interrupt that closes the cohort takes effect: it closes
  and replaces the cohort, and then all signals that are to
  post to it find nobody on the new one.
-/
theorem Orderly.covered_of_close
    {m : Machine V}
    {t : Nat}
    {taken : Bool}
    {c : Cohort}
    {r : WakeReport}
    (hOrderly : m.Orderly)
    (hPhase : m.threads[t]? = some (.closing taken))
    (hOpen : (m.cohort m.current).closed = false)
    (hClose : (m.cohort m.current).close = (c, r))
    (hEpoch : c.epoch = (m.cohort m.current).epoch)
    (hClosed : c.closed = true) :
    m.Covered
      ((m.setCohort m.current c).setPhase t
        (.rousing taken m.current r))
      (.advance t)
      [⟨t, m.clock, .closed (m.cohort m.current).epoch r⟩] := by
  have hLt := hOrderly.lt_length (Nat.le_refl m.current)
  have hFound : (m.ahead.cohort m.ahead.current).close = _ :=
    (congrArg Cohort.close
      (hOrderly.cohort_ahead_of_open hOpen)).trans hClose
  have hEffect :=
    Atomic.step_replace (a := m.atomic)
      (phase_aheadOf hPhase m) hFound
  have hCore :=
    hOrderly.ahead_of_close (t := t) (r := r) hOpen
      (hEpoch.trans (hOrderly.epochs _ (Nat.le_refl _)))
      hClosed taken
  have hAnswers :
      ((m.setCohort m.current c).setPhase t
          (.rousing taken m.current r)).atomic.answers =
        fun u =>
          if u ∈ m.readers m.current then some .nobody
          else m.atomic.answers u :=
    answers_of_close hOrderly rfl rfl hClosed
      ⟨_, hPhase, rfl, nofun⟩ rfl
  have hSelf :
      ((m.setCohort m.current c).setPhase t
        (.rousing taken m.current r)).threads[t]? =
        some (.rousing taken m.current r) := by
    rcases List.getElem?_eq_some_iff.mp hPhase with ⟨hIn, _⟩
    exact List.getElem?_set_self hIn
  have hOther :
      ∀ u ∈ m.readers m.current,
        ((m.setCohort m.current c).setPhase t
          (.rousing taken m.current r)).threads[u]? =
          some (.signaling m.current) := by
    intro u hMem
    have hReads := mem_readers_iff.mp hMem
    have hNe : t ≠ u := by
      rintro rfl
      rw [hPhase] at hReads
      cases hReads
    exact (List.getElem?_set_ne hNe).trans hReads
  have hPosts :=
    run_post_ahead
      (m :=
        (m.setCohort m.current c).setPhase t
          (.rousing taken m.current r))
      (List.length_set.trans hOrderly.numbered)
      (by
        rw [cohort_of_set (m := m) rfl, if_pos ⟨rfl, hLt⟩]
        exact hClosed)
      (List.nodup_range.filter _)
      (fun u hMem => ⟨_, hOther u hMem⟩)
      (fun u hMem =>
        (answer_of_phase (mem_readers_iff.mp hMem)).trans
          (answerTo_of_open hOpen))
      hAnswers
  rw [hCore] at hPosts
  rw [hEpoch] at hEffect hPosts
  exact
    ⟨_, _,
      Atomic.run_append (Atomic.run_one hEffect) hPosts,
      matches_of_close hPhase hSelf
        (fun u hMem =>
          ⟨⟨_, mem_readers_iff.mp hMem⟩, _, hOther u hMem⟩)⟩

/-
  An interrupt wakes all waiters.  Where nobody sleeps, this
  changes nothing.
-/
theorem covered_of_rouse
    {m : Machine V}
    {t g : Nat}
    {taken : Bool}
    {r : WakeReport}
    (hPhase : m.threads[t]? = some (.rousing taken g r)) :
    m.Covered (m.setPhase t (.renewing taken g r))
      (.advance t) [] := by
  have hView :
      (m.setPhase t (.renewing taken g r)).atomic =
        ⟨(m.aheadOf m).setPhase t (.renewing taken g r),
          m.atomic.answers⟩ :=
    atomic_of_sameEra_of_eq m.sameEra_self rfl hPhase rfl
  have hCore :
      (m.aheadOf m).setPhase t (.renewing taken g r) =
        m.ahead :=
    setPhase_of_phase (phase_aheadOf hPhase m)
  rw [hCore] at hView
  refine ⟨[], [], ?_, .of_quiet rfl rfl nofun⟩
  rw [hView]
  rfl

/-
  An interrupt that replaces the cohort returns.  The atomic
  system has replaced it already.
-/
theorem Orderly.covered_of_renew
    {m rest : Machine V}
    {t g : Nat}
    {taken : Bool}
    {r : WakeReport}
    (hOrderly : m.Orderly)
    (hPhase : m.threads[t]? = some (.renewing taken g r))
    (hRest :
      rest =
        { (if taken then m.setHolder .bound none else m) with
          cohorts :=
            m.cohorts ++ [.fresh ((m.cohort g).epoch + 1)]
          current := m.cohorts.length }) :
    m.Covered (rest.setPhase t .idle) (.advance t)
      [⟨t, m.clock, .interrupted (m.cohort g).epoch r⟩] := by
  rcases hOrderly.fits t _ (standings_of_phase hPhase) with
    ⟨rfl, hClosed⟩
  rcases ahead_of_closed hClosed with ⟨hNext, hFront⟩
  have hStep :=
    Atomic.step_leave (a := m.atomic)
      (phase_aheadOf hPhase m)
  rw [hOrderly.epochs _ (Nat.le_refl m.current)] at hRest ⊢
  have hCohorts :
      rest.cohorts = m.cohorts ++ [.fresh (m.current + 1)] := by
    rw [hRest]
  have hCurrent : rest.current = m.cohorts.length := by
    rw [hRest]
  have hThreads : rest.threads = m.threads := by
    rw [hRest]
    cases taken <;> rfl
  have hOpen : (rest.cohort rest.current).closed = false := by
    rw [cohort_of_append hCohorts, if_pos hCurrent]
    rfl
  have hOpen' :
      ((rest.setPhase t .idle).cohort
        (rest.setPhase t .idle).current).closed = false :=
    hOpen
  have hCore :
      (if taken then m.ahead.setHolder .bound none
        else m.ahead).setPhase t .idle =
        (rest.setPhase t .idle).ahead := by
    rw [ahead_eq_of_open hOpen', hRest]
    unfold ahead aheadOf setPhase
    rw [hNext, hFront, List.map_set, hOrderly.numbered]
    cases taken <;> rfl
  have hAnswers :
      (rest.setPhase t .idle).atomic.answers =
        m.atomic.answers := by
    apply answers_of_eq hThreads ?_ hPhase
    · rfl
    · intro u x hThere
      apply answerTo_congr
      rintro g rfl
      have hLe :=
        (hOrderly.fits u _ (standings_of_phase hThere)).1
      rw [cohort_of_append hCohorts,
        if_neg (Nat.ne_of_lt (hOrderly.lt_length hLe))]
  have hFound :
      m.ahead.cohort m.current = m.cohort m.current :=
    cohort_aheadOf (hOrderly.lt_length (Nat.le_refl _))
  have hEpoch :
      (m.ahead.cohort m.current).epoch = m.current := by
    rw [hFound]
    exact hOrderly.epochs _ (Nat.le_refl _)
  have hView :
      (⟨(if taken then m.ahead.setHolder .bound none
            else m.ahead).setPhase t .idle,
          m.atomic.answers⟩ : Atomic V) =
        (rest.setPhase t .idle).atomic :=
    atomic_eq hCore hAnswers.symm
  change
    m.atomic.step _ =
      some
        (⟨(if taken then m.ahead.setHolder .bound none
              else m.ahead).setPhase t .idle,
            m.atomic.answers⟩,
          [⟨t, m.clock,
            .interrupted (m.ahead.cohort m.current).epoch r⟩])
    at hStep
  rw [hView, hEpoch] at hStep
  refine .of_step hStep ?_
  intro n hMem
  cases List.mem_singleton.mp hMem
  rfl

------------------------------------------------------------
-- Calls in Progress
------------------------------------------------------------

/- A wait's own moves take effect on no cohort as a whole. -/
theorem Moves.quiet_of_plain
    {m rest : Machine V}
    {t : Nat}
    {ph ph' : Phase V}
    {facts : List Fact}
    (hMoves : m.Moves t ph ph' facts rest)
    (hPlain : ph.isPlain = true) :
    ∀ f ∈ facts, f.takesEffect = false := by
  have hTurn :
      ∀ (f : Fact) (fs : List Fact) (next : Turn V),
        fs = f :: next.facts → f.takesEffect = false →
          ∀ f' ∈ fs, f'.takesEffect = false := by
    rintro f fs next rfl hFirst f' hMem
    rcases List.mem_cons.mp hMem with rfl | hLast
    · exact hFirst
    · rcases Turn.finished_of_mem_facts hLast with ⟨e, rfl⟩
      rfl
  cases hMoves with
  | judge => exact hTurn _ _ _ rfl rfl
  | resume hCounted => exact hTurn _ _ _ rfl rfl
  | @park a g v v' wakeAt stalled hLook =>
      cases stalled <;> simp [Fact.takesEffect]
  | _ =>
      first
      | exact absurd hPlain Bool.false_ne_true
      | simp [Fact.takesEffect]

/- A thread that is awake does not wake up. -/
theorem wake_of_awake
    {ph : Phase V}
    (hAwake : ph.isAsleep = false)
    (g : Nat) :
    ph.wake g = ph := by
  cases ph with
  | parked a g' v wakeAt => cases hAwake
  | _ => rfl

/- A thread that is parked on a cohort is asleep. -/
theorem isAsleep_of_isParkedOn
    {ph : Phase V}
    {g : Nat}
    (hParked : ph.isParkedOn g = true) :
    ph.isAsleep = true := by
  cases ph with
  | parked a g' v wakeAt => rfl
  | _ => cases hParked

/-
  A thread that goes on with its call is covered, where nobody
  sleeps.
-/
theorem Orderly.covered_of_goes
    {m m' : Machine V}
    {t : Nat}
    {l : Label V}
    {ns : List Note}
    (hOrderly : m.Orderly)
    (hAwake : ∀ ph ∈ m.threads, ph.isAsleep = false)
    (hAwake' : ∀ ph ∈ m'.threads, ph.isAsleep = false)
    (hGoes : Goes t l)
    (hStep : m.step l = some (m', ns)) :
    m.Covered m' l ns := by
  have hInner : l.request? = none := by
    cases hGoes <;> rfl
  have hAdvance :
      ∀ {ph : Phase V}, m.threads[t]? = some ph →
        ph.acts = true → l = .advance t :=
    fun hPhase hActs =>
      eq_advance_of_goes hGoes hStep hPhase hActs
  rcases moves_of_goes hGoes hStep with
    ⟨ph, ph', facts, rest, hPhase, hBusy, hMoves, rfl, rfl⟩
  by_cases hPlain : ph.isPlain = true
  · have hActs : ph.acts = true := by
      cases ph <;> first | rfl | cases hPlain
    have hLabel := hAdvance hPhase hActs
    subst hLabel
    have hThere := hMoves.phase_self hPhase
    apply Covered.of_step
    · exact
        step_atomic_of_plain hOrderly hPhase hMoves hPlain
          (hAwake' _ (List.mem_of_getElem? hThere))
    · intro n hMem
      rcases List.mem_map.mp hMem with ⟨f, hFact, rfl⟩
      exact hMoves.quiet_of_plain hPlain f hFact
  · cases hMoves with
    | expire hDue =>
        have hAsleep :=
          hAwake _ (List.mem_of_getElem? hPhase)
        cases hAsleep
    | drop hDropped =>
        have hLabel := hAdvance hPhase rfl
        subst hLabel
        exact hOrderly.covered_of_drop hPhase hDropped
    | @post g hOpen hLacks =>
        have hLabel := hAdvance hPhase rfl
        subst hLabel
        refine
          hOrderly.covered_of_post hPhase hOpen ?_ ?_ ?_
        · have hReceived :
              ¬ ((m.cohort g).closed = true ∨
                (m.cohort g).registered ≤
                  (m.cohort g).permits) := by
            rw [hOpen]
            simpa using hLacks
          unfold Cohort.post
          rw [if_neg hReceived]
        · rfl
        · rfl
    | announce hTarget hParked =>
        have hAsleep :=
          hAwake _ (List.mem_of_getElem? hTarget)
        rw [isAsleep_of_isParkedOn hParked] at hAsleep
        cases hAsleep
    | announceNobody hNone =>
        exact covered_of_announce hPhase hInner
    | @close taken hOpen =>
        have hLabel := hAdvance hPhase rfl
        subst hLabel
        refine
          hOrderly.covered_of_close hPhase hOpen ?_ ?_ ?_
        · unfold Cohort.close
          rw [hOpen]
          rfl
        · rfl
        · rfl
    | closeAgain hClosed =>
        have hStanding := standings_of_phase hPhase
        have hHolder := hOrderly.locked t _ hStanding rfl
        have hOpen :=
          hOrderly.open_of_holder hHolder hStanding nofun
        rw [hOpen] at hClosed
        cases hClosed
    | @rouse taken g r =>
        have hLabel := hAdvance hPhase rfl
        subst hLabel
        have hThreads :
            m.threads.map (Phase.wake g) = m.threads :=
          calc
            m.threads.map (Phase.wake g) = m.threads.map id :=
              List.map_congr_left
                (fun ph hMem => wake_of_awake (hAwake ph hMem) g)
            _ = m.threads := List.map_id _
        rw [hThreads]
        exact covered_of_rouse hPhase
    | renew =>
        have hLabel := hAdvance hPhase rfl
        subst hLabel
        exact hOrderly.covered_of_renew hPhase rfl
    | renewTaken =>
        have hLabel := hAdvance hPhase rfl
        subst hLabel
        exact hOrderly.covered_of_renew hPhase rfl
    | _ =>
        first
        | exact absurd rfl hPlain
        | exact absurd rfl hBusy

------------------------------------------------------------
-- Clients
------------------------------------------------------------

/-
  A client's step but a signal is covered if it is the same
  step of the core and leaves the answers as they are.
-/
theorem covered_of_core
    {m m' : Machine V}
    {l : Label V}
    {ns : List Note}
    (hRequest : l.request? = some l)
    (hOther : ∀ t, l ≠ .signal t)
    (hCore : m.ahead.step l = some (m'.ahead, ns))
    (hAnswers : m'.atomic.answers = m.atomic.answers)
    (hQuiet : ∀ n ∈ ns, n.fact.takesEffect = false) :
    m.Covered m' l ns := by
  refine .of_step ?_ hQuiet
  have hView :
      (⟨m'.ahead, m.atomic.answers⟩ : Atomic V) = m'.atomic :=
    atomic_eq rfl hAnswers.symm
  have hStep :=
    congrArg
      (Option.map
        (fun after =>
          (Atomic.mk after.1 m.atomic.answers, after.2)))
      hCore
  rw [← hView]
  cases l with
  | signal t => exact absurd rfl (hOther t)
  | advance t => cases hRequest
  | notify t target => cases hRequest
  | expire t => cases hRequest
  | _ => exact hStep

/- An idle thread that begins a call has nothing to report. -/
theorem covered_of_begin
    {m : Machine V}
    {t : Nat}
    {ph : Phase V}
    {l : Label V}
    (hIdle : m.threads[t]? = some .idle)
    (hRequest : l.request? = some l)
    (hOther : ∀ t, l ≠ .signal t)
    (hSame : ph.atomic = ph)
    (hNone : m.answerTo ph = none)
    (hCore :
      m.ahead.step l = some (m.ahead.setPhase t ph, [])) :
    m.Covered (m.setPhase t ph) l [] := by
  refine covered_of_core hRequest hOther ?_ ?_ nofun
  · rw [m.sameEra_self.ahead_eq rfl, hSame]
    exact hCore
  · exact m.sameEra_self.answers_eq rfl hIdle hNone

/- A thread that arrives has nothing to report. -/
theorem answers_join
    (m : Machine V) :
    (atomic
      { m with threads := m.threads ++ [.idle] }).answers =
      m.atomic.answers := by
  funext t
  change
    (m.threads ++ [.idle])[t]?.bind m.answerTo =
      m.threads[t]?.bind m.answerTo
  by_cases hLt : t < m.threads.length
  · rw [List.getElem?_append_left hLt]
  · have hLe := Nat.le_of_not_lt hLt
    rw [List.getElem?_append_right hLe,
      List.getElem?_eq_none hLe]
    cases t - m.threads.length <;> rfl

/- Where nobody sleeps, every step is covered. -/
theorem Orderly.covered_of_step
    {m m' : Machine V}
    {l : Label V}
    {ns : List Note}
    (hOrderly : m.Orderly)
    (hAwake : ∀ ph ∈ m.threads, ph.isAsleep = false)
    (hAwake' : ∀ ph ∈ m'.threads, ph.isAsleep = false)
    (hStep : m.step l = some (m', ns)) :
    m.Covered m' l ns := by
  have hIdleAt :
      ∀ {t : Nat}, m.threads[t]? = some .idle →
        m.ahead.threads[t]? = some .idle :=
    fun hIdle => phase_aheadOf hIdle m
  have hHeldAt :
      ∀ {t : Nat} {side : Side}, m.holds t side = true →
        m.ahead.holds t side = true :=
    fun hHeld => (holds_ahead m _ _).trans hHeld
  cases l with
  | join =>
      cases hStep
      refine covered_of_core rfl nofun ?_ m.answers_join nofun
      unfold ahead aheadOf
      rw [List.map_append]
      rfl
  | tick d =>
      rcases Option.map_eq_some_iff.mp hStep with
        ⟨now, hLater, hNow⟩
      cases hNow
      exact
        covered_of_core rfl nofun
          (Option.map_eq_some_iff.mpr ⟨now, hLater, rfl⟩) rfl
          nofun
  | acquire t side =>
      rcases acquire_of_step hStep with
        ⟨hIdle, hFree, rfl, rfl⟩
      have hFree' : (m.ahead.lock side).holder = none := by
        rw [← hFree]
        exact congrArg Lock.holder (lock_aheadOf m m side)
      refine covered_of_core rfl nofun ?_ ?_ nofun
      · rw [step_acquire (hIdleAt hIdle) hFree']
        cases side <;> rfl
      · cases side <;> rfl
  | release t side =>
      rcases release_of_step hStep with
        ⟨hIdle, hHeld, rfl, rfl⟩
      refine covered_of_core rfl nofun ?_ ?_ nofun
      · rw [step_release (hIdleAt hIdle) (hHeldAt hHeld)]
        cases side <;> rfl
      · cases side <;> rfl
  | write t side v =>
      rcases write_of_step hStep with ⟨hIdle, hHeld, rfl, rfl⟩
      refine covered_of_core rfl nofun ?_ ?_ ?_
      · rw [step_write (hIdleAt hIdle) (hHeldAt hHeld)]
        cases side <;> rfl
      · cases side <;> rfl
      · intro n hMem
        cases List.mem_singleton.mp hMem
        rfl
  | call t side c =>
      rcases call_of_step hStep with ⟨hIdle, hHeld, rfl, rfl⟩
      have hNone :
          m.answerTo (c.begin.phase side) = none := by
        cases c.begin <;> rfl
      exact
        covered_of_begin hIdle rfl nofun
          (Phase.atomic_turn side c.begin) hNone
          (step_call (hIdleAt hIdle) (hHeldAt hHeld))
  | signal t =>
      rcases signal_of_step hStep with ⟨hIdle, rfl, rfl⟩
      exact hOrderly.covered_of_signal hIdle
  | interrupt t =>
      rcases interrupt_of_step hStep with ⟨hIdle, rfl, rfl⟩
      exact
        covered_of_begin hIdle rfl nofun rfl rfl
          (step_interrupt (hIdleAt hIdle))
  | interruptHeld t side =>
      cases side with
      | bound =>
          rcases interruptHeld_of_step hStep with
            ⟨hIdle, hHeld, rfl, rfl⟩
          exact
            covered_of_begin hIdle rfl nofun rfl rfl
              (step_interruptHeld (hIdleAt hIdle)
                (hHeldAt hHeld))
      | foreign =>
          rcases interruptForeign_of_step hStep with
            ⟨hIdle, hHeld, rfl, rfl⟩
          refine covered_of_core rfl nofun ?_ rfl ?_
          · exact
              step_interruptForeign (hIdleAt hIdle)
                (hHeldAt hHeld)
          · intro n hMem
            cases List.mem_singleton.mp hMem
            rfl
  | advance t =>
      exact
        hOrderly.covered_of_goes hAwake hAwake' .advance hStep
  | notify t target =>
      exact
        hOrderly.covered_of_goes hAwake hAwake' .notify hStep
  | expire t =>
      exact
        hOrderly.covered_of_goes hAwake hAwake' .expire hStep

end Machine

end CondVar
