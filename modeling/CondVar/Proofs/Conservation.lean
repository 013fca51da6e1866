import CondVar.Proofs.Prompts

/-
  Signals are neither doubled, nor made up, nor kept.

  A signal returns what its post has reported, and one that
  was received is answered by one wait at most.  Without
  crowding, what is left over of the signals to an open
  cohort is never more than there are waiters.

  Main declarations:
    * `postReports`, `signalReports`
    * `Machine.Reported`
    * `Machine.ReachesUncrowded.prompted_from_quiet`
    * `Machine.signals_conserved`
-/

namespace CondVar

------------------------------------------------------------
-- Signals That Return
------------------------------------------------------------

namespace Fact

/- What the post of a signal has reported. -/
def post? : Fact → Option WakeReport
| .posted _ r => some r
| _ => none

/- What a signal has returned. -/
def signal? : Fact → Option WakeReport
| .signaled r => some r
| _ => none

end Fact

/- What the posts of a thread have reported, in this order. -/
def postReports
    (ns : List Note)
    (t : Nat) : List WakeReport :=
  (ns.filter (·.thread = t)).filterMap (·.fact.post?)

/- What the signals of a thread have returned, in this order. -/
def signalReports
    (ns : List Note)
    (t : Nat) : List WakeReport :=
  (ns.filter (·.thread = t)).filterMap (·.fact.signal?)

/- What a selection tells of a thread after one more step. -/
theorem filterMap_append_facts
    (p : Fact → Option WakeReport)
    (past : List Note)
    (facts : List Fact)
    (t : Nat)
    (time : Instant)
    (u : Nat) :
    ((past ++ facts.map (Note.mk t time)).filter
        (·.thread = u)).filterMap (p ·.fact) =
      (past.filter (·.thread = u)).filterMap (p ·.fact) ++
        if u = t then facts.filterMap p else [] := by
  rw [List.filter_append, List.filterMap_append]
  congr 1
  split
  · rename_i hSame
    subst hSame
    induction facts with
    | nil => rfl
    | cons f fs ih =>
        simp only [List.map_cons, List.filter_cons,
          decide_true, if_true, List.filterMap_cons, ih]
  · rename_i hOther
    rw [List.filter_eq_nil_iff.mpr]
    · rfl
    · intro n hMem
      rcases List.mem_map.mp hMem with ⟨f, _, rfl⟩
      simpa using Ne.symm hOther

namespace Phase

variable {V : Type}

/- The report that a signal has got and not returned yet. -/
def unreported : Phase V → List WakeReport
| .announcing _ => [.woken 1]
| _ => []

/- Waking a thread does not make it signal. -/
theorem unreported_wake
    (g : Nat)
    (ph : Phase V) :
    (ph.wake g).unreported = ph.unreported :=
  ph.apply_wake unreported (fun _ _ _ _ => rfl) g

end Phase

/- A turn of a call is no signal. -/
theorem Turn.unreported_phase
    {V : Type}
    (side : Side)
    (next : Turn V) :
    (next.phase side).unreported = [] ∧
      next.facts.filterMap Fact.post? = [] ∧
      next.facts.filterMap Fact.signal? = [] := by
  cases next <;> exact ⟨rfl, rfl, rfl⟩

namespace Machine

variable {V : Type}

/- The report that a thread has got and not returned yet. -/
def unreported
    (m : Machine V)
    (t : Nat) : List WakeReport :=
  ((m.threads[t]?).map Phase.unreported).getD []

/- A signal returns what its post has reported. -/
theorem Moves.reports
    {m rest : Machine V}
    {t : Nat}
    {ph ph' : Phase V}
    {facts : List Fact}
    (hMoves : m.Moves t ph ph' facts rest) :
    ph.unreported ++ facts.filterMap Fact.post? =
      facts.filterMap Fact.signal? ++ ph'.unreported := by
  cases hMoves with
  | @call side c hHeld =>
      rw [(Turn.unreported_phase side _).1]
      rfl
  | @judge side a =>
      rcases Turn.unreported_phase side
          (a.judge (m.lock side).value).1 with
        ⟨hPhase, hPosts, hSignals⟩
      rw [hPhase, List.append_nil]
      exact hPosts.trans hSignals.symm
  | @resume a g o left hCounted =>
      rcases Turn.unreported_phase .bound (a.resume o left) with
        ⟨hPhase, hPosts, hSignals⟩
      rw [hPhase, List.append_nil]
      exact hPosts.trans hSignals.symm
  | @park a g v v' wakeAt stalled hLook =>
      cases stalled <;> rfl
  | _ => rfl

/- A move leaves what all other threads are to report. -/
theorem Moves.unreported_other
    {m rest : Machine V}
    {t u : Nat}
    {ph ph' : Phase V}
    {facts : List Fact}
    (hMoves : m.Moves t ph ph' facts rest)
    (hOther : u ≠ t) :
    (rest.setPhase t ph').unreported u = m.unreported u := by
  unfold unreported
  cases hThere : (rest.setPhase t ph').threads[u]? with
  | none =>
      have hLength := hMoves.length_threads
      have hGe := List.getElem?_eq_none_iff.mp hThere
      rw [hLength] at hGe
      rw [List.getElem?_eq_none hGe]
  | some x =>
      rcases hMoves.phase_other hOther hThere with
        ⟨y, hWas, rfl | ⟨g, rfl⟩⟩
      · rw [hWas]
      · rw [hWas]
        exact Phase.unreported_wake g y

/-
  A thread's signals have returned what their posts reported,
  but for the one that it is about to return from.
-/
def Reported
    (ns : List Note)
    (m : Machine V) : Prop :=
  ∀ t,
    postReports ns t = signalReports ns t ++ m.unreported t

/- Every step keeps the reports of all signals. -/
theorem Reported.steps
    {m m' : Machine V}
    {past ns : List Note}
    (hReported : Reported past m)
    (hSteps : m.Steps m' ns) :
    Reported (past ++ ns) m' := by
  intro u
  have hBefore := hReported u
  cases hSteps with
  | join =>
      have hSame :
          unreported
              { m with threads := m.threads ++ [.idle] } u =
            m.unreported u := by
        unfold unreported
        rcases Nat.lt_trichotomy u m.threads.length with
          hLt | rfl | hGt
        · rw [List.getElem?_append_left hLt]
        · rw [List.getElem?_concat_length,
            List.getElem?_eq_none (Nat.le_refl _)]
          rfl
        · rw [List.getElem?_eq_none (Nat.le_of_lt hGt),
            List.getElem?_eq_none
              (by simpa using Nat.succ_le_of_lt hGt)]
      rw [List.append_nil, hSame]
      exact hBefore
  | tick hLater =>
      rw [List.append_nil]
      exact hBefore
  | @move t ph ph' facts rest hPhase hMoves =>
      unfold postReports signalReports at hBefore ⊢
      rw [filterMap_append_facts, filterMap_append_facts,
        hBefore, List.append_assoc, List.append_assoc]
      congr 1
      by_cases hMine : u = t
      · subst hMine
        rw [if_pos rfl, if_pos rfl]
        unfold unreported
        rw [hPhase, hMoves.phase_self hPhase]
        exact hMoves.reports
      · rw [if_neg hMine, if_neg hMine,
          hMoves.unreported_other hMine]
        exact List.append_nil _

/- Wherever a fresh machine gets, reports are returned. -/
theorem Reaches.reported
    {m : Machine V}
    {s : Settings}
    {value foreign : V}
    {ns : List Note}
    (hReaches : (fresh s value foreign).Reaches ns m) :
    Reported ns m :=
  hReaches.invariant
    (P := fun ns m => Reported ns m)
    (fun _ => rfl)
    (fun hBefore hSteps => hBefore.steps hSteps)

/- A signal that returns nobody has changed nothing. -/
theorem Moves.rest_of_nobody
    {m rest : Machine V}
    {t : Nat}
    {ph ph' : Phase V}
    {facts : List Fact}
    (hMoves : m.Moves t ph ph' facts rest)
    (hNobody : Fact.signaled .nobody ∈ facts) :
    rest = m ∧ ph' = .idle := by
  have hTurn :
      ∀ {next : Turn V},
        Fact.signaled .nobody ∉ next.facts := by
    intro next hMem
    rcases Turn.finished_of_mem_facts hMem with ⟨_, hEq⟩
    cases hEq
  cases hMoves with
  | drop hDropped => exact ⟨rfl, rfl⟩
  | judge =>
      rcases List.mem_cons.mp hNobody with hHead | hMem
      · cases hHead
      · exact absurd hMem hTurn
  | resume hCounted =>
      rcases List.mem_cons.mp hNobody with hHead | hMem
      · cases hHead
      · exact absurd hMem hTurn
  | @park a g v v' wakeAt stalled hLook =>
      cases stalled <;> simp at hNobody
  | _ => simp at hNobody

------------------------------------------------------------
-- Signals Are Conserved
------------------------------------------------------------

/-
  When nobody waits, the current cohort has no permits, and
  whatever happens then, a wait that is settled as signaled
  later has its own signal after that time.
-/
theorem ReachesUncrowded.prompted_from_quiet
    {m m' : Machine V}
    {s : Settings}
    {value foreign : V}
    {ns ns' : List Note}
    (hReaches :
      (fresh s value foreign).ReachesUncrowded ns m)
    (hNobody : m.waiters = 0)
    (hOn : m.Reaches ns' m') :
    (m.cohort m.current).permits = 0 ∧
      Prompted (ns ++ ns') ns.length := by
  have hSound := hReaches.reaches.sound
  have hAll := hReaches.reaches.trans hOn
  have hNone : (m.cohort m.current).permits = 0 := by
    have hFew := hReaches.permitted.2.waited
    rw [hNobody] at hFew
    exact Nat.le_zero.mp hFew
  refine ⟨hNone, ?_⟩
  apply hAll.sound.ledger.prompted hAll.credited
  intro g
  rcases Nat.lt_trichotomy g m.current with
    hPast | rfl | hNew
  · exact
      promptedOn_of_none
        (hOn.none_taken hSound.orderly
          (hSound.orderly.past g hPast))
  · rcases hOn.traced hSound.orderly hNone with
      ⟨origin, spare, hMinted, _⟩
    exact hMinted.promptedOn
  · have hEmpty : (m.cohort g).permits = 0 := by
      unfold cohort
      rw [List.getElem?_eq_none]
      · rfl
      · rw [hSound.orderly.numbered]
        exact hNew
    rcases hOn.traced hSound.orderly hEmpty with
      ⟨origin, spare, hMinted, _⟩
    exact hMinted.promptedOn

/-
  In every history without crowding: the signals received by
  a cohort are as many as the waits on it that have returned
  as signaled, those that are settled so and on the way, and
  its permits.  A thread's signals return what their posts
  reported.  An open cohort has no more permits than waiters.
  Every wait that is settled as signaled, as it must be to
  return so, has its own signal received before on its epoch.
  A signal that returns nobody has changed nothing.  When
  nobody waits, the current cohort has no permits, and every
  wait that is settled as signaled later has its own signal
  received after that time.
-/
theorem signals_conserved
    {m : Machine V}
    {s : Settings}
    {value foreign : V}
    {ns : List Note}
    (hReaches :
      (fresh s value foreign).ReachesUncrowded ns m) :
    (∀ g,
      permitsLeft ns g =
        (waits ns).countP (·.wasSignaled g) +
          m.standings.countP (Standing.isGranted g) +
          (m.cohort g).permits) ∧
    (∀ t,
      postReports ns t =
        signalReports ns t ++ m.unreported t) ∧
    (∀ g,
      (m.cohort g).closed = false →
        (m.cohort g).permits ≤ (m.cohort g).registered) ∧
    (∀ x ∈ waits ns, ∀ o,
      x.returned = some o → ∃ i, x.settled = some (i, o)) ∧
    Prompted ns 0 ∧
    (∀ l m' ns',
      m.step l = some (m', ns') →
        ∀ n ∈ ns',
          n.fact = .signaled .nobody →
            m' = m.setPhase n.thread .idle) ∧
    (m.waiters = 0 →
      (m.cohort m.current).permits = 0 ∧
        ∀ m' ns',
          m.Reaches ns' m' →
            Prompted (ns ++ ns') ns.length) := by
  have hSound := hReaches.reaches.sound
  have hCredited := hReaches.reaches.credited
  rcases hReaches.permitted with ⟨hBalanced, hPermitted⟩
  refine
    ⟨?_, hReaches.reaches.reported, hPermitted.bounded,
      hSound.ledger.returned, ?_, ?_, ?_⟩
  · intro g
    rw [← hCredited.returned g]
    exact hBalanced g
  · apply hSound.ledger.prompted hCredited
    intro g
    have hTraced : Traced ([] ++ ns) 0 g m :=
      hReaches.reaches.traced
        (orderly_fresh s value foreign)
        (permits_fresh s value foreign g)
    rcases hTraced with ⟨origin, spare, hMinted, _⟩
    exact hMinted.promptedOn
  · intro l m' ns' hStep n hMem hFact
    cases steps_of_step hStep with
    | join => cases hMem
    | tick hLater => cases hMem
    | move hPhase hMoves =>
        rcases List.mem_map.mp hMem with ⟨f, hThere, rfl⟩
        subst hFact
        rcases hMoves.rest_of_nobody hThere with ⟨rfl, rfl⟩
        rfl
  · intro hNobody
    refine
      ⟨(hReaches.prompted_from_quiet hNobody .refl).1, ?_⟩
    intro m' ns' hOn
    exact (hReaches.prompted_from_quiet hNobody hOn).2

/-
  A signal leaves a permit, and an interrupt comes before the
  waiter has taken it, so that it is left over for good.  The
  same thread waits again, and a second signal is received
  and taken.  A third one finds nobody.
-/
theorem signals_conserved_despite_interrupt :
    ∃ (m m' : Machine Unit) (ns ns' : List Note),
      (fresh .standard () ()).ReachesUncrowded ns m ∧
        (m.cohort 0).permits = 1 ∧
        (m.cohort 0).registered = 0 ∧
        permitsLeft ns 0 =
          (waits ns).countP (·.wasSignaled 0) +
            m.standings.countP (Standing.isGranted 0) +
            (m.cohort 0).permits ∧
        (waits ns).countP (·.wasSignaled 1) = 1 ∧
        permitsLeft ns 1 =
          (waits ns).countP (·.wasSignaled 1) +
            m.standings.countP (Standing.isGranted 1) +
            (m.cohort 1).permits ∧
        Prompted ns 0 ∧
        m.waiters = 0 ∧
        (m.cohort m.current).permits = 0 ∧
        m.step (.advance 1) = some (m', ns') ∧
        ⟨1, ⟨0⟩, .signaled .nobody⟩ ∈ ns' ∧
        m' = m.setPhase 1 .idle ∧
        Prompted (ns ++ ns') ns.length := by
  have hRuns :
      ∃ (m m' : Machine Unit) (ns ns' : List Note),
        (fresh .standard () ()).run
            [.join, .join, .acquire 0 .bound,
              .call 0 .bound .wait, .advance 0, .advance 0,
              .advance 0, .signal 1, .advance 1,
              .notify 1 none, .interrupt 1, .advance 1,
              .advance 1, .advance 1, .advance 1, .advance 0,
              .advance 0, .advance 0, .advance 0, .advance 0,
              .call 0 .bound .wait, .advance 0, .advance 0,
              .advance 0, .signal 1, .advance 1,
              .notify 1 none, .advance 0, .advance 0,
              .advance 0, .advance 0, .advance 0, .signal 1] =
          some (m, ns) ∧
        m.step (.advance 1) = some (m', ns') ∧
        ⟨1, ⟨0⟩, .signaled .nobody⟩ ∈ ns' ∧
        (m.cohort 0).permits = 1 ∧
        (m.cohort 0).registered = 0 ∧
        (waits ns).countP (·.wasSignaled 1) = 1 ∧
        m.waiters = 0 ∧
        m.threads.length = 2 :=
    ⟨_, _, _, _, rfl, rfl,
      List.mem_cons_of_mem _ List.mem_cons_self, rfl, rfl, rfl,
      rfl, rfl⟩
  rcases hRuns with
    ⟨m, m', ns, ns', hRun, hStep, hNobody, hLeftOver, hGone,
      hTaken, hQuiet, hTwo⟩
  have hReaches : ReachesUncrowded _ _ m :=
    .of_threads (.of_run .refl hRun) (by rw [hTwo]; decide)
  rcases signals_conserved hReaches with
    ⟨hCount, _, _, _, hPrompted, hDropped, hSilent⟩
  rcases hSilent hQuiet with ⟨hNone, hLater⟩
  exact
    ⟨m, m', _, ns', hReaches, hLeftOver, hGone, hCount 0,
      hTaken, hCount 1, hPrompted, hQuiet, hNone, hStep,
      hNobody, hDropped _ _ _ hStep _ hNobody rfl,
      hLater m' ns' (Reaches.refl.step hStep)⟩

end Machine

end CondVar
