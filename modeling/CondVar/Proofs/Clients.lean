import CondVar.Handoff
import CondVar.Proofs.Timely

/-
  What producers and consumers do, as moves of the machine.

  What a thread is up to says in which phases it may be, and
  a step of the handoff is a move of the machine that goes
  with a change of duty.  Only a producer that has the lock
  adds to the stock, and only a consumer takes from it.

  Main declarations:
    * `Duty.allows`
    * `Machine.Errand`
    * `Machine.errand_of_step`
    * `Handoff.Steps`
    * `Handoff.steps_of_step`
-/

namespace CondVar

------------------------------------------------------------
-- Duties and Phases
------------------------------------------------------------

namespace Duty

/-
  Whether a thread may be in a phase, by what it is up to.  A
  consumer's waits have no condition.
-/
def allows : Duty → Phase Nat → Bool
| .leaving, .signaling _ => true
| .leaving, .announcing _ => true
| .consuming, .entering .bound a => a.condition.isNone
| .consuming, .ticketed a _ => a.condition.isNone
| .consuming, .withdrawing _ _ => true
| .consuming, .enrolled a _ => a.condition.isNone
| .consuming, .departed a _ => a.condition.isNone
| .consuming, .watching a _ _ => a.condition.isNone
| .consuming, .parked a _ _ _ => a.condition.isNone
| .consuming, .settled a _ _ _ => a.condition.isNone
| .consuming, .returning a _ _ _ => a.condition.isNone
| .consuming, .regained a _ _ _ => a.condition.isNone
| .minding, .signaling _ => true
| .minding, .announcing _ => true
| .minding, .locking => true
| .minding, .closing _ => true
| .minding, .rousing _ _ _ => true
| .minding, .renewing _ _ _ => true
| _, .idle => true
| _, _ => false

/- Any thread may be idle. -/
theorem allows_idle
    (d : Duty) :
    d.allows .idle = true := by
  cases d <;> rfl

/- Waking a thread does not take it away from its duty. -/
theorem allows_wake
    (d : Duty)
    (g : Nat)
    (ph : Phase Nat) :
    d.allows (ph.wake g) = d.allows ph := by
  apply ph.apply_wake d.allows
  intro a g' v wakeAt
  cases d <;> rfl

end Duty

/- A wait without a condition ends when it has blocked once. -/
theorem Attempt.phase_resume
    {V : Type}
    {a : Attempt V}
    (hPlain : a.condition.isNone = true)
    (o : Outcome)
    (left : Option Duration)
    (side : Side) :
    (a.resume o left).phase side = .idle := by
  unfold resume
  rw [Option.isNone_iff_eq_none.mp hPlain]
  cases left <;> rfl

------------------------------------------------------------
-- Errands
------------------------------------------------------------

namespace Machine

/-
  What a thread is up to before and after a move, its phases,
  and the machine that the move leaves except for its phase:
  the steps by which duties change, those by which the stock
  changes, the beginning of a wait, and all others.
-/
inductive Errand (m : Machine Nat) (t : Nat) :
    Duty → Duty → Phase Nat → Phase Nat →
      Machine Nat → Prop where
| takes :
    Errand m t .resting .stocking .idle .idle
      (m.setHolder .bound (some t))
| stocks
    (hHeld : m.bound.holder = some t) :
    Errand m t .stocking .calling .idle .idle
      (m.setValue .bound (m.bound.value + 1))
| calls :
    Errand m t .calling .leaving .idle
      (.signaling m.current) m
| leaves :
    Errand m t .leaving .resting .idle .idle
      (m.setHolder .bound none)
| consumes {v : Nat}
    (hHeld : m.bound.holder = some t)
    (hStock : m.bound.value = v + 1) :
    Errand m t .consuming .consuming .idle .idle
      (m.setValue .bound v)
| waits {a : Attempt Nat}
    (hNone : m.bound.value = 0)
    (hPlain : a.condition.isNone = true) :
    Errand m t .consuming .consuming .idle
      (.entering .bound a) m
| goes {d : Duty} {ph ph' : Phase Nat} {rest : Machine Nat}
    (hDuty : d = .leaving ∨ d = .consuming ∨ d = .minding)
    (hAllows : d.allows ph' = true)
    (hValue : rest.bound.value = m.bound.value)
    (hHolder :
      d = .leaving → rest.bound.holder = m.bound.holder)
    (hStays : d = .consuming → ph'.standing ≠ .inside) :
    Errand m t d d ph ph' rest

/- A producer that has called signal keeps the lock. -/
theorem errand_of_leaving
    {m rest : Machine Nat}
    {t : Nat}
    {ph ph' : Phase Nat}
    {facts : List Fact}
    (hAllows : Duty.leaving.allows ph = true)
    (hBusy : ph ≠ .idle)
    (hMoves : m.Moves t ph ph' facts rest) :
    m.Errand t .leaving .leaving ph ph' rest := by
  cases hMoves with
  | drop hDropped =>
      exact .goes (Or.inl rfl) rfl rfl (fun _ => rfl) nofun
  | post hOpen hLacks =>
      exact .goes (Or.inl rfl) rfl rfl (fun _ => rfl) nofun
  | announce hPhase hParked =>
      exact .goes (Or.inl rfl) rfl rfl (fun _ => rfl) nofun
  | announceNobody hNone =>
      exact .goes (Or.inl rfl) rfl rfl (fun _ => rfl) nofun
  | _ => first | exact absurd rfl hBusy | cases hAllows

/- A consumer that waits changes nothing of the stock. -/
theorem errand_of_consuming
    {m rest : Machine Nat}
    {t : Nat}
    {ph ph' : Phase Nat}
    {facts : List Fact}
    (hAllows : Duty.consuming.allows ph = true)
    (hBusy : ph ≠ .idle)
    (hMoves : m.Moves t ph ph' facts rest) :
    m.Errand t .consuming .consuming ph ph' rest := by
  have hGoes :
      Duty.consuming.allows ph' = true →
        rest.bound.value = m.bound.value →
          ph'.standing ≠ .inside →
            m.Errand t .consuming .consuming ph ph' rest :=
    fun h h' hStays =>
      .goes (Or.inr (Or.inl rfl)) h h' nofun
        (fun _ => hStays)
  cases hMoves with
  | enroll => exact hGoes hAllows rfl nofun
  | count hCounted => exact hGoes hAllows rfl nofun
  | refuse hRefused => exact hGoes rfl rfl nofun
  | withdraw => exact hGoes rfl rfl nofun
  | depart => exact hGoes hAllows rfl nofun
  | watch => exact hGoes hAllows rfl nofun
  | settle hLook => exact hGoes hAllows rfl nofun
  | park hLook => exact hGoes hAllows rfl nofun
  | expire hDue => exact hGoes hAllows rfl nofun
  | measure => exact hGoes hAllows rfl nofun
  | regain hFree => exact hGoes hAllows rfl nofun
  | @resume a g o left hCounted =>
      rw [Attempt.phase_resume hAllows] at hGoes ⊢
      exact hGoes rfl rfl nofun
  | underflow hRefused => exact hGoes rfl rfl nofun
  | _ => first | exact absurd rfl hBusy | cases hAllows

/- All others change nothing of the stock either. -/
theorem errand_of_minding
    {m rest : Machine Nat}
    {t : Nat}
    {ph ph' : Phase Nat}
    {facts : List Fact}
    (hAllows : Duty.minding.allows ph = true)
    (hBusy : ph ≠ .idle)
    (hMoves : m.Moves t ph ph' facts rest) :
    m.Errand t .minding .minding ph ph' rest := by
  have hGoes :
      Duty.minding.allows ph' = true →
        rest.bound.value = m.bound.value →
          m.Errand t .minding .minding ph ph' rest :=
    fun h h' => .goes (Or.inr (Or.inr rfl)) h h' nofun nofun
  cases hMoves with
  | drop hDropped => exact hGoes rfl rfl
  | post hOpen hLacks => exact hGoes rfl rfl
  | announce hPhase hParked => exact hGoes rfl rfl
  | announceNobody hNone => exact hGoes rfl rfl
  | takeLock hFree => exact hGoes rfl rfl
  | close hOpen => exact hGoes rfl rfl
  | closeAgain hClosed => exact hGoes rfl rfl
  | rouse => exact hGoes rfl rfl
  | renew => exact hGoes rfl rfl
  | renewTaken => exact hGoes rfl rfl
  | _ => first | exact absurd rfl hBusy | cases hAllows

/- A busy thread goes on with its duty. -/
theorem errand_of_busy
    {m rest : Machine Nat}
    {t : Nat}
    {d : Duty}
    {ph ph' : Phase Nat}
    {facts : List Fact}
    (hAllows : d.allows ph = true)
    (hBusy : ph ≠ .idle)
    (hMoves : m.Moves t ph ph' facts rest) :
    m.Errand t d d ph ph' rest := by
  cases d with
  | leaving => exact errand_of_leaving hAllows hBusy hMoves
  | consuming =>
      exact errand_of_consuming hAllows hBusy hMoves
  | minding => exact errand_of_minding hAllows hBusy hMoves
  | _ => cases ph <;> first | exact absurd rfl hBusy | cases hAllows

/-
  A thread's step on its duty: the move and the errand that
  it is, the notes it makes, and what it adds to the stock or
  takes from it.
-/
structure Runs
    (m m' : Machine Nat)
    (t : Nat)
    (d d' : Duty)
    (added taken : Nat)
    (ns : List Note)
    (ph ph' : Phase Nat)
    (facts : List Fact)
    (rest : Machine Nat) : Prop where
  phase : m.threads[t]? = some ph
  moves : m.Moves t ph ph' facts rest
  errand : m.Errand t d d' ph ph' rest
  after : m' = rest.setPhase t ph'
  notes : ns = facts.map (Note.mk t m.clock)
  stock : m.bound.value + added = rest.bound.value + taken

section

variable {m m' : Machine Nat}
variable {t : Nat}
variable {d d' : Duty}
variable {ns : List Note}

/- Whoever takes the lock is idle before and after. -/
theorem runs_of_acquire
    (hStep : m.step (.acquire t .bound) = some (m', ns))
    (hErrand :
      m.Errand t d d' .idle .idle
        (m.setHolder .bound (some t))) :
    ∃ ph ph' facts rest,
      m.Runs m' t d d' 0 0 ns ph ph' facts rest := by
  rcases acquire_of_step hStep with ⟨hIdle, hFree, rfl, rfl⟩
  have hStay :=
    setPhase_of_phase (m := m.setHolder .bound (some t)) hIdle
  exact
    ⟨_, _, _, _, hIdle, .acquire hFree, hErrand,
      hStay.symm, rfl, rfl⟩

/- Whoever releases the lock is idle before and after. -/
theorem runs_of_release
    (hStep : m.step (.release t .bound) = some (m', ns))
    (hErrand :
      m.Errand t d d' .idle .idle
        (m.setHolder .bound none)) :
    ∃ ph ph' facts rest,
      m.Runs m' t d d' 0 0 ns ph ph' facts rest := by
  rcases release_of_step hStep with ⟨hIdle, hHeld, rfl, rfl⟩
  have hStay :=
    setPhase_of_phase (m := m.setHolder .bound none) hIdle
  exact
    ⟨_, _, _, _, hIdle, .release hHeld, hErrand,
      hStay.symm, rfl, rfl⟩

/- Whoever changes the stock has the lock and stays idle. -/
theorem runs_of_write
    {v added taken : Nat}
    (hStep : m.step (.write t .bound v) = some (m', ns))
    (hErrand :
      m.bound.holder = some t →
        m.Errand t d d' .idle .idle (m.setValue .bound v))
    (hStock : m.bound.value + added = v + taken) :
    ∃ ph ph' facts rest,
      m.Runs m' t d d' added taken ns ph ph' facts rest := by
  rcases write_of_step hStep with ⟨hIdle, hHeld, rfl, rfl⟩
  have hStay :=
    setPhase_of_phase (m := m.setValue .bound v) hIdle
  exact
    ⟨_, _, _, _, hIdle, .write hHeld,
      hErrand (of_decide_eq_true hHeld),
      hStay.symm, rfl, hStock⟩

/- Whoever calls signal goes to the current cohort. -/
theorem runs_of_signal
    (hStep : m.step (.signal t) = some (m', ns))
    (hErrand :
      m.Errand t d d' .idle (.signaling m.current) m) :
    ∃ ph ph' facts rest,
      m.Runs m' t d d' 0 0 ns ph ph' facts rest := by
  rcases signal_of_step hStep with ⟨hIdle, rfl, rfl⟩
  exact
    ⟨_, _, _, _, hIdle, .signal, hErrand, rfl, rfl, rfl⟩

/- Whoever is busy goes on and leaves the stock. -/
theorem runs_of_goes
    {l : Label Nat}
    (hAllowed :
      ∀ ph, m.threads[t]? = some ph → d.allows ph = true)
    (hLabel : Goes t l)
    (hStep : m.step l = some (m', ns)) :
    ∃ ph ph' facts rest,
      m.Runs m' t d d 0 0 ns ph ph' facts rest := by
  rcases moves_of_goes hLabel hStep with
    ⟨ph, ph', facts, rest, hPhase, hBusy, hMoves, rfl, rfl⟩
  have hErrand :=
    errand_of_busy (hAllowed ph hPhase) hBusy hMoves
  refine
    ⟨ph, ph', facts, rest, hPhase, hMoves, hErrand, rfl, rfl,
      ?_⟩
  cases hErrand with
  | goes hDuty hAllows hValue hHolder hStays =>
      exact congrArg (· + 0) hValue.symm
  | consumes hHeld hStock => exact absurd rfl hBusy
  | waits hNone hPlain => exact absurd rfl hBusy

/- A step that a thread may take on its duty is an errand. -/
theorem errand_of_step
    {l : Label Nat}
    (hAllowed :
      ∀ ph, m.threads[t]? = some ph → d.allows ph = true)
    (hThread : l.thread? = some t)
    (hAfter : d.after? m.bound.value l = some d')
    (hStep : m.step l = some (m', ns)) :
    ∃ ph ph' facts rest,
      m.Runs m' t d d' (d.isProducer && l.isWrite).toNat
        (!d.isProducer && l.isWrite).toNat ns ph ph' facts
        rest := by
  have hConsumer :
      ∀ {rest : Machine Nat},
        rest.bound.value = m.bound.value →
          m.Errand t .consuming .consuming .idle .idle rest :=
    fun hValue =>
      .goes (Or.inr (Or.inl rfl)) rfl hValue nofun nofun
  have hMinder :
      ∀ {ph' : Phase Nat} {rest : Machine Nat},
        Duty.minding.allows ph' = true →
          rest.bound.value = m.bound.value →
            m.Errand t .minding .minding .idle ph' rest :=
    fun hAllows hValue =>
      .goes (Or.inr (Or.inr rfl)) hAllows hValue nofun nofun
  unfold Duty.after? at hAfter
  split at hAfter
  -- A producer takes the lock, adds an item, and signals.
  · cases hAfter
    cases hThread
    exact runs_of_acquire hStep .takes
  · split at hAfter
    · rename_i hMore
      cases hAfter
      cases hThread
      subst hMore
      exact runs_of_write hStep .stocks rfl
    · cases hAfter
  · cases hAfter
    cases hThread
    exact runs_of_signal hStep .calls
  · cases hAfter
    cases hThread
    exact runs_of_goes hAllowed .advance hStep
  · cases hAfter
    cases hThread
    exact runs_of_goes hAllowed .notify hStep
  · cases hAfter
    cases hThread
    exact runs_of_release hStep .leaves
  -- A consumer takes an item, or finds none and waits.
  · cases hAfter
    cases hThread
    exact runs_of_acquire hStep (hConsumer rfl)
  · cases hAfter
    cases hThread
    exact runs_of_release hStep (hConsumer rfl)
  · split at hAfter
    · rename_i hSome
      cases hAfter
      cases hThread
      exact
        runs_of_write hStep (fun hHeld => .consumes hHeld hSome)
          hSome
    · cases hAfter
  · split at hAfter
    · rename_i hNone
      cases hAfter
      cases hThread
      rcases call_of_step hStep with ⟨hIdle, hHeld, rfl, rfl⟩
      refine
        ⟨_, _, _, _, hIdle, .call hHeld, ?_, rfl, rfl, rfl⟩
      unfold Call.begin
      rw [Option.isNone_iff_eq_none.mp hNone.2]
      exact .waits hNone.1 rfl
    · cases hAfter
  · cases hAfter
    cases hThread
    exact runs_of_goes hAllowed .advance hStep
  · cases hAfter
    cases hThread
    exact runs_of_goes hAllowed .expire hStep
  -- The others never touch the stock.
  · cases hAfter
    cases hThread
    exact runs_of_acquire hStep (hMinder rfl rfl)
  · cases hAfter
    cases hThread
    exact runs_of_release hStep (hMinder rfl rfl)
  · cases hAfter
    cases hThread
    exact runs_of_signal hStep (hMinder rfl rfl)
  · cases hAfter
    cases hThread
    rcases interrupt_of_step hStep with ⟨hIdle, rfl, rfl⟩
    exact
      ⟨_, _, _, _, hIdle, .interrupt, hMinder rfl rfl, rfl,
        rfl, rfl⟩
  · cases hAfter
    cases hThread
    rcases interruptHeld_of_step hStep with
      ⟨hIdle, hHeld, rfl, rfl⟩
    exact
      ⟨_, _, _, _, hIdle, .interruptHeld hHeld,
        hMinder rfl rfl, rfl, rfl, rfl⟩
  · cases hAfter
    cases hThread
    exact runs_of_goes hAllowed .advance hStep
  · cases hAfter
    cases hThread
    exact runs_of_goes hAllowed .notify hStep
  · cases hAfter

end

end Machine

------------------------------------------------------------
-- Steps of a Handoff
------------------------------------------------------------

namespace Handoff

/- A step: time passes, or a thread runs an errand. -/
inductive Steps (h : Handoff) :
    Handoff → List Note → Prop where
| tick {now : Instant}
    (hLater : h.machine.clock ≤ now) :
    Steps h
      { h with machine := { h.machine with clock := now } } []
| move {m' : Machine Nat} {t : Nat} {d d' : Duty}
    {added taken : Nat} {ns : List Note}
    {ph ph' : Phase Nat} {facts : List Fact}
    {rest : Machine Nat}
    (hDuty : h.duties[t]? = some d)
    (hRuns :
      h.machine.Runs m' t d d' added taken ns ph ph' facts
        rest) :
    Steps h
      ⟨m', h.duties.set t d', h.produced + added,
        h.consumed + taken⟩
      ns

/- Every thread is in a phase that its duty allows. -/
def Allowed (h : Handoff) : Prop :=
  ∀ (t : Nat) (d : Duty) ph,
    h.duties[t]? = some d →
      h.machine.threads[t]? = some ph → d.allows ph = true

/- Every step that can be taken is one of the steps listed. -/
theorem steps_of_step
    {h h' : Handoff}
    {l : Label Nat}
    {ns : List Note}
    (hAllowed : h.Allowed)
    (hStep : h.step l = some (h', ns)) :
    h.Steps h' ns := by
  unfold step at hStep
  split at hStep
  · rename_i t hThread
    unfold act at hStep
    rcases Option.bind_eq_some_iff.mp hStep with
      ⟨d, hDuty, hStep⟩
    rcases Option.bind_eq_some_iff.mp hStep with
      ⟨d', hAfter, hStep⟩
    rcases Option.bind_eq_some_iff.mp hStep with
      ⟨⟨m', ns'⟩, hMachine, hEq⟩
    cases hEq
    rcases
        Machine.errand_of_step
          (fun ph hPhase => hAllowed t d ph hDuty hPhase)
          hThread hAfter hMachine with
      ⟨ph, ph', facts, rest, hRuns⟩
    exact .move hDuty hRuns
  · rename_i duration hThread
    rcases Option.bind_eq_some_iff.mp hStep with
      ⟨⟨m', ns'⟩, hMachine, hEq⟩
    cases hEq
    rcases Machine.tick_of_step hMachine with
      ⟨now, hLater, rfl, rfl⟩
    exact .tick hLater
  · cases hStep

/- The machine of a handoff takes the same step. -/
theorem Steps.machine
    {h h' : Handoff}
    {ns : List Note}
    (hSteps : h.Steps h' ns) :
    h.machine.Steps h'.machine ns := by
  cases hSteps with
  | tick hLater => exact .tick hLater
  | move hDuty hRuns =>
      cases hRuns.after
      cases hRuns.notes
      exact .move hRuns.phase hRuns.moves

end Handoff

end CondVar
