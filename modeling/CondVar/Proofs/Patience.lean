import CondVar.Proofs.Stopwatch
import CondVar.Proofs.Warnings

/-
  Why a waiter looks at its cohort, and how often.

  A waiter that parks until some time has found it ahead: a
  deadline that was reached would have ended the wait, and a
  warning that was due has just been put off by one period,
  which is not zero.  So a waiter looks again only after it
  was told to or after the clock has gone on, and of each look
  there is a cause that no other look has.

  Main declarations:
    * `Vigil.Paced`
    * `Vigil.Paced.ahead`
    * `Machine.tells`
    * `Machine.parked_step`
    * `Machine.parked_run`
    * `Machine.looks_le_of_run`
    * `Machine.waiters_never_spin`
-/

namespace CondVar

variable {V : Type}

------------------------------------------------------------
-- Times to Wake Up
------------------------------------------------------------

namespace Vigil

/-
  A vigil that warns does so in steps of some length, and one
  that never warns has no time set for it.
-/
structure Paced (v : Vigil) : Prop where
  stall : ∀ p ∈ v.stall, 0 < p.toNanos
  quiet : v.stall = none → v.nextWarning = none

/- A waiter that parks again has the same stall period. -/
theorem stall_of_park
    {v v' : Vigil}
    {s : Sighting}
    {wakeAt : Option Instant}
    {stalled : Option Duration}
    (hPark : v.look s = .park v' wakeAt stalled) :
    v'.stall = v.stall := by
  rcases park_cases hPark with
    ⟨_, ⟨_, rfl, _⟩ | ⟨_, rfl, _⟩⟩
  · rfl
  · rfl

/- No time is set where there is nothing to wake up for. -/
theorem wakeAt_eq_none_iff
    (v : Vigil) :
    v.wakeAt = none ↔
      v.deadline = none ∧ v.nextWarning = none := by
  unfold wakeAt
  split
  · rename_i d w hDeadline hNext
    simp [hDeadline]
  · rename_i d hDeadline hNext
    simp [hDeadline]
  · rename_i hDeadline
    simp [hDeadline]

/-
  A waiter wakes up at its deadline or to warn, and no later
  than at the deadline.
-/
theorem wakeAt_spec
    {v : Vigil}
    {w : Instant}
    (hWake : v.wakeAt = some w) :
    (v.deadline = some w ∨ v.nextWarning = some w) ∧
      ∀ d ∈ v.deadline, w ≤ d := by
  unfold wakeAt at hWake
  split at hWake
  · rename_i d x hDeadline hNext
    rw [hDeadline, hNext]
    by_cases hFirst : d ≤ x
    · have hSame : d = w := by
        simpa [Instant.earlier, hFirst] using hWake
      subst hSame
      refine ⟨Or.inl rfl, ?_⟩
      rintro _ ⟨⟩
      exact Nat.le_refl d.nanos
    · have hSame : x = w := by
        simpa [Instant.earlier, hFirst] using hWake
      subst hSame
      refine ⟨Or.inr rfl, ?_⟩
      rintro _ ⟨⟩
      exact Nat.le_of_not_le hFirst
  · rename_i d hDeadline hNext
    rw [hDeadline]
    refine ⟨Or.inl hWake, ?_⟩
    rintro _ ⟨⟩
    rw [Option.some.inj hWake]
    exact Nat.le_refl w.nanos
  · rename_i hDeadline
    rw [hDeadline]
    refine ⟨Or.inr hWake, ?_⟩
    rintro _ ⟨⟩

namespace Paced

variable {v v' : Vigil}
variable {s : Sighting}
variable {wakeAt : Option Instant}
variable {stalled : Option Duration}

/- A vigil that parks again stays paced. -/
theorem park
    (hPaced : v.Paced)
    (hPark : v.look s = .park v' wakeAt stalled) :
    v'.Paced := by
  have hStall := stall_of_park hPark
  constructor
  · rw [hStall]
    exact hPaced.stall
  · intro hNone
    have hBefore := hPaced.quiet (hStall.symm.trans hNone)
    rcases park_cases hPark with
      ⟨_, ⟨_, rfl, _⟩ | ⟨_, rfl, _⟩⟩
    · exact hBefore
    · change v.stall.bind s.clock.after? = none
      rw [← hStall, hNone]
      exact Option.bind_none _

/- The next warning of a waiter that parks is ahead. -/
theorem warning_ahead
    (hPaced : v.Paced)
    (hPark : v.look s = .park v' wakeAt stalled) :
    ∀ w ∈ v'.nextWarning, s.clock.nanos < w.nanos := by
  intro w hNext
  rcases park_cases hPark with
    ⟨_, ⟨hEarly, rfl, _⟩ | ⟨_, rfl, _⟩⟩
  · by_contra hReached
    have hDue : v'.due s.clock = true :=
      (v'.due_iff s.clock).mpr
        ⟨w, hNext, Nat.le_of_not_lt hReached⟩
    rw [hEarly] at hDue
    cases hDue
  · change w ∈ v.stall.bind s.clock.after? at hNext
    rcases Option.bind_eq_some_iff.mp hNext with
      ⟨p, hPeriod, hAfter⟩
    rw [Instant.nanos_of_after? hAfter]
    exact Nat.lt_add_of_pos_right (hPaced.stall p hPeriod)

/-
  The time until which a waiter parks is ahead, and not later
  than the deadline.  It is missing only if there is neither a
  deadline nor a warning to come.
-/
theorem ahead
    (hPaced : v.Paced)
    (hPark : v.look s = .park v' wakeAt stalled) :
    (∀ w ∈ wakeAt,
      s.clock.nanos < w.nanos ∧ ∀ d ∈ v.deadline, w ≤ d) ∧
    (wakeAt = none ↔
      v.deadline = none ∧ v'.nextWarning = none) := by
  have hKept := deadline_of_park hPark
  have hWakeAt := (park_cases hPark).1
  subst hWakeAt
  rw [← hKept]
  refine ⟨?_, v'.wakeAt_eq_none_iff⟩
  intro w hWake
  rcases wakeAt_spec hWake with ⟨hWhat, hNotLater⟩
  refine ⟨?_, hNotLater⟩
  rcases hWhat with hDeadline | hNext
  · by_contra hReached
    have hLate : s.Late v.deadline :=
      ⟨w, hKept ▸ hDeadline, Nat.le_of_not_lt hReached⟩
    exact indecisive_of_park hPark (Or.inr (Or.inr hLate))
  · exact hPaced.warning_ahead hPark w hNext

/- A waiter that never warns does not when it parks, either. -/
theorem silent
    (hPaced : v.Paced)
    (hPark : v.look s = .park v' wakeAt stalled)
    (hNever : v.stall = none) :
    v'.nextWarning = none ∧ stalled = none := by
  have hStall := stall_of_park hPark
  refine
    ⟨(hPaced.park hPark).quiet (hStall.trans hNever), ?_⟩
  rcases park_cases hPark with
    ⟨_, ⟨_, _, hNone⟩ | ⟨hDue, _, _⟩⟩
  · exact hNone
  · rcases (v.due_iff s.clock).mp hDue with ⟨w, hNext, _⟩
    rw [hPaced.quiet hNever] at hNext
    cases hNext

/- All of a vigil's looks that park are those of paced vigils. -/
theorem park_of_keep
    {ss : List Sighting}
    {n : Nat}
    (hPaced : v.Paced)
    (hLook : (v.keep ss)[n]? = some (.park v' wakeAt stalled)) :
    ∃ (x : Sighting) (v₁ : Vigil),
      ss[n]? = some x ∧ v₁.Paced ∧
        v₁.look x = .park v' wakeAt stalled ∧
        v₁.deadline = v.deadline ∧ v₁.stall = v.stall := by
  induction ss generalizing v n with
  | nil => cases hLook
  | cons x ss ih =>
      cases hFirst : v.look x with
      | settle o =>
          rw [keep_of_settle hFirst] at hLook
          cases n with
          | zero => cases hLook
          | succ n => cases hLook
      | park v₁ wakeAt₁ stalled₁ =>
          rw [keep_of_park hFirst] at hLook
          cases n with
          | zero =>
              cases hLook
              exact ⟨x, v, rfl, hPaced, hFirst, rfl, rfl⟩
          | succ n =>
              rw [List.getElem?_cons_succ] at hLook
              rcases ih (hPaced.park hFirst) hLook with
                ⟨y, v₂, hHere, hPaced₂, hPark, hDeadline,
                  hStall⟩
              refine ⟨y, v₂, hHere, hPaced₂, hPark, ?_, ?_⟩
              · exact hDeadline.trans (deadline_of_park hFirst)
              · exact hStall.trans (stall_of_park hFirst)

end Paced

end Vigil

------------------------------------------------------------
-- Vigils of a Machine
------------------------------------------------------------

/- A stall period of zero is not in force. -/
theorem Settings.toNanos_pos_of_stallPeriod
    {s : Settings}
    {p : Duration}
    (hPeriod : s.stallPeriod? = some p) :
    0 < p.toNanos := by
  rcases Option.filter_eq_some_iff.mp hPeriod with
    ⟨_, hLong⟩
  apply Nat.pos_of_ne_zero
  rw [Ne, ← Duration.isZero_iff]
  exact of_decide_eq_true hLong

/- No stall period is in force if there is none but zero. -/
theorem Settings.stallPeriod?_eq_none
    {s : Settings}
    (hZero : ∀ d ∈ s.stall, d.IsZero) :
    s.stallPeriod? = none := by
  apply Option.filter_eq_none_iff.mpr
  intro d hMem
  simpa using hZero d hMem

namespace Machine

/- The vigils that a machine starts are paced. -/
theorem paced_start
    (m : Machine V)
    (a : Attempt V) :
    (m.start a).Paced := by
  unfold start
  split
  · constructor
    · intro p hPeriod
      exact Settings.toNanos_pos_of_stallPeriod hPeriod
    · intro hNone
      change m.settings.stallPeriod? = none at hNone
      simp only [Vigil.start, hNone, Option.bind_none]
  · constructor
    · intro p hPeriod
      cases hPeriod
    · intro _
      rfl

/- A wait without a limit has no deadline. -/
theorem deadline_start
    (m : Machine V)
    {a : Attempt V}
    (hUnlimited : a.budget = none) :
    (m.start a).deadline = none ∧
      (m.start a).stall = m.settings.stallPeriod? := by
  unfold start
  rw [hUnlimited]
  exact ⟨rfl, rfl⟩

end Machine

namespace Phase

/- Whether a waiting thread's vigil is paced. -/
def Paced : Phase V → Prop
| .watching _ _ v => v.Paced
| .parked _ _ v _ => v.Paced
| _ => True

/- Waking up keeps the vigil. -/
theorem Paced.wake
    {ph : Phase V}
    (hPaced : ph.Paced)
    (g : Nat) :
    (ph.wake g).Paced := by
  rw [ph.apply_wake Paced (fun _ _ _ _ => rfl) g]
  exact hPaced

end Phase

/- A thread that takes a turn of its call is not waiting. -/
theorem Turn.paced_phase
    (y : Turn V)
    (side : Side) :
    (y.phase side).Paced := by
  cases y <;> trivial

/- A move keeps the vigil of its thread paced. -/
theorem Machine.Moves.paced
    {m rest : Machine V}
    {t : Nat}
    {ph ph' : Phase V}
    {facts : List Fact}
    (hMoves : m.Moves t ph ph' facts rest)
    (hPaced : ph.Paced) :
    ph'.Paced := by
  cases hMoves with
  | call hHeld => exact Turn.paced_phase _ _
  | judge => exact Turn.paced_phase _ _
  | resume hCounted => exact Turn.paced_phase _ _
  | @watch a g => exact m.paced_start a
  | park hLook => exact Vigil.Paced.park hPaced hLook
  | expire hDue => exact hPaced
  | _ => trivial

/- Whether all vigils of a machine's threads are paced. -/
def Machine.Paced (m : Machine V) : Prop :=
  ∀ (t : Nat) (ph : Phase V),
    m.threads[t]? = some ph → ph.Paced

/- Every step keeps them paced. -/
theorem Machine.Paced.steps
    {m m' : Machine V}
    {ns : List Note}
    (hPaced : m.Paced)
    (hSteps : m.Steps m' ns) :
    m'.Paced := by
  intro t ph hThere
  cases hSteps with
  | join =>
      rcases List.mem_append.mp
          (List.mem_of_getElem? hThere) with hOld | hNew
      · rcases List.getElem?_of_mem hOld with ⟨u, hBefore⟩
        exact hPaced u ph hBefore
      · rw [List.mem_singleton.mp hNew]
        trivial
  | tick hLater => exact hPaced t ph hThere
  | @move u ph₁ _ _ _ hPhase hMoves =>
      by_cases hSelf : t = u
      · subst hSelf
        rw [hMoves.phase_self hPhase] at hThere
        cases hThere
        exact hMoves.paced (hPaced t ph₁ hPhase)
      · rcases hMoves.phase_other hSelf hThere with
          ⟨y, hBefore, rfl | ⟨g, rfl⟩⟩
        · exact hPaced t _ hBefore
        · exact (hPaced t y hBefore).wake g

/- Wherever threads wait, their vigils are paced. -/
theorem Machine.Reaches.paced
    {s : Settings}
    {value foreign : V}
    {m : Machine V}
    {ns : List Note}
    (hReaches : (fresh s value foreign).Reaches ns m) :
    m.Paced := by
  apply hReaches.invariant (P := fun _ m => m.Paced)
  · intro t ph hPhase
    cases hPhase
  · intro m₁ m₂ past ns hPaced hSteps
    exact hPaced.steps hSteps

------------------------------------------------------------
-- Causes to Look
------------------------------------------------------------

namespace Machine

/-
  Whether a step tells a parked thread to wake up: a signal
  tells the one it chooses, an interrupt tells all that are
  parked on the cohort it has closed.
-/
def tells
    (m : Machine V)
    (t : Nat) : Label V → Bool
| .notify _ target => target = some t
| .advance u =>
    match m.threads[u]? with
    | some (.rousing _ g _) =>
        m.threads[t]?.any (Phase.isParkedOn g)
    | _ => false
| _ => false

/- How often a run takes steps of some kind. -/
def countIn
    (m : Machine V)
    (q : Machine V → Label V → Machine V → Bool) :
    List (Label V) → Nat
| [] => 0
| l :: ls =>
    match m.step l with
    | none => 0
    | some (m', _) => (q m l m').toNat + countIn m' q ls

/- How often a run tells a parked thread to wake up. -/
def tellingsIn
    (m : Machine V)
    (t : Nat)
    (ls : List (Label V)) : Nat :=
  m.countIn (fun m l _ => m.tells t l) ls

/- How often the clock goes on in a run. -/
def advancesIn
    (m : Machine V)
    (ls : List (Label V)) : Nat :=
  m.countIn (fun m _ m' => m.clock.nanos < m'.clock.nanos) ls

/- The steps of a run are its first step and the rest. -/
theorem countIn_cons
    {m m' : Machine V}
    {l : Label V}
    {ns : List Note}
    (hStep : m.step l = some (m', ns))
    (q : Machine V → Label V → Machine V → Bool)
    (ls : List (Label V)) :
    m.countIn q (l :: ls) =
      (q m l m').toNat + m'.countIn q ls := by
  simp only [countIn, hStep]

/- A run does not take the clock back. -/
theorem clock_le_of_run
    {m m' : Machine V}
    {ls : List (Label V)}
    {ns : List Note}
    (hRun : m.run ls = some (m', ns)) :
    m.clock ≤ m'.clock := by
  induction ls generalizing m ns with
  | nil =>
      cases hRun
      exact Nat.le_refl m'.clock.nanos
  | cons l ls ih =>
      rcases run_cons hRun with
        ⟨m₁, ns₁, ns₂, hStep, hRest, rfl⟩
      calc m.clock.nanos
          ≤ m₁.clock.nanos := (clock_of_step hStep).1
        _ ≤ m'.clock.nanos := ih hRest

/- A thread that is not idle takes a step of its call. -/
theorem goes_of_busy
    {m m' : Machine V}
    {l : Label V}
    {ns : List Note}
    {t : Nat}
    {ph : Phase V}
    (hStep : m.step l = some (m', ns))
    (hPhase : m.threads[t]? = some ph)
    (hBusy : ph ≠ .idle)
    (hOwn : l.thread? = some t) :
    Goes t l := by
  have hNever : m.threads[t]? ≠ some .idle := by
    rw [hPhase]
    intro hIdle
    exact hBusy (Option.some.inj hIdle)
  cases l with
  | join => cases hOwn
  | tick d => cases hOwn
  | acquire u side =>
      cases hOwn
      exact absurd (acquire_of_step hStep).1 hNever
  | release u side =>
      cases hOwn
      exact absurd (release_of_step hStep).1 hNever
  | write u side v =>
      cases hOwn
      exact absurd (write_of_step hStep).1 hNever
  | call u side c =>
      cases hOwn
      exact absurd (call_of_step hStep).1 hNever
  | signal u =>
      cases hOwn
      exact absurd (signal_of_step hStep).1 hNever
  | interrupt u =>
      cases hOwn
      exact absurd (interrupt_of_step hStep).1 hNever
  | interruptHeld u side =>
      cases hOwn
      cases side with
      | bound =>
          exact absurd (interruptHeld_of_step hStep).1 hNever
      | foreign =>
          exact absurd (interruptForeign_of_step hStep).1 hNever
  | advance u =>
      cases hOwn
      exact .advance
  | notify u target =>
      cases hOwn
      exact .notify
  | expire u =>
      cases hOwn
      exact .expire

/- A thread that watches its cohort goes on only by a look. -/
theorem watching_step
    {m m' : Machine V}
    {l : Label V}
    {ns : List Note}
    {t : Nat}
    {a : Attempt V}
    {g : Nat}
    {v : Vigil}
    (hStep : m.step l = some (m', ns))
    (hThere : m.threads[t]? = some (.watching a g v))
    (hOther : l ≠ .advance t) :
    m'.threads[t]? = some (.watching a g v) := by
  have hNotOwn : l.thread? ≠ some t := by
    intro hOwn
    have hGoes := goes_of_busy hStep hThere nofun hOwn
    exact hOther (eq_advance_of_goes hGoes hStep hThere rfl)
  rcases own_or_other hStep hThere
      (fun hOwn => absurd hOwn hNotOwn) with
    ⟨hOwn, _⟩ | ⟨_, _, ph, hAfter, rfl | ⟨g', rfl⟩⟩
  · exact absurd hOwn hNotOwn
  · exact hAfter
  · exact hAfter

/- Until then it watches its cohort. -/
theorem watching_run
    {m m' : Machine V}
    {ls : List (Label V)}
    {ns : List Note}
    {t : Nat}
    {a : Attempt V}
    {g : Nat}
    {v : Vigil}
    (hThere : m.threads[t]? = some (.watching a g v))
    (hNoLook : .advance t ∉ ls)
    (hRun : m.run ls = some (m', ns)) :
    m'.threads[t]? = some (.watching a g v) := by
  induction ls generalizing m ns with
  | nil =>
      cases hRun
      exact hThere
  | cons l ls ih =>
      rcases run_cons hRun with
        ⟨m₁, ns₁, ns₂, hStep, hRest, rfl⟩
      have hNotNow : l ≠ .advance t := by
        rintro rfl
        exact hNoLook List.mem_cons_self
      apply ih (watching_step hStep hThere hNotNow) ?_ hRest
      intro hMem
      exact hNoLook (List.mem_cons_of_mem l hMem)

/-
  What others do leaves a parked thread parked, unless it is
  an interrupt that wakes all, or a signal.
-/
theorem Moves.parked_other
    {m rest : Machine V}
    {t u : Nat}
    {ph ph' : Phase V}
    {facts : List Fact}
    {a : Attempt V}
    {g : Nat}
    {v : Vigil}
    {wakeAt : Option Instant}
    (hMoves : m.Moves u ph ph' facts rest)
    (hOther : t ≠ u)
    (hParked : m.threads[t]? = some (.parked a g v wakeAt)) :
    (∃ g', ph = .announcing g') ∨
      (rest.setPhase u ph').threads[t]? =
        some (.parked a g v wakeAt) ∨
      ((rest.setPhase u ph').threads[t]? =
          some (.watching a g v) ∧
        ∃ taken r, ph = .rousing taken g r) := by
  have hStays :
      rest.threads = m.threads →
        (rest.setPhase u ph').threads[t]? =
          some (.parked a g v wakeAt) := by
    intro hThreads
    change (rest.threads.set u ph')[t]? = _
    rw [List.getElem?_set_ne hOther.symm, hThreads]
    exact hParked
  cases hMoves with
  | acquire hFree =>
      exact Or.inr (Or.inl (hStays (threads_setHolder _ _ _)))
  | release hHeld =>
      exact Or.inr (Or.inl (hStays (threads_setHolder _ _ _)))
  | write hHeld =>
      exact Or.inr (Or.inl (hStays (threads_setValue _ _ _)))
  | judge =>
      exact Or.inr (Or.inl (hStays (threads_setValue _ _ _)))
  | @announce g' w y hPhase hThere => exact Or.inl ⟨g', rfl⟩
  | @announceNobody g' hNone => exact Or.inl ⟨g', rfl⟩
  | @rouse taken g' r =>
      apply Or.inr
      have hWoken :
          ((m.threads.map (Phase.wake g')).set u
              (.renewing taken g' r))[t]? =
            some
              (Phase.wake g' (.parked a g v wakeAt)) := by
        rw [List.getElem?_set_ne hOther.symm, List.getElem?_map,
          hParked]
        rfl
      by_cases hSame : g = g'
      · subst hSame
        refine Or.inr ⟨?_, taken, r, rfl⟩
        apply hWoken.trans
        simp only [Phase.wake, if_true]
      · refine Or.inl (hWoken.trans ?_)
        simp only [Phase.wake, if_neg hSame]
  | _ => exact Or.inr (Or.inl (hStays rfl))

/- A signal wakes no parked thread but the one it chooses. -/
theorem parked_notify
    {m m' : Machine V}
    {t u : Nat}
    {target : Option Nat}
    {facts : List Fact}
    {a : Attempt V}
    {g : Nat}
    {v : Vigil}
    {wakeAt : Option Instant}
    (hNotify : m.notify u target = some (m', facts))
    (hParked : m.threads[t]? = some (.parked a g v wakeAt)) :
    m'.threads[t]? = some (.parked a g v wakeAt) ∨
      (m'.threads[t]? = some (.watching a g v) ∧
        target = some t) := by
  unfold notify at hNotify
  split at hNotify
  · rename_i g' hPhase
    have hOther : u ≠ t := by
      rintro rfl
      cases hParked.symm.trans hPhase
    split at hNotify
    · split at hNotify
      · cases hNotify
      · cases hNotify
        exact
          Or.inl ((List.getElem?_set_ne hOther).trans hParked)
    · rename_i w
      split at hNotify
      · rename_i ph hThere
        split at hNotify
        · rename_i hAsleep
          cases hNotify
          have hKept :
              (((m.setPhase w (ph.wake g')).setPhase u
                .idle).threads)[t]? =
                (m.threads.set w (ph.wake g'))[t]? :=
            List.getElem?_set_ne hOther
          rw [hKept]
          by_cases hSame : w = t
          · subst hSame
            cases hParked.symm.trans hThere
            have hHere : g = g' := of_decide_eq_true hAsleep
            subst hHere
            rcases List.getElem?_eq_some_iff.mp hParked with
              ⟨hLt, _⟩
            refine Or.inr ⟨?_, rfl⟩
            rw [List.getElem?_set_self hLt]
            simp only [Phase.wake, if_true]
          · apply Or.inl
            rw [List.getElem?_set_ne hSame]
            exact hParked
        · cases hNotify
      · cases hNotify
  · cases hNotify

/-
  A parked thread stays parked, or it wakes up: it is told to,
  or the time until which it has parked has come.
-/
theorem parked_step
    {m m' : Machine V}
    {l : Label V}
    {ns : List Note}
    {t : Nat}
    {a : Attempt V}
    {g : Nat}
    {v : Vigil}
    {wakeAt : Option Instant}
    (hStep : m.step l = some (m', ns))
    (hParked : m.threads[t]? = some (.parked a g v wakeAt)) :
    m'.threads[t]? = some (.parked a g v wakeAt) ∨
      (m'.threads[t]? = some (.watching a g v) ∧
        (m.tells t l = true ∨ ∃ w ∈ wakeAt, w ≤ m.clock)) := by
  by_cases hOwn : l.thread? = some t
  · have hGoes := goes_of_busy hStep hParked (by simp) hOwn
    cases hGoes with
    | advance =>
        rcases eq_of_noted hStep with ⟨facts, hAdvance, _⟩
        simp only [advance, hParked] at hAdvance
        cases hAdvance
    | notify =>
        rcases eq_of_noted hStep with ⟨facts, hNotify, _⟩
        simp only [notify, hParked] at hNotify
        cases hNotify
    | expire =>
        rcases moves_of_goes .expire hStep with
          ⟨ph, ph', facts, rest, hPhase, _, hMoves, rfl, _⟩
        have hAfter := hMoves.phase_self hPhase
        cases hParked.symm.trans hPhase
        cases hMoves with
        | expire hDue =>
            exact Or.inr ⟨hAfter, Or.inr ⟨_, rfl, hDue⟩⟩
  · have hStepsBy := stepsBy_of_step hStep
    generalize hTaker : l.thread? = taker at hOwn hStepsBy
    cases hStepsBy with
    | join =>
        rcases List.getElem?_eq_some_iff.mp hParked with
          ⟨hLt, _⟩
        apply Or.inl
        exact (List.getElem?_append_left hLt).trans hParked
    | tick hLater => exact Or.inl hParked
    | @move u ph ph' facts rest hPhase hMoves =>
        have hOther : t ≠ u := by
          rintro rfl
          exact hOwn rfl
        rcases hMoves.parked_other hOther hParked with
          ⟨g', rfl⟩ | hStays | ⟨hWoken, taken, r, rfl⟩
        · have hGoes :=
            goes_of_busy hStep hPhase (by simp) hTaker
          rcases eq_notify_of_goes hGoes hStep hPhase with
            ⟨target, rfl⟩
          rcases eq_of_noted hStep with ⟨facts', hNotify, _⟩
          rcases parked_notify hNotify hParked with
            hStays | ⟨hWoken, hTarget⟩
          · exact Or.inl hStays
          · exact
              Or.inr
                ⟨hWoken, Or.inl (decide_eq_true hTarget)⟩
        · exact Or.inl hStays
        · have hGoes :=
            goes_of_busy hStep hPhase (by simp) hTaker
          have hAdvance :=
            eq_advance_of_goes hGoes hStep hPhase rfl
          subst hAdvance
          refine Or.inr ⟨hWoken, Or.inl ?_⟩
          simp [tells, hPhase, hParked, Phase.isParkedOn]

/-
  Until it looks again, a parked thread stays parked, or it
  was told to wake up or the time until which it has parked
  has come.
-/
theorem parked_run
    {m m' : Machine V}
    {ls : List (Label V)}
    {ns : List Note}
    {t : Nat}
    {a : Attempt V}
    {g : Nat}
    {v : Vigil}
    {wakeAt : Option Instant}
    (hParked : m.threads[t]? = some (.parked a g v wakeAt))
    (hNoLook : .advance t ∉ ls)
    (hRun : m.run ls = some (m', ns)) :
    m'.threads[t]? = some (.parked a g v wakeAt) ∨
      (m'.threads[t]? = some (.watching a g v) ∧
        (0 < m.tellingsIn t ls ∨
          ∃ w ∈ wakeAt, w ≤ m'.clock)) := by
  induction ls generalizing m ns with
  | nil =>
      cases hRun
      exact Or.inl hParked
  | cons l ls ih =>
      rcases run_cons hRun with
        ⟨m₁, ns₁, ns₂, hStep, hRest, rfl⟩
      have hNotNow : l ≠ .advance t := by
        rintro rfl
        exact hNoLook List.mem_cons_self
      have hNotLater : .advance t ∉ ls := by
        intro hMem
        exact hNoLook (List.mem_cons_of_mem l hMem)
      have hCount :
          m.tellingsIn t (l :: ls) =
            (m.tells t l).toNat + m₁.tellingsIn t ls :=
        countIn_cons hStep _ ls
      rw [hCount]
      rcases parked_step hStep hParked with
        hStays | ⟨hWoken, hCause⟩
      · rcases ih hStays hNotLater hRest with
          hStill | ⟨hUp, hTold | hDue⟩
        · exact Or.inl hStill
        · exact Or.inr ⟨hUp, Or.inl (Nat.add_pos_right _ hTold)⟩
        · exact Or.inr ⟨hUp, Or.inr hDue⟩
      · refine Or.inr ⟨?_, ?_⟩
        · exact watching_run hWoken hNotLater hRest
        · rcases hCause with hTold | ⟨w, hWake, hReached⟩
          · apply Or.inl
            rw [hTold]
            exact Nat.add_pos_left Nat.one_pos _
          · refine Or.inr ⟨w, hWake, ?_⟩
            calc w.nanos
                ≤ m.clock.nanos := hReached
              _ ≤ m'.clock.nanos := clock_le_of_run hRun

end Machine

------------------------------------------------------------
-- Counting Looks
------------------------------------------------------------

namespace Fact

/- Whether a thread has looked at its cohort. -/
def isLook : Fact → Bool
| .parked _ _ => true
| .settled _ _ => true
| _ => false

end Fact

/- How often a thread has looked at a cohort. -/
def looksOf
    (t : Nat)
    (ns : List Note) : Nat :=
  (factsOf t ns).countP Fact.isLook

/- The times that are told are counted fact by fact. -/
theorem length_timesOf
    (t : Nat)
    (q : Fact → Bool)
    (ns : List Note) :
    (timesOf t q ns).length = (factsOf t ns).countP q := by
  unfold timesOf factsOf
  rw [List.length_map, List.countP_map,
    List.countP_eq_length_filter]
  rfl

/-
  Whether a thread that waits has a reason to look: it has
  only just released the lock, or it is awake, or the time
  until which it has parked has come.
-/
def Phase.isReady
    (now : Instant) : Phase V → Bool
| .departed _ _ => true
| .watching _ _ _ => true
| .parked _ _ _ wakeAt => wakeAt.any (· ≤ now)
| _ => false

/- Whether one of the threads has a reason to look. -/
def Machine.isReady
    (m : Machine V)
    (t : Nat) : Bool :=
  m.threads[t]?.any (Phase.isReady m.clock)

namespace Turn

/- A thread that takes a turn of its call does not look. -/
theorem countP_isLook_facts
    (y : Turn V) :
    y.facts.countP Fact.isLook = 0 := by
  cases y <;> rfl

/- Nor is it about to. -/
theorem isReady_phase
    (y : Turn V)
    (side : Side)
    (now : Instant) :
    (y.phase side).isReady now = false := by
  cases y <;> rfl

end Turn

namespace Machine

/-
  A thread that looks has had a reason, and has none left if
  it parks.  It gets one by releasing the lock to wait.
-/
theorem Moves.readies
    {m rest : Machine V}
    {t : Nat}
    {ph ph' : Phase V}
    {facts : List Fact}
    (hMoves : m.Moves t ph ph' facts rest)
    (hPaced : ph.Paced) :
    facts.countP Fact.isLook + (ph'.isReady m.clock).toNat ≤
      (ph.isReady m.clock).toNat +
        facts.countP Fact.isDeparture := by
  cases hMoves with
  | call hHeld =>
      rw [Turn.isReady_phase]
      exact Nat.zero_le _
  | judge =>
      rw [Turn.isReady_phase, List.countP_cons,
        Turn.countP_isLook_facts]
      exact Nat.zero_le _
  | resume hCounted =>
      rw [Turn.isReady_phase, List.countP_cons,
        Turn.countP_isLook_facts]
      exact Nat.zero_le _
  | @park a g v v' wakeAt stalled hLook =>
      have hAhead := (Vigil.Paced.ahead hPaced hLook).1
      have hNotYet : wakeAt.any (· ≤ m.clock) = false := by
        cases wakeAt with
        | none => rfl
        | some w =>
            apply decide_eq_false
            exact Nat.not_le_of_lt (hAhead w rfl).1
      have hOnce :
          ((stalled.map
                (Fact.stalled (m.cohort g).epoch)).toList ++
              [Fact.parked (m.cohort g).epoch wakeAt]).countP
            Fact.isLook = 1 := by
        cases stalled with
        | none => rfl
        | some d => rfl
      rw [hOnce]
      simp only [Phase.isReady, hNotYet, Bool.toNat_true,
        Bool.toNat_false]
      omega
  | @expire a g v w hDue =>
      simp [Phase.isReady, hDue]
  | _ => exact Nat.le_refl _

/- What others do is not told of a thread. -/
theorem factsOf_of_other
    {m m' : Machine V}
    {l : Label V}
    {ns : List Note}
    {t : Nat}
    (hStep : m.step l = some (m', ns))
    (hOther : l.thread? ≠ some t) :
    factsOf t ns = [] := by
  have hStepsBy := stepsBy_of_step hStep
  generalize l.thread? = taker at hOther hStepsBy
  cases hStepsBy with
  | join => rfl
  | tick hLater => rfl
  | @move u ph ph' facts rest hPhase hMoves =>
      apply factsOf_other
      rintro rfl
      exact hOther rfl

/- A thread that has only just arrived is idle. -/
theorem idle_of_new
    {m m' : Machine V}
    {l : Label V}
    {ns : List Note}
    {t : Nat}
    {ph : Phase V}
    (hStep : m.step l = some (m', ns))
    (hNew : m.threads[t]? = none)
    (hThere : m'.threads[t]? = some ph) :
    ph = .idle := by
  have hBeyond := List.getElem?_eq_none_iff.mp hNew
  cases steps_of_step hStep with
  | join =>
      change (m.threads ++ [.idle])[t]? = _ at hThere
      rw [List.getElem?_append_right hBeyond] at hThere
      have hMem := List.mem_of_getElem? hThere
      exact List.mem_singleton.mp hMem
  | tick hLater => cases hNew.symm.trans hThere
  | move hPhase hMoves =>
      rcases List.getElem?_eq_some_iff.mp hThere with ⟨hLt, _⟩
      rw [hMoves.length_threads] at hLt
      exact absurd hLt (Nat.not_lt_of_le hBeyond)

/-
  A parked thread gets a reason to look only by being told to
  wake up or by the clock.
-/
theorem isReady_of_parked
    {m m' : Machine V}
    {l : Label V}
    {ns : List Note}
    {t : Nat}
    {a : Attempt V}
    {g : Nat}
    {v : Vigil}
    {wakeAt : Option Instant}
    (hStep : m.step l = some (m', ns))
    (hParked : m.threads[t]? = some (.parked a g v wakeAt))
    (hReady : m'.isReady t = true) :
    m.isReady t = true ∨ m.tells t l = true ∨
      m.clock.nanos < m'.clock.nanos := by
  have hDueNow :
      (∃ w ∈ wakeAt, w ≤ m.clock) → m.isReady t = true := by
    rintro ⟨w, hWake, hDue⟩
    unfold isReady
    rw [hParked, Option.any_some]
    exact
      (Option.any_eq_true _ _).mpr
        ⟨w, hWake, decide_eq_true hDue⟩
  rcases parked_step hStep hParked with
    hStays | ⟨_, hTold | hPast⟩
  · unfold isReady at hReady
    rw [hStays, Option.any_some] at hReady
    rcases (Option.any_eq_true _ _).mp hReady with
      ⟨w, hWake, hDue⟩
    have hReached : w ≤ m'.clock := of_decide_eq_true hDue
    by_cases hPast : w ≤ m.clock
    · exact Or.inl (hDueNow ⟨w, hWake, hPast⟩)
    · apply Or.inr
      apply Or.inr
      calc m.clock.nanos
          < w.nanos := Nat.lt_of_not_le hPast
        _ ≤ m'.clock.nanos := hReached
  · exact Or.inr (Or.inl hTold)
  · exact Or.inl (hDueNow hPast)

/-
  What others do gives a thread no reason to look, unless they
  tell it to wake up, or the clock goes on.
-/
theorem isReady_of_other
    {m m' : Machine V}
    {l : Label V}
    {ns : List Note}
    {t : Nat}
    (hStep : m.step l = some (m', ns))
    (hOther : l.thread? ≠ some t)
    (hReady : m'.isReady t = true) :
    m.isReady t = true ∨ m.tells t l = true ∨
      m.clock.nanos < m'.clock.nanos := by
  rcases (Option.any_eq_true _ _).mp hReady with
    ⟨ph', hAfter, hReady'⟩
  cases hBefore : m.threads[t]? with
  | none =>
      rw [idle_of_new hStep hBefore hAfter] at hReady'
      cases hReady'
  | some ph =>
      by_cases hParked :
          ∃ a g v wakeAt, ph = .parked a g v wakeAt
      · rcases hParked with ⟨a, g, v, wakeAt, rfl⟩
        exact isReady_of_parked hStep hBefore hReady
      · -- A thread that is not parked has nothing to wait for.
        have hSame :
            ∀ g, (ph.wake g).isReady m'.clock =
              ph.isReady m.clock := by
          intro g
          cases ph with
          | parked a g v wakeAt =>
              exact absurd ⟨a, g, v, wakeAt, rfl⟩ hParked
          | _ => rfl
        have hUnwoken :
            ph.isReady m'.clock = ph.isReady m.clock := by
          cases ph with
          | parked a g v wakeAt =>
              exact absurd ⟨a, g, v, wakeAt, rfl⟩ hParked
          | _ => rfl
        apply Or.inl
        unfold isReady
        rw [hBefore, Option.any_some]
        rcases own_or_other hStep hBefore
            (fun hOwn => absurd hOwn hOther) with
          ⟨hOwn, _⟩ | ⟨_, _, ph₁, hThere, hEither⟩
        · exact absurd hOwn hOther
        · cases hAfter.symm.trans hThere
          rcases hEither with rfl | ⟨g, rfl⟩
          · rw [← hUnwoken]
            exact hReady'
          · rw [← hSame g]
            exact hReady'

/-
  Each look has had a reason, and each reason is that a thread
  has released the lock, or was told to wake up, or that the
  clock has gone on.
-/
theorem looks_le_of_step
    {m m' : Machine V}
    {l : Label V}
    {ns : List Note}
    (hPaced : m.Paced)
    (hStep : m.step l = some (m', ns))
    (t : Nat) :
    looksOf t ns + (m'.isReady t).toNat ≤
      (m.isReady t).toNat + (departuresOf t ns).length +
        ((m.tells t l).toNat +
          (decide
            (m.clock.nanos < m'.clock.nanos)).toNat) := by
  unfold departuresOf
  rw [length_timesOf]
  by_cases hOther : l.thread? ≠ some t
  · have hNothing := factsOf_of_other hStep hOther
    unfold looksOf
    rw [hNothing, List.countP_nil, List.countP_nil]
    cases hReady : m'.isReady t with
    | false =>
        rw [Bool.toNat_false]
        exact Nat.zero_le _
    | true =>
        rcases isReady_of_other hStep hOther hReady with
          hWas | hTold | hLater
        · rw [hWas, Bool.toNat_true]
          omega
        · rw [hTold, Bool.toNat_true]
          omega
        · rw [decide_eq_true hLater, Bool.toNat_true]
          omega
  · have hOwn := Decidable.not_not.mp hOther
    have hStepsBy := stepsBy_of_step hStep
    rw [hOwn] at hStepsBy
    cases hStepsBy with
    | move hPhase hMoves =>
        have hReadies := hMoves.readies (hPaced t _ hPhase)
        have hAfter := hMoves.phase_self hPhase
        have hClock := hMoves.clock
        unfold looksOf isReady
        rw [factsOf_self, hAfter, hPhase, Option.any_some,
          Option.any_some]
        change _ + (Phase.isReady _ _).toNat ≤ _ at hReadies
        simp only [setPhase, hClock]
        omega

/-
  Along a run, a thread looks as often at most as it has had
  reasons.
-/
theorem looks_le_of_run
    {m m' : Machine V}
    {ls : List (Label V)}
    {ns : List Note}
    (hPaced : m.Paced)
    (hRun : m.run ls = some (m', ns))
    (t : Nat) :
    looksOf t ns + (m'.isReady t).toNat ≤
      (m.isReady t).toNat + (departuresOf t ns).length +
        (m.tellingsIn t ls + m.advancesIn ls) := by
  induction ls generalizing m ns with
  | nil =>
      cases hRun
      exact Nat.le_of_eq (Nat.zero_add _)
  | cons l ls ih =>
      rcases run_cons hRun with
        ⟨m₁, ns₁, ns₂, hStep, hRest, rfl⟩
      have hNow := looks_le_of_step hPaced hStep t
      have hLater :=
        ih (hPaced.steps (steps_of_step hStep)) hRest
      have hTellings :
          m.tellingsIn t (l :: ls) =
            (m.tells t l).toNat + m₁.tellingsIn t ls :=
        countIn_cons hStep _ ls
      have hAdvances :
          m.advancesIn (l :: ls) =
            (decide (m.clock.nanos < m₁.clock.nanos)).toNat +
              m₁.advancesIn ls :=
        countIn_cons hStep _ ls
      have hLooks :
          looksOf t (ns₁ ++ ns₂) =
            looksOf t ns₁ + looksOf t ns₂ := by
        unfold looksOf
        rw [factsOf_append, List.countP_append]
      have hDepartures :
          (departuresOf t (ns₁ ++ ns₂)).length =
            (departuresOf t ns₁).length +
              (departuresOf t ns₂).length := by
        unfold departuresOf
        rw [timesOf_append, List.length_append]
      rw [hTellings, hAdvances, hLooks, hDepartures]
      omega

/-
  A thread that looks and parks has done so until a time that
  is ahead, or has nothing to wait for but being told.
-/
theorem ahead_of_advance
    {m m' : Machine V}
    {ns : List Note}
    {t : Nat}
    {a : Attempt V}
    {g : Nat}
    {v : Vigil}
    {wakeAt : Option Instant}
    (hPaced : m.Paced)
    (hStep : m.step (.advance t) = some (m', ns))
    (hParked : m'.threads[t]? = some (.parked a g v wakeAt)) :
    (∀ w ∈ wakeAt,
      m.clock.nanos < w.nanos ∧ ∀ d ∈ v.deadline, w ≤ d) ∧
    (wakeAt = none ↔
      v.deadline = none ∧ v.nextWarning = none) := by
  rcases moves_of_goes .advance hStep with
    ⟨ph, ph', facts, rest, hPhase, _, hMoves, rfl, _⟩
  rw [hMoves.phase_self hPhase] at hParked
  have hAfter := Option.some.inj hParked
  -- A turn of a call does not park its thread.
  have hNoTurn :
      ∀ (y : Turn V) (side : Side),
        y.phase side ≠ .parked a g v wakeAt := by
    intro y side
    cases y <;> exact nofun
  cases hMoves with
  | park hLook =>
      cases hAfter
      have hBefore := hPaced t _ hPhase
      rw [Vigil.deadline_of_park hLook]
      exact Vigil.Paced.ahead hBefore hLook
  | call hHeld => exact absurd hAfter (hNoTurn _ _)
  | judge => exact absurd hAfter (hNoTurn _ _)
  | resume hCounted => exact absurd hAfter (hNoTurn _ _)
  | _ => cases hAfter

------------------------------------------------------------
-- Waiting Without Spinning
------------------------------------------------------------

/-
  Whatever the settings of a condition variable, and wherever
  it has got to.  A wait that a thread begins there, with any
  limit or none, and whatever it finds each time it looks,
  parks until a time that is later than the reading of that
  look and not later than the deadline, and until no time at
  all only if there is no deadline and no warning to come;
  with a stall period of zero, or none, this is so for every
  wait without a limit.  A thread that has parked does not
  look again before it was told to wake up or the clock has
  reached that time, and so has gone on.  And in every run, a
  thread looks no more often than it releases the lock to
  wait, is told to wake up, and the clock goes on, and once
  more if it has had a reason to begin with.
-/
theorem waiters_never_spin
    {s : Settings}
    {value foreign : V}
    {m : Machine V}
    {past : List Note}
    (hReaches : (fresh s value foreign).Reaches past m)
    (t : Nat) :
    (∀ (a : Attempt V) (ss : List Sighting) (n : Nat)
        (v : Vigil) (wakeAt : Option Instant)
        (stalled : Option Duration),
      ((m.start a).keep ss)[n]? =
          some (.park v wakeAt stalled) →
        ∃ x, ss[n]? = some x ∧
          (∀ w ∈ wakeAt,
            x.clock.nanos < w.nanos ∧
              ∀ d ∈ (m.start a).deadline, w ≤ d) ∧
          (wakeAt = none ↔
            (m.start a).deadline = none ∧
              v.nextWarning = none) ∧
          ((∀ d ∈ m.settings.stall, d.IsZero) →
            a.budget = none →
              wakeAt = none ∧ stalled = none)) ∧
    (∀ (m₁ : Machine V) (ns : List Note) (a : Attempt V)
        (g : Nat) (v : Vigil) (wakeAt : Option Instant),
      m.step (.advance t) = some (m₁, ns) →
        m₁.threads[t]? = some (.parked a g v wakeAt) →
          (∀ w ∈ wakeAt,
            m.clock.nanos < w.nanos ∧
              ∀ d ∈ v.deadline, w ≤ d) ∧
          (wakeAt = none ↔
            v.deadline = none ∧ v.nextWarning = none) ∧
          ∀ (ls : List (Label V)) (m₂ : Machine V)
              (ns' : List Note) (ph : Phase V),
            .advance t ∉ ls →
              m₁.run ls = some (m₂, ns') →
                m₂.threads[t]? = some ph →
                  ph = .parked a g v wakeAt ∨
                    (ph = .watching a g v ∧
                      (0 < m₁.tellingsIn t ls ∨
                        ∃ w ∈ wakeAt,
                          m.clock.nanos < w.nanos ∧
                            w ≤ m₂.clock))) ∧
    (∀ (ls : List (Label V)) (m' : Machine V)
        (ns : List Note),
      m.run ls = some (m', ns) →
        looksOf t ns ≤
          (m.isReady t).toNat + (departuresOf t ns).length +
            (m.tellingsIn t ls + m.advancesIn ls)) := by
  have hPaced := hReaches.paced
  refine ⟨?_, ?_, ?_⟩
  · intro a ss n v wakeAt stalled hLook
    rcases (m.paced_start a).park_of_keep hLook with
      ⟨x, v₁, hHere, hPaced₁, hPark, hDeadline, hStall⟩
    rcases hPaced₁.ahead hPark with ⟨hAhead, hNone⟩
    rw [hDeadline] at hAhead hNone
    refine ⟨x, hHere, hAhead, hNone, ?_⟩
    intro hZero hUnlimited
    rcases m.deadline_start hUnlimited with
      ⟨hNoDeadline, hPeriod⟩
    have hNever : v₁.stall = none := by
      rw [hStall, hPeriod]
      exact Settings.stallPeriod?_eq_none hZero
    rcases hPaced₁.silent hPark hNever with
      ⟨hNoWarning, hSilent⟩
    exact ⟨hNone.mpr ⟨hNoDeadline, hNoWarning⟩, hSilent⟩
  · intro m₁ ns a g v wakeAt hStep hParked
    rcases ahead_of_advance hPaced hStep hParked with
      ⟨hAhead, hNone⟩
    refine ⟨hAhead, hNone, ?_⟩
    intro ls m₂ ns' ph hNoLook hRun hThere
    rcases parked_run hParked hNoLook hRun with
      hStays | ⟨hUp, hCause⟩
    · exact Or.inl (Option.some.inj (hThere.symm.trans hStays))
    · refine Or.inr ⟨?_, ?_⟩
      · exact Option.some.inj (hThere.symm.trans hUp)
      · rcases hCause with hTold | ⟨w, hWake, hReached⟩
        · exact Or.inl hTold
        · exact Or.inr ⟨w, hWake, (hAhead w hWake).1, hReached⟩
  · intro ls m' ns hRun
    have hLooks := looks_le_of_run hPaced hRun t
    omega

/-
  A thread waits without a limit, with a stall period of 2 ns.
  It parks, is awake at 3 ns, as the time of its warning has
  come, warns and parks again: two looks, of which it has had
  one because it began to wait, and one because the clock has
  gone on.
-/
theorem waiters_never_spin_one_warning :
    ∃ (p d : Duration) (m₀ m₁ m₂ m₃ : Machine Int)
        (past ns₁ ns₂ ns₃ : List Note) (a : Attempt Int)
        (v : Vigil),
      p.toNanos = 2 ∧ d.toNanos = 3 ∧
      (fresh ⟨"c", some p⟩ 0 0).Reaches past m₀ ∧
      m₀.step (.advance 0) = some (m₁, ns₁) ∧
      m₁.threads[0]? = some (.parked a 0 v (some ⟨2⟩)) ∧
      m₀.clock.nanos < 2 ∧
      m₁.run [.tick d, .expire 0] = some (m₂, ns₂) ∧
      m₂.threads[0]? = some (.watching a 0 v) ∧
      m₁.tellingsIn 0 [.tick d, .expire 0] = 0 ∧
      m₀.run [.advance 0, .tick d, .expire 0, .advance 0] =
        some (m₃, ns₃) ∧
      looksOf 0 ns₃ = 2 ∧
      looksOf 0 ns₃ ≤ 1 + 0 + (0 + 1) := by
  have hRuns :
      ∃ (p d : Duration) (m₀ m₁ m₂ m₃ : Machine Int)
          (past ns₁ ns₂ ns₃ : List Note) (a : Attempt Int)
          (v : Vigil),
        p.toNanos = 2 ∧ d.toNanos = 3 ∧
        (fresh ⟨"c", some p⟩ 0 0).run
            [.join, .acquire 0 .bound, .call 0 .bound .wait,
              .advance 0, .advance 0, .advance 0,
              .advance 0] =
          some (m₀, past) ∧
        m₀.step (.advance 0) = some (m₁, ns₁) ∧
        m₁.threads[0]? = some (.parked a 0 v (some ⟨2⟩)) ∧
        m₁.run [.tick d, .expire 0] = some (m₂, ns₂) ∧
        m₂.threads[0]? = some (.watching a 0 v) ∧
        m₁.tellingsIn 0 [.tick d, .expire 0] = 0 ∧
        m₀.run [.advance 0, .tick d, .expire 0, .advance 0] =
          some (m₃, ns₃) ∧
        looksOf 0 ns₃ = 2 ∧
        (m₀.isReady 0).toNat + (departuresOf 0 ns₃).length +
            (m₀.tellingsIn 0
                [.advance 0, .tick d, .expire 0, .advance 0] +
              m₀.advancesIn
                [.advance 0, .tick d, .expire 0, .advance 0]) =
          1 + 0 + (0 + 1) := by
    refine
      ⟨⟨0, 2, by decide, by decide⟩,
        ⟨0, 3, by decide, by decide⟩, ?_⟩
    exact
      ⟨_, _, _, _, _, _, _, _, _, _, rfl, rfl, rfl, rfl, rfl,
        rfl, rfl, rfl, rfl, rfl, rfl⟩
  rcases hRuns with
    ⟨p, d, m₀, m₁, m₂, m₃, past, ns₁, ns₂, ns₃, a, v, hPeriod,
      hTick, hFirst, hStep, hParked, hRun, hWatching, hUntold,
      hAll, hTwo, hReasons⟩
  have hReaches := Reaches.of_run .refl hFirst
  rcases waiters_never_spin hReaches 0 with
    ⟨_, hParks, hCount⟩
  rcases hParks m₁ ns₁ a 0 v (some ⟨2⟩) hStep hParked with
    ⟨hAhead, _, hNext⟩
  have hBound := hCount _ m₃ ns₃ hAll
  rw [hReasons] at hBound
  exact
    ⟨p, d, m₀, m₁, m₂, m₃, _, ns₁, ns₂, ns₃, a, v, hPeriod,
      hTick, hReaches, hStep, hParked, (hAhead ⟨2⟩ rfl).1, hRun,
      hWatching, hUntold, hAll, hTwo, hBound⟩

end Machine

end CondVar
