import CondVar.Observation
import CondVar.Proofs.FirstLook
import CondVar.Proofs.Following

/-
  Settings make no difference to what clients can observe.

  The settings say when a waiter is to warn of a stall.  For
  that it wakes up early, looks, and parks again.  But also
  without settings a waiter may take its time before it
  looks.  So a machine whose waiters never park, and look
  only when there is something to end their wait, shows
  whatever the machine shows, under any settings.

  Main declarations:
    * `Machine.wakeful`
    * `Machine.wakeful_of_step`
    * `Program.Shows.of_run`
    * `Program.Shows.wakeful`
-/

namespace CondVar

variable {V : Type}

------------------------------------------------------------
-- Waiters That Never Park
------------------------------------------------------------

/- The same wait with another stall period. -/
def Vigil.under
    (v : Vigil)
    (stall : Option Duration) : Vigil :=
  .start v.deadline stall v.started

/- The stall period of an attempt: limited ones have none. -/
def Attempt.period
    (a : Attempt V)
    (s : Settings) : Option Duration :=
  match a.budget with
  | none => s.stallPeriod?
  | some _ => none

/- A waiter under other settings that has yet to look. -/
def Phase.wakeful
    (s : Settings)
    (ph : Phase V) : Phase V :=
  match ph with
  | .watching a g v => .watching a g (v.under (a.period s))
  | .parked a g v _ => .watching a g (v.under (a.period s))
  | .settled a g v o => .settled a g (v.under (a.period s)) o
  | _ => ph

/- A machine under other settings where nobody has parked. -/
def Machine.wakeful
    (s : Settings)
    (m : Machine V) : Machine V :=
  { m with
    settings := s
    threads := m.threads.map (Phase.wakeful s) }

/- What a look settles it settles with any stall period. -/
theorem Vigil.look_under
    {v : Vigil}
    {s : Sighting}
    {o : Outcome}
    (hSettle : v.look s = .settle o)
    (stall : Option Duration) :
    (v.under stall).look s = .settle o := by
  rw [look_eq_settle_iff] at hSettle ⊢
  exact hSettle

/- A waiter that parks has still the wait it began with. -/
theorem Vigil.under_of_park
    {v v' : Vigil}
    {s : Sighting}
    {wakeAt : Option Instant}
    {stalled : Option Duration}
    (hPark : v.look s = .park v' wakeAt stalled)
    (stall : Option Duration) :
    v'.under stall = v.under stall := by
  unfold look at hPark
  split at hPark
  · cases hPark
  · split at hPark
    · cases hPark
    · split at hPark
      · cases hPark
      · split at hPark
        · cases hPark
          rfl
        · cases hPark
          rfl

/-
  Labels that are alike: the same, or both of a signal that
  tells a waiter of its permit, or nobody.
-/
def Label.Alike
    (l l' : Label V) : Prop :=
  l' = l ∨
    ∃ t target, l = .notify t target ∧ l' = .notify t none

/- Labels that are alike ask for the same. -/
theorem Label.Alike.request?_eq
    {l l' : Label V}
    (hAlike : l.Alike l') :
    l'.request? = l.request? := by
  rcases hAlike with rfl | ⟨t, target, rfl, rfl⟩
  · rfl
  · rfl

namespace Phase

/- A waiter that can go on by itself can if it never parks. -/
theorem acts_wakeful
    {ph : Phase V}
    (hActs : ph.acts = true)
    (s : Settings) :
    (ph.wakeful s).acts = true := by
  cases ph <;> first | rfl | cases hActs

/- The phase in which a turn is taken is no vigil. -/
theorem wakeful_turn
    (s : Settings)
    (side : Side)
    (next : Turn V) :
    (next.phase side).wakeful s = next.phase side := by
  cases next <;> rfl

/- Waking a waiter that never parks does nothing. -/
theorem wakeful_wake
    (s : Settings)
    (g : Nat)
    (ph : Phase V) :
    (ph.wake g).wakeful s = ph.wakeful s :=
  ph.apply_wake (wakeful s) (fun _ _ _ _ => rfl) g

/- A waiter that never parks does not wake up. -/
theorem wake_wakeful
    (s : Settings)
    (g : Nat)
    (ph : Phase V) :
    (ph.wakeful s).wake g = ph.wakeful s := by
  cases ph <;> rfl

/- A waiter that never parks is not parked. -/
theorem not_isParkedOn_wakeful
    (s : Settings)
    (g : Nat)
    (ph : Phase V) :
    (ph.wakeful s).isParkedOn g = false := by
  cases ph <;> rfl

end Phase

namespace Machine

/- A thread's phase where nobody has parked. -/
theorem phase_wakeful
    {m : Machine V}
    {t : Nat}
    {ph : Phase V}
    (s : Settings)
    (hPhase : m.threads[t]? = some ph) :
    (m.wakeful s).threads[t]? = some (ph.wakeful s) := by
  change (m.threads.map (Phase.wakeful s))[t]? = _
  rw [List.getElem?_map, hPhase]
  rfl

/- Moving a thread goes with the settings. -/
theorem wakeful_setPhase
    (s : Settings)
    (m : Machine V)
    (t : Nat)
    (ph : Phase V) :
    (m.setPhase t ph).wakeful s =
      (m.wakeful s).setPhase t (ph.wakeful s) := by
  unfold setPhase wakeful
  rw [List.map_set]

/- Setting a value goes with the settings. -/
theorem wakeful_setValue
    (s : Settings)
    (m : Machine V)
    (side : Side)
    (v : V) :
    (m.setValue side v).wakeful s =
      (m.wakeful s).setValue side v := by
  cases side <;> rfl

/- Passing a lock on goes with the settings. -/
theorem wakeful_setHolder
    (s : Settings)
    (m : Machine V)
    (side : Side)
    (holder : Option Nat) :
    (m.setHolder side holder).wakeful s =
      (m.wakeful s).setHolder side holder := by
  cases side <;> rfl

/- The locks are the same under other settings. -/
theorem lock_wakeful
    (s : Settings)
    (m : Machine V)
    (side : Side) :
    (m.wakeful s).lock side = m.lock side := by
  cases side <;> rfl

/- Who holds a lock is the same under other settings. -/
theorem holds_wakeful
    (s : Settings)
    (m : Machine V)
    (t : Nat)
    (side : Side) :
    (m.wakeful s).holds t side = m.holds t side := by
  cases side <;> rfl

/- A vigil begins with the stall period of its settings. -/
theorem start_wakeful
    (s : Settings)
    (m : Machine V)
    (a : Attempt V) :
    (m.wakeful s).start a = (m.start a).under (a.period s) := by
  unfold start Attempt.period
  cases a.budget <;> rfl

/- Where nobody has parked, nobody is parked. -/
theorem hasParked_wakeful
    (s : Settings)
    (m : Machine V)
    (g : Nat) :
    (m.wakeful s).hasParked g = false := by
  unfold hasParked
  rw [List.any_eq_false]
  intro ph hMem
  rcases List.mem_map.mp hMem with ⟨ph₀, _, rfl⟩
  rw [Phase.not_isParkedOn_wakeful]
  exact Bool.false_ne_true

/- Waking one waiter does nothing where nobody has parked. -/
theorem wakeful_setPhase_wake
    {m : Machine V}
    {w : Nat}
    {ph : Phase V}
    (s : Settings)
    (g : Nat)
    (hPhase : m.threads[w]? = some ph) :
    (m.setPhase w (ph.wake g)).wakeful s = m.wakeful s := by
  rw [wakeful_setPhase, Phase.wakeful_wake]
  exact setPhase_of_phase (phase_wakeful s hPhase)

/- Waking all waiters does nothing where nobody has parked. -/
theorem map_wake_wakeful
    (s : Settings)
    (m : Machine V)
    (g : Nat) :
    { m.wakeful s with
        threads :=
          (m.wakeful s).threads.map (Phase.wake g) } =
      Machine.wakeful s
        { m with threads := m.threads.map (Phase.wake g) } := by
  have hThreads :
      (m.wakeful s).threads.map (Phase.wake g) =
        (m.threads.map (Phase.wake g)).map
          (Phase.wakeful s) := by
    change (m.threads.map (Phase.wakeful s)).map _ = _
    rw [List.map_map, List.map_map]
    apply List.map_congr_left
    intro ph _
    exact
      (Phase.wake_wakeful s g ph).trans
        (Phase.wakeful_wake s g ph).symm
  rw [hThreads]
  rfl

------------------------------------------------------------
-- Steps Without Parking
------------------------------------------------------------

/- A thread that acts on its own does so where nobody parks. -/
theorem step_advance_wakeful
    {m rest : Machine V}
    {t : Nat}
    {ph ph' : Phase V}
    {facts : List Fact}
    {s : Settings}
    (hPhase : m.threads[t]? = some ph)
    (hMoves :
      (m.wakeful s).Moves t (ph.wakeful s) (ph'.wakeful s)
        facts (rest.wakeful s))
    (hActs : (ph.wakeful s).acts = true) :
    (m.wakeful s).step (.advance t) =
      some
        ((rest.setPhase t ph').wakeful s,
          facts.map (Note.mk t m.clock)) := by
  rw [wakeful_setPhase]
  exact step_advance (phase_wakeful s hPhase) hMoves hActs

/-
  A thread goes on with its call.  Where nobody has parked it
  does the same, unless it parks or wakes up.  Of that nothing
  is seen, and where nobody has parked it is no step at all.
-/
theorem wakeful_of_goes
    {m m' : Machine V}
    {t : Nat}
    {l : Label V}
    {ns : List Note}
    (s : Settings)
    (hGoes : Goes t l)
    (hStep : m.step l = some (m', ns)) :
    (m.Silent m' l ns ∧ m'.wakeful s = m.wakeful s) ∨
      ∃ l', l.Alike l' ∧
        (m.wakeful s).step l' = some (m'.wakeful s, ns) := by
  have hRequest : l.request? = none := by
    cases hGoes <;> rfl
  have hAdvance :
      ∀ {ph : Phase V}, m.threads[t]? = some ph →
        ph.acts = true → l = .advance t :=
    fun hPhase hActs =>
      eq_advance_of_goes hGoes hStep hPhase hActs
  have hNotify :
      ∀ {g : Nat}, m.threads[t]? = some (.announcing g) →
        ∃ target, l = .notify t target :=
    fun hPhase => eq_notify_of_goes hGoes hStep hPhase
  rcases moves_of_goes hGoes hStep with
    ⟨ph, ph', facts, rest, hPhase, hBusy, hMoves, rfl, rfl⟩
  have hThere := phase_wakeful s hPhase
  have hActs :
      (m.wakeful s).Moves t (ph.wakeful s) (ph'.wakeful s)
        facts (rest.wakeful s) →
      ph.acts = true →
      (m.Silent (rest.setPhase t ph') l
          (facts.map (Note.mk t m.clock)) ∧
        (rest.setPhase t ph').wakeful s = m.wakeful s) ∨
      ∃ l', l.Alike l' ∧
        (m.wakeful s).step l' =
          some
            ((rest.setPhase t ph').wakeful s,
              facts.map (Note.mk t m.clock)) :=
    fun hMoves' hActs =>
      Or.inr
        ⟨.advance t, Or.inl (hAdvance hPhase hActs).symm,
          step_advance_wakeful hPhase hMoves'
            (Phase.acts_wakeful hActs s)⟩
  cases hMoves with
  | acquire hFree => exact absurd rfl hBusy
  | release hHeld => exact absurd rfl hBusy
  | write hHeld => exact absurd rfl hBusy
  | call hHeld => exact absurd rfl hBusy
  | signal => exact absurd rfl hBusy
  | interrupt => exact absurd rfl hBusy
  | interruptHeld hHeld => exact absurd rfl hBusy
  | interruptForeign hHeld => exact absurd rfl hBusy
  | @judge side a =>
      refine hActs ?_ rfl
      rw [Phase.wakeful_turn, wakeful_setValue,
        ← lock_wakeful s]
      exact .judge
  | enterForeign => exact hActs .enterForeign rfl
  | enroll => exact hActs .enroll rfl
  | count hCounted => exact hActs (.count hCounted) rfl
  | refuse hRefused => exact hActs (.refuse hRefused) rfl
  | withdraw => exact hActs .withdraw rfl
  | depart => exact hActs .depart rfl
  | @watch a g =>
      refine hActs ?_ rfl
      rw [Phase.wakeful, ← start_wakeful]
      exact .watch
  | settle hLook =>
      exact hActs (.settle (Vigil.look_under hLook _)) rfl
  | @park a g v v' wakeAt stalled hLook =>
      refine Or.inl ⟨⟨hRequest, ?_, rfl⟩, ?_⟩
      · cases stalled <;> rfl
      · rw [wakeful_setPhase, Phase.wakeful,
          Vigil.under_of_park hLook]
        exact setPhase_of_phase hThere
  | expire hDue =>
      refine Or.inl ⟨⟨hRequest, rfl, rfl⟩, ?_⟩
      rw [wakeful_setPhase]
      exact setPhase_of_phase hThere
  | measure => exact hActs .measure rfl
  | regain hFree => exact hActs (.regain hFree) rfl
  | resume hCounted =>
      refine hActs ?_ rfl
      rw [Phase.wakeful_turn]
      exact .resume hCounted
  | underflow hRefused =>
      exact hActs (.underflow hRefused) rfl
  | drop hDropped => exact hActs (.drop hDropped) rfl
  | post hOpen hLacks => exact hActs (.post hOpen hLacks) rfl
  | announce hTarget hParked =>
      rcases hNotify hPhase with ⟨target, hLabel⟩
      refine
        Or.inr
          ⟨.notify t none,
            Or.inr ⟨t, target, hLabel, rfl⟩, ?_⟩
      rw [wakeful_setPhase, wakeful_setPhase_wake s _ hTarget]
      exact step_notify_none hThere (hasParked_wakeful s m _)
  | announceNobody hNone =>
      rcases hNotify hPhase with ⟨target, hLabel⟩
      refine
        Or.inr
          ⟨.notify t none,
            Or.inr ⟨t, target, hLabel, rfl⟩, ?_⟩
      rw [wakeful_setPhase]
      exact step_notify_none hThere (hasParked_wakeful s m _)
  | takeLock hFree => exact hActs (.takeLock hFree) rfl
  | close hOpen => exact hActs (.close hOpen) rfl
  | closeAgain hClosed => exact hActs (.closeAgain hClosed) rfl
  | rouse =>
      refine hActs ?_ rfl
      rw [← map_wake_wakeful]
      exact .rouse
  | renew => exact hActs .renew rfl
  | renewTaken => exact hActs .renewTaken rfl

/-
  Where nobody has parked, a step is the same step, unless a
  waiter parks or wakes up.
-/
theorem wakeful_of_step
    {m m' : Machine V}
    {l : Label V}
    {ns : List Note}
    (s : Settings)
    (hStep : m.step l = some (m', ns)) :
    (m.Silent m' l ns ∧ m'.wakeful s = m.wakeful s) ∨
      ∃ l', l.Alike l' ∧
        (m.wakeful s).step l' = some (m'.wakeful s, ns) := by
  have hIdleAt :
      ∀ {t : Nat}, m.threads[t]? = some .idle →
        (m.wakeful s).threads[t]? = some .idle :=
    fun hIdle => phase_wakeful s hIdle
  have hHeldAt :
      ∀ {t : Nat} {side : Side}, m.holds t side = true →
        (m.wakeful s).holds t side = true :=
    fun hHeld => (holds_wakeful s m _ _).trans hHeld
  cases l with
  | join =>
      cases hStep
      refine Or.inr ⟨.join, Or.inl rfl, ?_⟩
      simp only [step, wakeful, List.map_append,
        List.map_cons, List.map_nil, Phase.wakeful]
  | tick d =>
      rcases Option.map_eq_some_iff.mp hStep with
        ⟨now, hLater, hNow⟩
      cases hNow
      exact
        Or.inr
          ⟨.tick d, Or.inl rfl,
            Option.map_eq_some_iff.mpr ⟨now, hLater, rfl⟩⟩
  | acquire t side =>
      rcases acquire_of_step hStep with
        ⟨hIdle, hFree, rfl, rfl⟩
      refine Or.inr ⟨.acquire t side, Or.inl rfl, ?_⟩
      rw [wakeful_setHolder]
      apply step_acquire (hIdleAt hIdle)
      rw [lock_wakeful]
      exact hFree
  | release t side =>
      rcases release_of_step hStep with
        ⟨hIdle, hHeld, rfl, rfl⟩
      refine Or.inr ⟨.release t side, Or.inl rfl, ?_⟩
      rw [wakeful_setHolder]
      exact step_release (hIdleAt hIdle) (hHeldAt hHeld)
  | write t side v =>
      rcases write_of_step hStep with ⟨hIdle, hHeld, rfl, rfl⟩
      refine Or.inr ⟨.write t side v, Or.inl rfl, ?_⟩
      rw [wakeful_setValue]
      exact step_write (hIdleAt hIdle) (hHeldAt hHeld)
  | call t side c =>
      rcases call_of_step hStep with ⟨hIdle, hHeld, rfl, rfl⟩
      refine Or.inr ⟨.call t side c, Or.inl rfl, ?_⟩
      rw [wakeful_setPhase, Phase.wakeful_turn]
      exact step_call (hIdleAt hIdle) (hHeldAt hHeld)
  | signal t =>
      rcases signal_of_step hStep with ⟨hIdle, rfl, rfl⟩
      refine Or.inr ⟨.signal t, Or.inl rfl, ?_⟩
      rw [wakeful_setPhase]
      exact step_signal (hIdleAt hIdle)
  | interrupt t =>
      rcases interrupt_of_step hStep with ⟨hIdle, rfl, rfl⟩
      refine Or.inr ⟨.interrupt t, Or.inl rfl, ?_⟩
      rw [wakeful_setPhase]
      exact step_interrupt (hIdleAt hIdle)
  | interruptHeld t side =>
      refine Or.inr ⟨.interruptHeld t side, Or.inl rfl, ?_⟩
      cases side with
      | bound =>
          rcases interruptHeld_of_step hStep with
            ⟨hIdle, hHeld, rfl, rfl⟩
          rw [wakeful_setPhase]
          exact
            step_interruptHeld (hIdleAt hIdle) (hHeldAt hHeld)
      | foreign =>
          rcases interruptForeign_of_step hStep with
            ⟨hIdle, hHeld, rfl, rfl⟩
          exact
            step_interruptForeign (hIdleAt hIdle)
              (hHeldAt hHeld)
  | advance t => exact wakeful_of_goes s .advance hStep
  | notify t target => exact wakeful_of_goes s .notify hStep
  | expire t => exact wakeful_of_goes s .expire hStep

end Machine

------------------------------------------------------------
-- Histories of Runs
------------------------------------------------------------

/-
  A run in which everything asked for is allowed shows all
  that is asked for and all that is told, in order.
-/
theorem Program.Shows.of_run
    {p : Program V}
    {m m' m'' : Machine V}
    {h : List (Moment V)}
    {ls : List (Label V)}
    {ns : List Note}
    (hAllowed : ∀ h r, p h r)
    (hShows : p.Shows m h m')
    (hRun : m'.run ls = some (m'', ns)) :
    ∃ h',
      p.Shows m (h ++ h') m'' ∧
        h'.filterMap Moment.request =
          ls.filterMap Label.request? ∧
        h'.flatMap Moment.told = ns.filter Note.isTold := by
  induction ls generalizing m' h ns with
  | nil =>
      cases hRun
      refine ⟨[], ?_, rfl, rfl⟩
      rw [List.append_nil]
      exact hShows
  | cons l ls ih =>
      rcases Machine.run_cons hRun with
        ⟨m₁, ns₁, ns₂, hStep, hTail, rfl⟩
      by_cases hSilent : m'.Silent m₁ l ns₁
      · rcases ih (.silent hShows hStep hSilent) hTail with
          ⟨h', hShown, hRequests, hTold⟩
        refine ⟨h', hShown, ?_, ?_⟩
        · rw [hRequests, List.filterMap_cons_none hSilent.1]
        · rw [hTold, List.filter_append, hSilent.2.1]
          rfl
      · have hSeen :=
          Program.Shows.seen hShows hStep hSilent
            (fun r _ => hAllowed h r)
        rcases ih hSeen hTail with
          ⟨h', hShown, hRequests, hTold⟩
        refine ⟨m₁.moment l ns₁ :: h', ?_, ?_, ?_⟩
        · rw [List.append_cons]
          exact hShown
        · rw [List.filterMap_cons, List.filterMap_cons,
            hRequests]
          rfl
        · rw [List.flatMap_cons, hTold, List.filter_append]
          rfl

------------------------------------------------------------
-- Histories Without Parking
------------------------------------------------------------

/-
  Whatever a program can bring a machine to show it can bring
  it to show under other settings, without anybody parking.
-/
theorem Program.Shows.wakeful
    {p : Program V}
    {m m' : Machine V}
    {h : List (Moment V)}
    (s : Settings)
    (hShows : p.Shows m h m') :
    p.Shows (m.wakeful s) h (m'.wakeful s) := by
  induction hShows with
  | start => exact .start
  | @silent m' m'' h l ns _ hStep hSilent ih =>
      rcases Machine.wakeful_of_step s hStep with
        ⟨_, hSame⟩ | ⟨l', hAlike, hStep'⟩
      · rw [hSame]
        exact ih
      · refine .silent ih hStep' ⟨?_, hSilent.2⟩
        rw [hAlike.request?_eq]
        exact hSilent.1
  | @seen m' m'' h l ns _ hStep hSeen hAllowed ih =>
      rcases Machine.wakeful_of_step s hStep with
        ⟨hSilent, _⟩ | ⟨l', hAlike, hStep'⟩
      · exact absurd hSilent hSeen
      · have hMoment :
            (m''.wakeful s).moment l' ns = m''.moment l ns := by
          unfold Machine.moment
          rw [hAlike.request?_eq]
          rfl
        rw [← hMoment]
        refine .seen ih hStep' ?_ ?_
        · rintro ⟨hInner, hQuiet⟩
          rw [hAlike.request?_eq] at hInner
          exact hSeen ⟨hInner, hQuiet⟩
        · rw [hAlike.request?_eq]
          exact hAllowed

/- Every history is possible under any other settings. -/
theorem Program.histories_subset
    (p : Program V)
    (s s' : Settings)
    (value foreign : V) :
    p.histories s value foreign ⊆
      p.histories s' value foreign := by
  rintro h ⟨m, hShows⟩
  exact ⟨m.wakeful s', hShows.wakeful s'⟩

end CondVar
