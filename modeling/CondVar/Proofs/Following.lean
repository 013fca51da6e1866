import CondVar.Proofs.MachineMoves

/-
  Moves that are listed can be made.

  A step says which move is made.  The other way round, an
  idle thread makes a client's move by following the client's
  label, and a thread that goes on by itself, or that finds
  nobody to tell of a permit, makes its move by going on.

  Main declarations:
    * `Phase.acts`
    * `Machine.step_advance`
    * `Machine.eq_advance_of_goes`
    * `Machine.step_notify_none`
-/

namespace CondVar

/-
  Whether a thread can go on by itself: it is neither idle
  nor parked, and has nobody to tell of a permit.
-/
def Phase.acts
    {V : Type} : Phase V → Bool
| .idle => false
| .parked _ _ _ _ => false
| .announcing _ => false
| _ => true

namespace Machine

variable {V : Type}

------------------------------------------------------------
-- Calls in Progress
------------------------------------------------------------

/- A thread that can go on by itself advances by its move. -/
theorem advance_of_moves
    {m rest : Machine V}
    {t : Nat}
    {ph ph' : Phase V}
    {facts : List Fact}
    (hPhase : m.threads[t]? = some ph)
    (hMoves : m.Moves t ph ph' facts rest)
    (hActs : ph.acts = true) :
    m.advance t = some (rest.setPhase t ph', facts) := by
  simp only [advance, hPhase]
  cases hMoves with
  | judge => simp only [judge, turn_eq]
  | count hCounted =>
      simp only [count]
      split
      · rename_i tally hAdd
        simp only [hAdd]
      · rename_i tally misuse hAdd
        simp only [hAdd] at hCounted
        cases hCounted
  | @refuse a g misuse hRefused =>
      simp only [count]
      split
      · rename_i tally hAdd
        simp only [hAdd] at hRefused
        cases hRefused
      · rename_i tally misuse' hAdd
        simp only [hAdd] at hRefused ⊢
        cases hRefused
        rfl
  | settle hLook => simp only [look, hLook]
  | park hLook => simp only [look, hLook]
  | regain hFree => simp only [regain, hFree, if_true]
  | resume hCounted =>
      simp only [resume]
      split
      · rename_i tally hRemove
        simp only [turn_eq, hRemove]
      · rename_i tally misuse hRemove
        simp only [hRemove] at hCounted
        cases hCounted
  | @underflow a g o left misuse hRefused =>
      simp only [resume]
      split
      · rename_i tally hRemove
        simp only [hRemove] at hRefused
        cases hRefused
      · rename_i tally misuse' hRemove
        simp only [hRemove] at hRefused ⊢
        cases hRefused
        rfl
  | drop hDropped =>
      simp only [post, Cohort.post, if_pos hDropped]
  | @post g hOpen hLacks =>
      have hNot :
          ¬ ((m.cohort g).closed = true ∨
            (m.cohort g).registered ≤
              (m.cohort g).permits) := by
        rw [hOpen]
        simpa using hLacks
      simp only [Machine.post, Cohort.post, if_neg hNot]
  | takeLock hFree => simp only [takeLock, hFree, if_true]
  | close hOpen =>
      simp only [Machine.close, Cohort.close, hOpen]
      rfl
  | closeAgain hClosed =>
      simp only [Machine.close, hClosed, if_true]
  | _ => first | rfl | cases hActs

/- A thread that can go on by itself takes its step. -/
theorem step_advance
    {m rest : Machine V}
    {t : Nat}
    {ph ph' : Phase V}
    {facts : List Fact}
    (hPhase : m.threads[t]? = some ph)
    (hMoves : m.Moves t ph ph' facts rest)
    (hActs : ph.acts = true) :
    m.step (.advance t) =
      some
        (rest.setPhase t ph',
          facts.map (Note.mk t m.clock)) := by
  have hAdvance := advance_of_moves hPhase hMoves hActs
  simp only [step, hAdvance, noted]

/- A thread that can go on by itself goes on so. -/
theorem eq_advance_of_goes
    {m m' : Machine V}
    {t : Nat}
    {l : Label V}
    {ns : List Note}
    {ph : Phase V}
    (hGoes : Goes t l)
    (hStep : m.step l = some (m', ns))
    (hPhase : m.threads[t]? = some ph)
    (hActs : ph.acts = true) :
    l = .advance t := by
  cases hGoes with
  | advance => rfl
  | notify =>
      rcases eq_of_noted hStep with ⟨facts, hNotify, _⟩
      unfold notify at hNotify
      rw [hPhase] at hNotify
      cases ph with
      | announcing g => cases hActs
      | _ => cases hNotify
  | expire =>
      rcases eq_of_noted hStep with ⟨facts, hExpire, _⟩
      unfold expire at hExpire
      rw [hPhase] at hExpire
      cases ph with
      | parked a g v wakeAt => cases hActs
      | _ => cases hExpire

/- A thread that is to tell of a permit goes on by that. -/
theorem eq_notify_of_goes
    {m m' : Machine V}
    {t g : Nat}
    {l : Label V}
    {ns : List Note}
    (hGoes : Goes t l)
    (hStep : m.step l = some (m', ns))
    (hPhase : m.threads[t]? = some (.announcing g)) :
    ∃ target, l = .notify t target := by
  cases hGoes with
  | advance =>
      rcases eq_of_noted hStep with ⟨facts, hAdvance, _⟩
      unfold advance at hAdvance
      rw [hPhase] at hAdvance
      cases hAdvance
  | @notify target => exact ⟨target, rfl⟩
  | expire =>
      rcases eq_of_noted hStep with ⟨facts, hExpire, _⟩
      unfold expire at hExpire
      rw [hPhase] at hExpire
      cases hExpire

/- A signal that finds nobody parked tells nobody. -/
theorem step_notify_none
    {m : Machine V}
    {t g : Nat}
    (hPhase : m.threads[t]? = some (.announcing g))
    (hNone : m.hasParked g = false) :
    m.step (.notify t none) =
      some
        (m.setPhase t .idle,
          [⟨t, m.clock, .signaled (.woken 1)⟩]) := by
  simp only [step, notify, hPhase, hNone, noted]
  rfl

------------------------------------------------------------
-- Clients
------------------------------------------------------------

/- A thread in the idle phase is idle. -/
theorem isIdle_of_phase
    {m : Machine V}
    {t : Nat}
    (hPhase : m.threads[t]? = some .idle) :
    m.isIdle t = true := by
  simp only [isIdle, hPhase]

/- An idle thread can take a lock that is free. -/
theorem step_acquire
    {m : Machine V}
    {t : Nat}
    {side : Side}
    (hIdle : m.threads[t]? = some .idle)
    (hFree : (m.lock side).holder = none) :
    m.step (.acquire t side) =
      some (m.setHolder side (some t), []) := by
  have hCan := And.intro (isIdle_of_phase hIdle) hFree
  simp only [step, acquire, if_pos hCan, noted]
  rfl

/- An idle thread can release a lock that it holds. -/
theorem step_release
    {m : Machine V}
    {t : Nat}
    {side : Side}
    (hIdle : m.threads[t]? = some .idle)
    (hHeld : m.holds t side = true) :
    m.step (.release t side) =
      some (m.setHolder side none, []) := by
  have hCan := And.intro (isIdle_of_phase hIdle) hHeld
  simp only [step, release, if_pos hCan, noted]
  rfl

/- An idle thread can set the value behind a lock it holds. -/
theorem step_write
    {m : Machine V}
    {t : Nat}
    {side : Side}
    {v : V}
    (hIdle : m.threads[t]? = some .idle)
    (hHeld : m.holds t side = true) :
    m.step (.write t side v) =
      some
        (m.setValue side v,
          [Fact.wrote].map (Note.mk t m.clock)) := by
  have hCan := And.intro (isIdle_of_phase hIdle) hHeld
  simp only [step, write, if_pos hCan, noted]

/- An idle thread can begin a wait with a lock it holds. -/
theorem step_call
    {m : Machine V}
    {t : Nat}
    {side : Side}
    {c : Call V}
    (hIdle : m.threads[t]? = some .idle)
    (hHeld : m.holds t side = true) :
    m.step (.call t side c) =
      some (m.setPhase t (c.begin.phase side), []) := by
  have hCan := And.intro (isIdle_of_phase hIdle) hHeld
  simp only [step, call, if_pos hCan, turn_eq, facts_begin,
    noted]
  rfl

/- An idle thread can signal. -/
theorem step_signal
    {m : Machine V}
    {t : Nat}
    (hIdle : m.threads[t]? = some .idle) :
    m.step (.signal t) =
      some (m.setPhase t (.signaling m.current), []) := by
  have hCan := isIdle_of_phase hIdle
  simp only [step, signal, if_pos hCan, noted]
  rfl

/- An idle thread can interrupt without a lock. -/
theorem step_interrupt
    {m : Machine V}
    {t : Nat}
    (hIdle : m.threads[t]? = some .idle) :
    m.step (.interrupt t) =
      some (m.setPhase t .locking, []) := by
  have hCan := isIdle_of_phase hIdle
  simp only [step, interrupt, if_pos hCan, noted]
  rfl

/- An idle thread can interrupt with the bound lock held. -/
theorem step_interruptHeld
    {m : Machine V}
    {t : Nat}
    (hIdle : m.threads[t]? = some .idle)
    (hHeld : m.holds t .bound = true) :
    m.step (.interruptHeld t .bound) =
      some (m.setPhase t (.closing false), []) := by
  have hCan := And.intro (isIdle_of_phase hIdle) hHeld
  simp only [step, interruptHeld, if_pos hCan, noted]
  rfl

/- An interrupt with the other lock held is refused. -/
theorem step_interruptForeign
    {m : Machine V}
    {t : Nat}
    (hIdle : m.threads[t]? = some .idle)
    (hHeld : m.holds t .foreign = true) :
    m.step (.interruptHeld t .foreign) =
      some
        (m,
          [Fact.finished (.misused .foreignLock)].map
            (Note.mk t m.clock)) := by
  have hCan := And.intro (isIdle_of_phase hIdle) hHeld
  simp only [step, interruptHeld, if_pos hCan, noted]

end Machine

end CondVar
