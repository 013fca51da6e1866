import CondVar.Proofs.MachineMoves
import CondVar.Session

/-
  A stage is played by steps of its machine.

  Whatever a conductor does, and however the other threads go
  on from there, each change of the stage's machine is a step
  that its threads can take, and what is noted on the page are
  the notes of these steps.  So the log of a stage is that of
  a history of the machine.

  Main declarations:
    * `Stage.Plays`
    * `Stage.plays_settle`
    * `Stage.plays_act`
    * `Machine.Reaches.settings_eq`
    * `Session.exists_history`
-/

namespace CondVar

namespace Stage

------------------------------------------------------------
-- Playing
------------------------------------------------------------

/-
  A stage gets to another by steps of its machine, and what
  these tell is noted before what is on the page already.
-/
def Plays (s s' : Stage) : Prop :=
  ∃ ns,
    s.machine.Reaches ns s'.machine ∧
      s'.notes = ns.reverse ++ s.notes

/- A stage on which nothing happens stays as it is. -/
theorem Plays.refl
    (s : Stage) :
    s.Plays s :=
  ⟨[], .refl, rfl⟩

/- What happens after each other happens together. -/
theorem Plays.trans
    {s s' s'' : Stage}
    (hFirst : s.Plays s')
    (hNext : s'.Plays s'') :
    s.Plays s'' := by
  rcases hFirst with ⟨ns, hReaches, hNotes⟩
  rcases hNext with ⟨ns', hOn, hMore⟩
  refine ⟨ns ++ ns', hReaches.trans hOn, ?_⟩
  rw [hMore, hNotes, List.reverse_append, List.append_assoc]

/- To follow a label is a step, or nothing. -/
theorem plays_follow
    (s : Stage)
    (l : Label Int) :
    s.Plays (s.follow l) := by
  unfold follow
  split
  · exact .refl s
  · rename_i m ns hStep
    exact ⟨ns, .step .refl hStep, rfl⟩

/- To do one thing after the other is to play. -/
theorem Plays.follow
    {s s' : Stage}
    (hPlays : s.Plays s')
    (l : Label Int) :
    s.Plays (s'.follow l) :=
  hPlays.trans (s'.plays_follow l)

------------------------------------------------------------
-- The Schedule
------------------------------------------------------------

/- A thread that goes on as far as it can plays. -/
theorem plays_drive
    (t : Nat)
    (n : Nat)
    (s : Stage) :
    s.Plays (drive t n s) := by
  induction n generalizing s with
  | zero => exact .refl s
  | succ n ih =>
      unfold drive
      split
      · exact .refl s
      · rename_i l hNext
        exact ((s.plays_follow l).follow _).trans (ih _)

/- Threads that go on until none can play. -/
theorem plays_settleWithin
    (n : Nat)
    (s : Stage) :
    s.Plays (settleWithin n s) := by
  induction n generalizing s with
  | zero => exact .refl s
  | succ n ih =>
      unfold settleWithin
      split
      · exact .refl s
      · rename_i l hNext
        exact ((s.plays_follow l).follow _).trans (ih _)

/- So a stage that settles plays. -/
theorem plays_settle
    (s : Stage) :
    s.Plays s.settle :=
  s.plays_settleWithin s.effort

/- Several things that play, one after the other, play. -/
theorem plays_foldl
    {α : Type}
    {f : Stage → α → Stage}
    (hPlays : ∀ (s : Stage) (x : α), s.Plays (f s x))
    (s : Stage)
    (xs : List α) :
    s.Plays (xs.foldl f s) := by
  induction xs generalizing s with
  | nil => exact .refl s
  | cons x xs ih => exact (hPlays s x).trans (ih (f s x))

/- The same, done several times. -/
theorem plays_times
    {act : Stage → Stage}
    (hPlays : ∀ s : Stage, s.Plays (act s))
    (n : Nat)
    (s : Stage) :
    s.Plays (times act n s) := by
  induction n generalizing s with
  | zero => exact .refl s
  | succ n ih => exact (hPlays s).trans (ih (act s))

/- To let the time come for which a thread waits is to play. -/
theorem plays_expire
    (s : Stage)
    (t : Nat) :
    s.Plays (s.expire t) := by
  unfold expire
  split
  · exact .refl s
  · rename_i wakeAt hWake
    apply Plays.trans ?_ (plays_settle _)
    apply Plays.trans (s.plays_follow (.tick _))
    exact plays_foldl (fun s t => s.plays_follow (.expire t)) _ _

------------------------------------------------------------
-- Acting
------------------------------------------------------------

/- A signal is played. -/
theorem plays_signalBy
    (t : Nat)
    (s : Stage) :
    s.Plays (signalBy t s) :=
  (s.plays_follow _).trans (plays_drive t 8 _)

/- So is an interrupt. -/
theorem plays_interruptBy
    (t : Nat)
    (s : Stage) :
    s.Plays (interruptBy t s) :=
  (s.plays_follow _).trans (plays_drive t 8 _)

/- So is an interrupt with the lock held. -/
theorem plays_interruptLocked
    (s : Stage) :
    s.Plays s.interruptLocked :=
  (s.plays_follow _).trans (plays_drive conductor 8 _)

/- What is played is played with the lock held, too. -/
theorem plays_locked
    {act : Stage → Stage}
    (hPlays : ∀ s : Stage, s.Plays (act s))
    (s : Stage) :
    s.Plays (locked act s) :=
  ((s.plays_follow _).trans (hPlays _)).follow _

/- What is played by a newcomer is played. -/
theorem plays_gust
    {act : Nat → Stage → Stage}
    (hPlays : ∀ (t : Nat) (s : Stage), s.Plays (act t s))
    (n : Nat)
    (s : Stage) :
    s.Plays (gust act n s) :=
  (s.plays_follow _).trans (plays_times (hPlays _) n _)

/- A waiter that comes and begins its call plays. -/
theorem plays_start
    (c : Call Int)
    (s : Stage) :
    s.Plays (start c s) := by
  have hSettled :
      s.Plays
        (((s.join.follow (.acquire s.newcomer .bound)).follow
          (.call s.newcomer .bound c)).settle) := by
    apply Plays.trans ?_ (plays_settle _)
    exact ((s.plays_follow .join).follow _).follow _
  unfold start
  split
  · exact hSettled.trans (plays_expire _ _)
  · exact hSettled

/- A call that the conductor makes itself is played. -/
theorem plays_conduct
    (side : Side)
    (l : Label Int)
    (s : Stage) :
    s.Plays (conduct side l s) := by
  unfold conduct
  apply Plays.trans ?_ (plays_settle _)
  apply Plays.follow
  apply Plays.trans ?_ (plays_expire _ _)
  apply Plays.trans ?_ (plays_settle _)
  exact (s.plays_follow _).follow l

/- A warning that is waited for is played. -/
theorem plays_stall
    (s : Stage) :
    s.Plays s.stall := by
  unfold stall
  split
  · exact .refl s
  · rename_i t hFirst
    exact s.plays_expire t

/- An item that is put up is played. -/
theorem plays_produce
    (s : Stage) :
    s.Plays s.produce := by
  apply Plays.trans ?_ (plays_settle _)
  apply plays_locked
  intro s
  exact (s.plays_follow _).trans (plays_signalBy _ _)

/- Items that are handed over are played. -/
theorem plays_handOver
    (items : Nat)
    (takers : Nat)
    (s : Stage) :
    s.Plays (handOver items takers s) := by
  -- Who is a taker, and when to stop, is no part of the play.
  have hTakers :
      ∀ {s s' : Stage} {ids : List Nat} {stopping : Bool},
        s.Plays s' →
          s.Plays
            { s' with takers := ids, stopping := stopping } := by
    intro s s' ids stopping hPlays
    exact hPlays
  unfold handOver
  apply hTakers
  apply Plays.trans ?_ (plays_settle _)
  apply Plays.trans ?_ (plays_locked plays_interruptLocked _)
  apply hTakers
  apply Plays.trans ?_ (plays_times plays_produce items _)
  apply Plays.trans ?_ (plays_settle _)
  apply hTakers
  exact plays_times (fun s => s.plays_follow .join) takers s

/- Whatever a conductor does is played. -/
theorem plays_act
    (s : Stage)
    (mv : Move) :
    s.Plays (s.act mv).1 := by
  cases mv with
  | start c n => exact plays_times (plays_start c) n s
  | signal =>
      exact (plays_signalBy _ s).trans (plays_settle _)
  | burst n =>
      apply Plays.trans ?_ (plays_settle _)
      apply plays_locked
      apply plays_times
      intro s
      exact (plays_signalBy _ s).trans (plays_settle _)
  | setSignal v =>
      apply Plays.trans ?_ (plays_settle _)
      apply plays_locked
      intro s
      exact (s.plays_follow _).trans (plays_signalBy _ _)
  | interrupt =>
      exact (plays_interruptBy _ s).trans (plays_settle _)
  | interruptHeld v =>
      cases v with
      | none =>
          apply Plays.trans ?_ (plays_settle _)
          exact plays_locked plays_interruptLocked s
      | some v =>
          apply Plays.trans ?_ (plays_settle _)
          apply plays_locked
          intro s
          exact s.plays_interruptLocked.follow _
  | signalStorm k n =>
      apply Plays.trans ?_ (plays_settle _)
      exact plays_times (plays_gust plays_signalBy n) k s
  | interruptStorm k n =>
      apply Plays.trans ?_ (plays_settle _)
      exact plays_times (plays_gust plays_interruptBy n) k s
  | set v =>
      apply Plays.trans ?_ (plays_settle _)
      exact plays_locked (fun s => s.plays_follow _) s
  | «show» => exact .refl s
  | showSettings => exact .refl s
  | call side c => exact plays_conduct side _ s
  | callInterrupt side => exact plays_conduct side _ s
  | awaitStalls n => exact plays_times plays_stall n s
  | handoff items takers => exact plays_handOver items takers s

end Stage

------------------------------------------------------------
-- Settings
------------------------------------------------------------

namespace Machine

variable {V : Type}

/- No move changes the settings. -/
theorem Moves.settings_eq
    {m rest : Machine V}
    {t : Nat}
    {ph ph' : Phase V}
    {facts : List Fact}
    (hMoves : m.Moves t ph ph' facts rest) :
    rest.settings = m.settings := by
  cases hMoves with
  | @acquire side => cases side <;> rfl
  | @release side => cases side <;> rfl
  | @write side => cases side <;> rfl
  | @judge side => cases side <;> rfl
  | _ => rfl

/- A condition variable keeps its settings. -/
theorem Reaches.settings_eq
    {m m' : Machine V}
    {ns : List Note}
    (hReaches : m.Reaches ns m') :
    m'.settings = m.settings := by
  apply hReaches.invariant
    (P := fun _ m' => m'.settings = m.settings) rfl
  intro m₁ m₂ past ns hSame hSteps
  cases hSteps with
  | join => exact hSame
  | tick hLater => exact hSame
  | move hPhase hMoves => exact hMoves.settings_eq.trans hSame

end Machine

------------------------------------------------------------
-- Sessions
------------------------------------------------------------

namespace Session

/- The log of a process is that of a history of its machine. -/
theorem exists_history
    (s : Stage)
    (deeds : List Deed) :
    ∃ ns m,
      s.machine.Reaches ns m ∧
        events s deeds =
          chronicle s.machine.settings.label ns := by
  induction deeds generalizing s with
  | nil => exact ⟨[], s.machine, .refl, rfl⟩
  | cons d ds ih =>
      rcases s.turnPage.plays_act d.move with
        ⟨ns, hReaches, hNotes⟩
      rcases ih (s.turnPage.act d.move).1 with
        ⟨ns', m, hOn, hEvents⟩
      have hHistory :
          (s.turnPage.act d.move).1.history = ns := by
        unfold Stage.history
        rw [hNotes]
        change (ns.reverse ++ []).reverse = ns
        rw [List.append_nil, List.reverse_reverse]
      have hLabel :
          (s.turnPage.act d.move).1.machine.settings =
            s.machine.settings :=
        hReaches.settings_eq
      refine ⟨ns ++ ns', m, hReaches.trans hOn, ?_⟩
      change
        chronicle s.machine.settings.label
            (s.turnPage.act d.move).1.history ++
          events (s.turnPage.act d.move).1 ds = _
      rw [hEvents, hHistory, hLabel]
      exact List.filterMap_append.symm

end Session

end CondVar
