import CondVar.Proofs.Ledger

/-
  How many threads wait, and what the tally makes of it.

  A thread is a waiter from its registration on until it is
  counted out.  While fewer threads wait than the tally can
  count, no entry is refused, no registration is taken back,
  and the tally is the number of threads that it has counted
  in and not yet out.

  Main declarations:
    * `Machine.waiters`
    * `Machine.Uncrowded`
    * `Machine.ReachesUncrowded`
    * `Machine.ReachesUncrowded.of_threads`
    * `Machine.Tallied`
    * `Machine.Tallied.steps`
-/

namespace CondVar

------------------------------------------------------------
-- Waiters
------------------------------------------------------------

namespace Standing

/- Whether a thread has registered and is not counted out. -/
def isWaiter : Standing → Bool
| .door _ => true
| .enrolled _ => true
| .waiting _ => true
| .ended _ _ => true
| .regained _ _ => true
| _ => false

/- Whether a thread is counted in and not yet out. -/
def isCounted : Standing → Bool
| .enrolled _ => true
| .waiting _ => true
| .ended _ _ => true
| .regained _ _ => true
| _ => false

/- Only waiters are counted. -/
theorem isWaiter_of_isCounted
    {s : Standing}
    (hCounted : s.isCounted = true) :
    s.isWaiter = true := by
  cases s <;> first | rfl | cases hCounted

/- Only waiters are registered. -/
theorem isWaiter_of_isRegistered
    {s : Standing}
    {g : Nat}
    (hRegistered : s.isRegistered g = true) :
    s.isWaiter = true := by
  cases s <;> first | rfl | cases hRegistered

/- A thread without a cohort does not wait. -/
theorem isWaiter_of_isFree
    {s : Standing}
    (hFree : s.isFree = true) :
    s.isWaiter = false := by
  cases s <;> first | rfl | cases hFree

/- A thread without a cohort is not counted. -/
theorem isCounted_of_isFree
    {s : Standing}
    (hFree : s.isFree = true) :
    s.isCounted = false := by
  cases s <;> first | rfl | cases hFree

/- A thread is counted for the wait that it is in. -/
theorem isCounted_eq
    (s : Standing) :
    s.isCounted = s.wait?.isSome := by
  cases s <;> rfl

end Standing

namespace Machine

variable {V : Type}

/- The number of waiters. -/
def waiters (m : Machine V) : Nat :=
  m.standings.countP Standing.isWaiter

/- There are fewer than 2^64 waiters. -/
def Uncrowded (m : Machine V) : Prop :=
  m.waiters < 18_446_744_073_709_551_616

/-
  A machine reaches another by steps, and is not crowded at
  any time on the way.
-/
inductive ReachesUncrowded (m : Machine V) :
    List Note → Machine V → Prop where
| refl
    (hRoom : m.Uncrowded) :
    ReachesUncrowded m [] m
| step {m' m'' : Machine V} {ns ns' : List Note}
    {l : Label V}
    (hReaches : ReachesUncrowded m ns m')
    (hStep : m'.step l = some (m'', ns'))
    (hRoom : m''.Uncrowded) :
    ReachesUncrowded m (ns ++ ns') m''

/- What is reached without crowding is reached. -/
theorem ReachesUncrowded.reaches
    {m m' : Machine V}
    {ns : List Note}
    (hReaches : m.ReachesUncrowded ns m') :
    m.Reaches ns m' := by
  induction hReaches with
  | refl hRoom => exact .refl
  | step _ hStep hRoom ih => exact .step ih hStep

/-
  What holds before every step and after it, if the machine
  is not crowded, holds wherever it gets without crowding.
-/
theorem ReachesUncrowded.invariant
    {P : List Note → Machine V → Prop}
    {m m' : Machine V}
    {ns : List Note}
    (hReaches : m.ReachesUncrowded ns m')
    (hStart : P [] m)
    (hSteps :
      ∀ {m₁ m₂ : Machine V} {past ns : List Note},
        m₁.Uncrowded → P past m₁ → m₁.Steps m₂ ns →
          P (past ++ ns) m₂) :
    P ns m' := by
  have hKept : m'.Uncrowded ∧ P ns m' := by
    induction hReaches with
    | refl hRoom => exact ⟨hRoom, hStart⟩
    | step _ hStep hRoom ih =>
        exact
          ⟨hRoom, hSteps ih.1 ih.2 (steps_of_step hStep)⟩
  exact hKept.2

/- No step makes a thread vanish. -/
theorem Steps.length_threads_le
    {m m' : Machine V}
    {ns : List Note}
    (hSteps : m.Steps m' ns) :
    m.threads.length ≤ m'.threads.length := by
  cases hSteps with
  | join =>
      change m.threads.length ≤ (m.threads ++ [Phase.idle]).length
      rw [List.length_append]
      exact Nat.le_add_right _ _
  | tick hLater => exact Nat.le_refl _
  | move hPhase hMoves =>
      exact Nat.le_of_eq hMoves.length_threads.symm

/-
  As long as there are fewer than 2^64 threads, a machine is
  never crowded.
-/
theorem ReachesUncrowded.of_threads
    {m m' : Machine V}
    {ns : List Note}
    (hReaches : m.Reaches ns m')
    (hFew :
      m'.threads.length < 18_446_744_073_709_551_616) :
    m.ReachesUncrowded ns m' := by
  have hWaiters :
      ∀ {m : Machine V}, m.waiters ≤ m.threads.length := by
    intro m
    have hLe :=
      List.countP_le_length (p := Standing.isWaiter)
        (l := m.standings)
    rw [standings, List.length_map] at hLe
    exact hLe
  induction hReaches with
  | refl => exact .refl (Nat.lt_of_le_of_lt hWaiters hFew)
  | step _ hStep ih =>
      have hLe := (steps_of_step hStep).length_threads_le
      exact
        .step (ih (Nat.lt_of_le_of_lt hLe hFew)) hStep
          (Nat.lt_of_le_of_lt hWaiters hFew)

end Machine

------------------------------------------------------------
-- Refusals
------------------------------------------------------------

/- Whether a fact tells that the tally has refused a call. -/
def Fact.isMiscount : Fact → Bool
| .finished (.misused .underflow) => true
| .finished (.misused (.overflow _)) => true
| _ => false

/- Whether the tally has refused a thread that registered. -/
def Phase.isRefused
    {V : Type} : Phase V → Bool
| .withdrawing _ _ => true
| _ => false

namespace Turn

variable {V : Type}

/- A turn of a call is nothing that the tally has refused. -/
theorem isRefused_phase
    (side : Side)
    (next : Turn V) :
    (next.phase side).isRefused = false := by
  cases next <;> rfl

/- A call that goes on or ends by itself was not refused. -/
theorem isMiscount_facts_judge
    (a : Attempt V)
    (v : V) :
    ∀ f ∈ (a.judge v).1.facts, f.isMiscount = false := by
  intro f hMem
  unfold Attempt.judge at hMem
  split at hMem
  · cases hMem
  · split at hMem
    · rw [List.mem_singleton.mp hMem]
      rfl
    · rw [List.mem_singleton.mp hMem]
      rfl
    · split at hMem
      · rw [List.mem_singleton.mp hMem]
        rfl
      · cases hMem

/- A call that has blocked and goes on was not refused. -/
theorem isMiscount_facts_resume
    (a : Attempt V)
    (o : Outcome)
    (left : Option Duration) :
    ∀ f ∈ (a.resume o left).facts, f.isMiscount = false := by
  intro f hMem
  unfold Attempt.resume at hMem
  split at hMem
  · split at hMem
    · rw [List.mem_singleton.mp hMem]
      rfl
    · rw [List.mem_singleton.mp hMem]
      rfl
  · split at hMem
    · rw [List.mem_singleton.mp hMem]
      rfl
    · cases hMem

end Turn

------------------------------------------------------------
-- The Tally
------------------------------------------------------------

namespace Machine

variable {V : Type}

/-
  `counted`: the tally is the number of threads counted in
  and not out.  `admitted`: it has refused none.
-/
structure Tallied (m : Machine V) : Prop where
  counted :
    m.tally.count.toNat =
      m.standings.countP Standing.isCounted
  admitted : ∀ ph ∈ m.threads, ph.isRefused = false

/- Nobody is counted in a fresh machine. -/
theorem tallied_fresh
    (s : Settings)
    (value : V)
    (foreign : V) :
    (fresh s value foreign).Tallied where
  counted := rfl
  admitted := fun _ hMem => nomatch hMem

/- A thread that has registered is not counted yet. -/
theorem countP_isCounted_lt_waiters
    {m : Machine V}
    {t g : Nat}
    (hDoor : m.standings[t]? = some (.door g)) :
    m.standings.countP Standing.isCounted < m.waiters := by
  -- Counting it in adds one to those counted, and it is a
  -- waiter before and after.
  have hCounted :=
    countP_set_add Standing.isCounted (.enrolled g) hDoor
  have hWaiters :=
    countP_set_add Standing.isWaiter (.enrolled g) hDoor
  have hLe :=
    List.countP_mono_left
      (l := m.standings.set t (.enrolled g))
      (p := Standing.isCounted) (q := Standing.isWaiter)
      (fun s _ => Standing.isWaiter_of_isCounted)
  simp only [Standing.isCounted, Standing.isWaiter,
    Bool.toNat_true, Bool.toNat_false] at hCounted hWaiters
  unfold waiters
  omega

/- The tally counts each thread that is counted. -/
theorem Tallied.count_pos
    {m : Machine V}
    {t : Nat}
    {s : Standing}
    (hTallied : m.Tallied)
    (hStanding : m.standings[t]? = some s)
    (hCounted : s.isCounted = true) :
    0 < m.tally.count.toNat := by
  rw [hTallied.counted]
  exact
    List.countP_pos_iff.mpr
      ⟨s, List.mem_of_getElem? hStanding, hCounted⟩

/-
  In a machine that is not crowded, a move is refused by the
  tally neither on entry nor on exit, and the tally moves
  with the standing of the thread.
-/
theorem Tallied.moves
    {m rest : Machine V}
    {t : Nat}
    {ph ph' : Phase V}
    {facts : List Fact}
    (hTallied : m.Tallied)
    (hRoom : m.Uncrowded)
    (hPhase : m.threads[t]? = some ph)
    (hMoves : m.Moves t ph ph' facts rest) :
    rest.tally.count.toNat + ph.standing.isCounted.toNat =
        m.tally.count.toNat + ph'.standing.isCounted.toNat ∧
      ph'.isRefused = false ∧
      ∀ f ∈ facts, f.isMiscount = false := by
  have hStanding := standings_of_phase hPhase
  have hFree :
      ∀ (side : Side) (next : Turn V),
        (next.phase side).standing.isCounted = false :=
    fun side next =>
      Standing.isCounted_of_isFree (Turn.isFree_phase side next)
  cases hMoves with
  | @acquire side hFree => cases side <;> exact ⟨rfl, rfl, nofun⟩
  | @release side hHeld => cases side <;> exact ⟨rfl, rfl, nofun⟩
  | @write side v hHeld =>
      cases side <;>
        exact ⟨rfl, rfl, by simp [Fact.isMiscount]⟩
  | @call side c hHeld =>
      rw [hFree]
      exact ⟨rfl, Turn.isRefused_phase _ _, nofun⟩
  | @judge side a =>
      rw [hFree]
      refine ⟨?_, Turn.isRefused_phase _ _, ?_⟩
      · cases side <;> rfl
      · intro f hMem
        rcases List.mem_cons.mp hMem with rfl | hTurn
        · rfl
        · exact Turn.isMiscount_facts_judge _ _ f hTurn
  | @count a g hCounted =>
      refine ⟨?_, rfl, by simp [Fact.isMiscount]⟩
      have hLt := countP_isCounted_lt_waiters hStanding
      rw [← hTallied.counted] at hLt
      change m.tally.add.1.count.toNat + 0 = _ + 1
      rw [Tally.toNat_count_add, Nat.add_zero]
      exact Nat.mod_eq_of_lt (Nat.lt_of_le_of_lt hLt hRoom)
  | @refuse a g misuse hRefused =>
      have hFull := Tally.toNat_count_of_add_refused hRefused
      have hLt := countP_isCounted_lt_waiters hStanding
      rw [← hTallied.counted] at hLt
      unfold Uncrowded at hRoom
      omega
  | withdraw =>
      have hNot :=
        hTallied.admitted _ (List.mem_of_getElem? hPhase)
      cases hNot
  | @park a g v v' wakeAt stalled hLook =>
      refine ⟨rfl, rfl, ?_⟩
      cases stalled <;> simp [Fact.isMiscount]
  | @resume a g o left hCounted =>
      rw [hFree]
      have hPos := hTallied.count_pos hStanding rfl
      refine ⟨?_, Turn.isRefused_phase _ _, ?_⟩
      · exact Tally.toNat_count_remove hPos
      · intro f hMem
        rcases List.mem_cons.mp hMem with rfl | hTurn
        · rfl
        · exact Turn.isMiscount_facts_resume _ _ _ f hTurn
  | @underflow a g o left misuse hRefused =>
      have hZero := Tally.toNat_count_of_remove_refused hRefused
      have hPos := hTallied.count_pos hStanding rfl
      omega
  | _ => exact ⟨rfl, rfl, by simp [Fact.isMiscount]⟩

/- Waking a thread does not make it one that was refused. -/
theorem isRefused_wake
    (g : Nat)
    (ph : Phase V) :
    (ph.wake g).isRefused = ph.isRefused :=
  ph.apply_wake Phase.isRefused (fun _ _ _ _ => rfl) g

/- A step of a machine that is not crowded keeps the tally. -/
theorem Tallied.steps
    {m m' : Machine V}
    {ns : List Note}
    (hTallied : m.Tallied)
    (hRoom : m.Uncrowded)
    (hSteps : m.Steps m' ns) :
    m'.Tallied := by
  cases hSteps with
  | join =>
      constructor
      · rw [standings_join, List.countP_append]
        exact hTallied.counted
      · intro ph hMem
        rcases List.mem_append.mp hMem with hOld | hNew
        · exact hTallied.admitted ph hOld
        · rw [List.mem_singleton.mp hNew]
          rfl
  | tick hLater => exact ⟨hTallied.counted, hTallied.admitted⟩
  | @move t ph ph' facts rest hPhase hMoves =>
      rcases hTallied.moves hRoom hPhase hMoves with
        ⟨hTally, hRefused, _⟩
      constructor
      · have hCount :=
          hMoves.countP_standings hPhase Standing.isCounted
        have hBefore := hTallied.counted
        change rest.tally.count.toNat = _
        omega
      · intro x hMem
        rcases List.getElem?_of_mem hMem with ⟨u, hThere⟩
        by_cases hMine : u = t
        · subst hMine
          rw [hMoves.phase_self hPhase] at hThere
          cases hThere
          exact hRefused
        · rcases hMoves.phase_other hMine hThere with
            ⟨y, hOld, rfl | ⟨g, rfl⟩⟩
          · exact
              hTallied.admitted _ (List.mem_of_getElem? hOld)
          · rw [isRefused_wake]
            exact
              hTallied.admitted _ (List.mem_of_getElem? hOld)

/- Without crowding, the tally is right all the time. -/
theorem ReachesUncrowded.tallied
    {m : Machine V}
    {s : Settings}
    {value foreign : V}
    {ns : List Note}
    (hReaches :
      (fresh s value foreign).ReachesUncrowded ns m) :
    m.Tallied :=
  hReaches.invariant
    (P := fun _ m => m.Tallied)
    (tallied_fresh s value foreign)
    (fun hRoom hBefore hSteps => hBefore.steps hRoom hSteps)

/- Without crowding, the tally refuses no call. -/
theorem ReachesUncrowded.no_miscount
    {m : Machine V}
    {s : Settings}
    {value foreign : V}
    {ns : List Note}
    (hReaches :
      (fresh s value foreign).ReachesUncrowded ns m) :
    ∀ n ∈ ns, n.fact.isMiscount = false := by
  have hKept :
      m.Tallied ∧ ∀ n ∈ ns, n.fact.isMiscount = false := by
    refine
      hReaches.invariant
        (P := fun ns m =>
          m.Tallied ∧ ∀ n ∈ ns, n.fact.isMiscount = false)
        ⟨tallied_fresh s value foreign, nofun⟩ ?_
    intro m₁ m₂ past ns' hRoom hBefore hSteps
    refine ⟨hBefore.1.steps hRoom hSteps, ?_⟩
    intro n hMem
    rcases List.mem_append.mp hMem with hOld | hNew
    · exact hBefore.2 n hOld
    · cases hSteps with
      | join => cases hNew
      | tick hLater => cases hNew
      | move hPhase hMoves =>
          rcases List.mem_map.mp hNew with ⟨f, hFact, rfl⟩
          exact
            (hBefore.1.moves hRoom hPhase hMoves).2.2 f hFact
  exact hKept.2

end Machine

end CondVar
