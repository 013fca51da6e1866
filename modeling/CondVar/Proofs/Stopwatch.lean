import CondVar.Proofs.Pursuit

/-
  What a call with a limit measures of its waiting.

  Each time that the call blocks, its thread reads the clock
  after it has released the lock, and again before it wants
  the lock back.  What it has left of its limit is what it has
  not measured in this way.  The time that it takes to get the
  lock back, and to evaluate the condition before it blocks
  again, is on no account.

  Main declarations:
    * `Phase.isMeasured`
    * `Machine.timeIn`
    * `Phase.Spared`
    * `Phase.Spanned`
    * `Machine.total_within_limit_iff`
    * `Machine.not_total_within_limit`
-/

namespace CondVar

variable {V : Type}

------------------------------------------------------------
-- Measured Time
------------------------------------------------------------

namespace Phase

/- When a thread began the wait that it is measuring. -/
def began? : Phase V → Option Instant
| .watching _ _ v => some v.started
| .parked _ _ v _ => some v.started
| .settled _ _ v _ => some v.started
| _ => none

/- Whether a thread measures the time that passes. -/
def isMeasured (ph : Phase V) : Bool :=
  ph.began?.isSome

/- How long it has measured the wait that it is in. -/
def running
    (now : Instant)
    (ph : Phase V) : Nat :=
  match ph.began? with
  | none => 0
  | some started => now.nanos - started.nanos

/- Whether a thread has released the lock to wait. -/
def isOut : Phase V → Bool
| .departed _ _ => true
| .watching _ _ _ => true
| .parked _ _ _ _ => true
| .settled _ _ _ _ => true
| .returning _ _ _ _ => true
| _ => false

/- What its call has left, before or after blocking. -/
def left? : Phase V → Option (Option Duration)
| .judging _ a => some a.budget
| .entering _ a => some a.budget
| .ticketed a _ => some a.budget
| .enrolled a _ => some a.budget
| .departed a _ => some a.budget
| .watching a _ _ => some a.budget
| .parked a _ _ _ => some a.budget
| .settled a _ _ _ => some a.budget
| .returning _ _ _ left => some left
| .regained _ _ _ left => some left
| _ => none

end Phase

/-
  The time, in nanoseconds, that passes in a run while a
  thread is in phases of some kind.
-/
def Machine.timeIn
    (m : Machine V)
    (t : Nat)
    (q : Phase V → Bool) : List (Label V) → Nat
| [] => 0
| l :: ls =>
    match m.step l with
    | none => 0
    | some (m', _) =>
        (if m.threads[t]?.any q then
            m'.clock.nanos - m.clock.nanos
          else
            0) +
          timeIn m' t q ls

/- The time of a run is that of its first step and the rest. -/
theorem Machine.timeIn_cons
    {m m' : Machine V}
    {l : Label V}
    {ns : List Note}
    (hStep : m.step l = some (m', ns))
    (t : Nat)
    (q : Phase V → Bool)
    (ls : List (Label V)) :
    m.timeIn t q (l :: ls) =
      (if m.threads[t]?.any q then
          m'.clock.nanos - m.clock.nanos
        else
          0) +
        m'.timeIn t q ls := by
  simp only [timeIn, hStep]

/- A step that takes no time adds none. -/
theorem Machine.timeIn_cons_of_clock
    {m m' : Machine V}
    {l : Label V}
    {ns : List Note}
    (hStep : m.step l = some (m', ns))
    (hSame : m'.clock = m.clock)
    (t : Nat)
    (q : Phase V → Bool)
    (ls : List (Label V)) :
    m.timeIn t q (l :: ls) = m'.timeIn t q ls := by
  rw [timeIn_cons hStep, hSame, Nat.sub_self, ite_self,
    Nat.zero_add]

------------------------------------------------------------
-- When It Was
------------------------------------------------------------

namespace Fact

/- Whether a thread has released the lock to wait. -/
def isDeparture : Fact → Bool
| .departed _ => true
| _ => false

/- Whether a thread has the lock back. -/
def isReturn : Fact → Bool
| .regained _ _ => true
| _ => false

end Fact

/- When a history tells such facts of a thread. -/
def timesOf
    (t : Nat)
    (q : Fact → Bool)
    (ns : List Note) : List Instant :=
  ((ns.filter (·.thread = t)).filter (fun n => q n.fact)).map
    Note.time

/- When a thread has released the lock to wait. -/
def departuresOf
    (t : Nat)
    (ns : List Note) : List Instant :=
  timesOf t Fact.isDeparture ns

/- When it has had the lock back. -/
def returnsOf
    (t : Nat)
    (ns : List Note) : List Instant :=
  timesOf t Fact.isReturn ns

/- The times that two histories tell come one after the other. -/
theorem timesOf_append
    (t : Nat)
    (q : Fact → Bool)
    (ns ns' : List Note) :
    timesOf t q (ns ++ ns') =
      timesOf t q ns ++ timesOf t q ns' := by
  unfold timesOf
  rw [List.filter_append, List.filter_append, List.map_append]

/- What is told of one step has the time of that step. -/
theorem timesOf_self
    (t : Nat)
    (q : Fact → Bool)
    (time : Instant)
    (facts : List Fact) :
    timesOf t q (facts.map (Note.mk t time)) =
      (facts.filter q).map (fun _ => time) := by
  simp [timesOf, List.filter_map, Function.comp_def]

/- Where nothing is told of a thread, no times are. -/
theorem timesOf_eq_nil
    {t : Nat}
    {ns : List Note}
    (hFacts : factsOf t ns = [])
    (q : Fact → Bool) :
    timesOf t q ns = [] := by
  have hNone : ns.filter (·.thread = t) = [] :=
    List.map_eq_nil_iff.mp hFacts
  rw [timesOf, hNone]
  rfl

------------------------------------------------------------
-- What Is Left of the Limit
------------------------------------------------------------

/- The clock counts the time between two readings exactly. -/
theorem Instant.toNanos_since
    {now : Instant}
    (hClock : now ≤ .last)
    (started : Instant) :
    (now.since started).toNanos =
      now.nanos - started.nanos := by
  have hLast :
      now.nanos ≤ 9_223_372_036_854_775_807_999_999_999 :=
    hClock
  have hFits :
      (now.nanos - started.nanos) / 1_000_000_000 <
        18_446_744_073_709_551_616 := by
    omega
  unfold since Duration.ofNanos
  rw [dif_pos hFits]
  exact Nat.div_add_mod' _ _

/-
  A call has time left, and so much that it makes up the limit
  together with what was measured, or it has none left.
-/
def Spares
    (limit : Nat)
    (measured : Nat)
    (b : Option Duration) : Prop :=
  ∃ d,
    b = some d ∧
      (d.toNanos = 0 ∨ measured + d.toNanos = limit)

/-
  Whether this is what a call has left at a turn, or what it
  reports if that is its end and its condition is clear.
-/
def Turn.Carries
    (b : Option Duration) : Turn V → Prop
| .block a => a.budget = b
| .judge a => a.budget = b
| .finish e => ∀ b', e = .cleared b' → b' = b

/- An evaluation takes nothing from what a call has left. -/
theorem Attempt.carries_judge
    (a : Attempt V)
    (v : V) :
    (a.judge v).1.Carries a.budget := by
  cases hCondition : a.condition with
  | none =>
      simp only [judge, hCondition]
      exact rfl
  | some p =>
      rw [judge_eq hCondition]
      split
      · rename_i e hEnding
        rintro b rfl
        rcases (Incident.ending_iff rfl _).mp hEnding with
          ⟨hEnd, _⟩ | ⟨hEnd, _⟩ | ⟨hEnd, _⟩ | ⟨_, hEnd, _⟩
        · cases hEnd
          rfl
        · cases hEnd
        · cases hEnd
        · cases hEnd
      · exact rfl

/- Nor does going on after having blocked. -/
theorem Attempt.carries_resume
    (a : Attempt V)
    (o : Outcome)
    (left : Option Duration) :
    (a.resume o left).Carries left := by
  cases hCondition : a.condition with
  | none =>
      simp only [resume, hCondition]
      cases left with
      | none =>
          intro b' hEq
          cases hEq
      | some d =>
          intro b' hEq
          cases hEq
  | some p =>
      rw [resume_eq hCondition]
      split
      · intro b' hEq
        cases hEq
      · exact rfl

namespace Phase

/-
  What a thread's call has left in a phase, and has reported
  if it has ended.  While the thread is measuring a wait, the
  call is yet to take off its time.
-/
structure Spared
    (limit : Nat)
    (measured : Nat)
    (now : Instant)
    (es : List Ending)
    (ph : Phase V) : Prop where
  began :
    ∀ started, ph.began? = some started → started ≤ now
  left :
    ∀ b, ph.left? = some b →
      Spares (limit + ph.running now) measured b
  ended : es ≠ [] → ph = .idle
  cleared : ∀ b, .cleared b ∈ es → Spares limit measured b

namespace Spared

variable {limit measured : Nat}
variable {now : Instant}
variable {es : List Ending}
variable {ph ph' : Phase V}

/- A call that takes no time stays as it is. -/
theorem same
    (hSpared : ph.Spared limit measured now [])
    (hBegan : ph'.began? = ph.began?)
    (hLeft : ph'.left? = ph.left?) :
    ph'.Spared limit measured now [] := by
  have hRunning : ph'.running now = ph.running now := by
    simp only [running, hBegan]
  refine ⟨?_, ?_, nofun, nofun⟩
  · rw [hBegan]
    exact hSpared.began
  · rw [hLeft, hRunning]
    exact hSpared.left

/- A call that is broken off has not reported anything. -/
theorem misused
    (misuse : Misuse) :
    (Phase.idle (V := V)).Spared limit measured now
      [.misused misuse] :=
  ⟨nofun, nofun, fun _ => rfl, by simp⟩

/- A turn of a call has left or reports what is spared. -/
theorem turn
    {y : Turn V}
    {b : Option Duration}
    (side : Side)
    (hCarries : y.Carries b)
    (hSpares : Spares limit measured b) :
    (y.phase side).Spared limit measured now
      (y.facts.filterMap Fact.ending?) := by
  cases y with
  | block a =>
      have hBudget : a.budget = b := hCarries
      subst hBudget
      refine ⟨nofun, ?_, nofun, nofun⟩
      rintro b' ⟨⟩
      exact hSpares
  | judge a =>
      have hBudget : a.budget = b := hCarries
      subst hBudget
      refine ⟨nofun, ?_, nofun, nofun⟩
      rintro b' ⟨⟩
      exact hSpares
  | finish e =>
      refine ⟨nofun, nofun, fun _ => rfl, ?_⟩
      intro b' hMem
      rw [hCarries b' (List.mem_singleton.mp hMem).symm]
      exact hSpares

/- Time that passes is measured or leaves everything as it is. -/
theorem passes
    {now' : Instant}
    (hSpared : ph.Spared limit measured now es)
    (hLater : now ≤ now') :
    ph.Spared limit
      (measured +
        if ph.isMeasured then now'.nanos - now.nanos else 0)
      now' es := by
  have hNanos : now.nanos ≤ now'.nanos := hLater
  cases hBegan : ph.began? with
  | none =>
      have hMeasured : ph.isMeasured = false := by
        simp only [isMeasured, hBegan, Option.isSome_none]
      have hRunning : ∀ i, ph.running i = 0 := by
        intro i
        simp only [running, hBegan]
      have hLeft := hSpared.left
      rw [hRunning] at hLeft
      rw [hMeasured, if_neg Bool.false_ne_true, Nat.add_zero]
      refine ⟨?_, ?_, hSpared.ended, hSpared.cleared⟩
      · rw [hBegan]
        exact nofun
      · rw [hRunning]
        exact hLeft
  | some started =>
      have hMeasured : ph.isMeasured = true := by
        simp only [isMeasured, hBegan, Option.isSome_some]
      have hRunning :
          ∀ i, ph.running i = i.nanos - started.nanos := by
        intro i
        simp only [running, hBegan]
      have hBefore : started.nanos ≤ now.nanos :=
        hSpared.began started hBegan
      -- A thread that measures a wait has not ended its call.
      have hNone : es = [] := by
        by_contra hSome
        rw [hSpared.ended hSome] at hBegan
        cases hBegan
      subst hNone
      rw [if_pos hMeasured]
      refine ⟨?_, ?_, nofun, nofun⟩
      · intro started' hBegan'
        cases hBegan.symm.trans hBegan'
        exact Nat.le_trans hBefore hNanos
      · intro b hLeft
        rcases hSpared.left b hLeft with ⟨d, rfl, hSpares⟩
        rw [hRunning] at hSpares
        rw [hRunning]
        refine ⟨d, rfl, ?_⟩
        omega

/- So does waking. -/
theorem wake
    (hSpared : ph.Spared limit measured now es)
    (g : Nat) :
    (ph.wake g).Spared limit measured now es := by
  have hBegan : (ph.wake g).began? = ph.began? :=
    ph.apply_wake began? (fun _ _ _ _ => rfl) g
  have hLeft : (ph.wake g).left? = ph.left? :=
    ph.apply_wake left? (fun _ _ _ _ => rfl) g
  have hRunning : (ph.wake g).running now = ph.running now := by
    simp only [running, hBegan]
  refine ⟨?_, ?_, ?_, hSpared.cleared⟩
  · rw [hBegan]
    exact hSpared.began
  · rw [hLeft, hRunning]
    exact hSpared.left
  · intro hSome
    rw [hSpared.ended hSome]
    rfl

end Spared

end Phase

/- A waiter that parks again still measures the same wait. -/
theorem Vigil.started_of_park
    {v v' : Vigil}
    {s : Sighting}
    {wakeAt : Option Instant}
    {stalled : Option Duration}
    (hPark : v.look s = .park v' wakeAt stalled) :
    v'.started = v.started := by
  unfold look at hPark
  split at hPark
  · cases hPark
  split at hPark
  · cases hPark
  split at hPark
  · cases hPark
  split at hPark
  · cases hPark
    rfl
  · cases hPark
    rfl

/- What blocking leaves of what was spared is spared. -/
theorem Attempt.spares_left
    {a : Attempt V}
    {elapsed : Duration}
    {limit measured : Nat}
    (hSpares :
      Spares (limit + elapsed.toNanos) measured a.budget)
    (o : Outcome) :
    Spares limit measured (a.left elapsed o) := by
  rcases hSpares with ⟨d, hBudget, hEnough⟩
  rw [left_eq, hBudget, Option.map_some]
  refine ⟨_, rfl, ?_⟩
  rw [Duration.toNanos_less]
  cases o with
  | timedOut =>
      exact Or.inl (Nat.sub_self d.toNanos)
  | signaled =>
      change d.toNanos - elapsed.toNanos = 0 ∨
        measured + (d.toNanos - elapsed.toNanos) = limit
      omega
  | interrupted =>
      change d.toNanos - elapsed.toNanos = 0 ∨
        measured + (d.toNanos - elapsed.toNanos) = limit
      omega

namespace Machine

/- A thread's own step keeps what its call has left. -/
theorem Moves.spared
    {m rest : Machine V}
    {t : Nat}
    {ph ph' : Phase V}
    {facts : List Fact}
    {limit measured : Nat}
    {es : List Ending}
    (hMoves : m.Moves t ph ph' facts rest)
    (hBusy : ph ≠ .idle)
    (hClock : m.clock ≤ .last)
    (hSpared : ph.Spared limit measured m.clock es) :
    ph'.Spared limit measured m.clock
      (es ++ facts.filterMap Fact.ending?) := by
  have hNone : es = [] := by
    by_contra hSome
    exact hBusy (hSpared.ended hSome)
  subst hNone
  rw [List.nil_append]
  have hLeft := hSpared.left
  cases hMoves with
  | @judge side a =>
      exact
        .turn side (a.carries_judge (m.lock side).value)
          (hLeft _ rfl)
  | enterForeign => exact .misused _
  | enroll => exact hSpared.same rfl rfl
  | count hCounted => exact hSpared.same rfl rfl
  | refuse hRefused => exact ⟨nofun, nofun, nofun, nofun⟩
  | withdraw => exact .misused _
  | depart => exact hSpared.same rfl rfl
  | @watch a g =>
      have hStarted : (m.start a).started = m.clock := by
        unfold start
        split <;> rfl
      have hRunning :
          (Phase.watching a g (m.start a)).running m.clock =
            0 := by
        change m.clock.nanos - (m.start a).started.nanos = 0
        rw [hStarted, Nat.sub_self]
      refine ⟨?_, ?_, nofun, nofun⟩
      · intro started hBegan
        cases hBegan
        rw [hStarted]
        exact Nat.le_refl _
      · rw [hRunning]
        exact hLeft
  | settle hLook => exact hSpared.same rfl rfl
  | @park a g v v' wakeAt stalled hLook =>
      have hBegan := Vigil.started_of_park hLook
      have hFacts :
          ((stalled.map
                (Fact.stalled (m.cohort g).epoch)).toList ++
              [Fact.parked (m.cohort g).epoch
                wakeAt]).filterMap Fact.ending? = [] := by
        cases stalled <;> rfl
      rw [hFacts]
      exact hSpared.same (congrArg some hBegan) rfl
  | expire hDue => exact hSpared.same rfl rfl
  | @measure a g v o =>
      have hRunning :
          (Phase.settled a g v o).running m.clock =
            (m.clock.since v.started).toNanos :=
        (Instant.toNanos_since hClock v.started).symm
      have hBudget := hLeft _ rfl
      rw [hRunning] at hBudget
      refine ⟨nofun, ?_, nofun, nofun⟩
      intro b hEq
      cases hEq
      exact Attempt.spares_left hBudget o
  | regain hFree => exact hSpared.same rfl rfl
  | @resume a g o left hCounted =>
      exact
        .turn .bound (a.carries_resume o left) (hLeft _ rfl)
  | underflow hRefused => exact .misused _
  | drop hDropped => exact hSpared.same rfl rfl
  | post hOpen hLacks => exact hSpared.same rfl rfl
  | announce hThere hParked => exact hSpared.same rfl rfl
  | announceNobody hNone => exact hSpared.same rfl rfl
  | takeLock hFree => exact hSpared.same rfl rfl
  | close hOpen => exact hSpared.same rfl rfl
  | closeAgain hClosed => exact hSpared.same rfl rfl
  | rouse => exact hSpared.same rfl rfl
  | renew => exact hSpared.same rfl rfl
  | renewTaken => exact hSpared.same rfl rfl
  | _ => exact absurd rfl hBusy

end Machine

------------------------------------------------------------
-- From the First Release to the Last Return
------------------------------------------------------------

namespace Phase

/-
  How the time that was measured lies within the time that a
  thread has waited.  It has not released the lock yet; or it
  is out, since it first released the lock; or it had the lock
  back last at some time.
-/
inductive Spanned
    (measured : Nat)
    (now : Instant)
    (ds rs : List Instant)
    (ph : Phase V) : Prop where
| before
    (hIn : ph.isOut = false)
    (hFirst : ds = [])
    (hNone : measured = 0) : Spanned measured now ds rs ph
| out {d : Instant}
    (hOut : ph.isOut = true)
    (hFirst : ds.head? = some d)
    (hSpan : d.nanos + measured ≤ now.nanos) :
    Spanned measured now ds rs ph
| back {d b : Instant}
    (hIn : ph.isOut = false)
    (hFirst : ds.head? = some d)
    (hLast : rs.getLast? = some b)
    (hPast : b ≤ now)
    (hSpan : d.nanos + measured ≤ b.nanos) :
    Spanned measured now ds rs ph

/-
  What a step of its own is to a thread's waiting: it stays
  out or in, releases the lock, or has it back.
-/
inductive Crossing
    (ph ph' : Phase V)
    (facts : List Fact) : Prop where
| stays
    (hSame : ph'.isOut = ph.isOut)
    (hDepartures : facts.filter Fact.isDeparture = [])
    (hReturns : facts.filter Fact.isReturn = []) :
    Crossing ph ph' facts
| leaves {epoch : Nat}
    (hIn : ph.isOut = false)
    (hOut : ph'.isOut = true)
    (hFacts : facts = [.departed epoch]) :
    Crossing ph ph' facts
| returns {epoch : Nat} {o : Outcome}
    (hOut : ph.isOut = true)
    (hIn : ph'.isOut = false)
    (hFacts : facts = [.regained epoch o]) :
    Crossing ph ph' facts

/- Only a thread that is out measures its waiting. -/
theorem began?_of_in
    {ph : Phase V}
    (hIn : ph.isOut = false) :
    ph.began? = none := by
  cases ph with
  | watching a g v => cases hIn
  | parked a g v wakeAt => cases hIn
  | settled a g v o => cases hIn
  | _ => rfl

/- A thread that is not out measures nothing. -/
theorem isMeasured_of_in
    {ph : Phase V}
    (hIn : ph.isOut = false) :
    ph.isMeasured = false := by
  simp only [isMeasured, began?_of_in hIn,
    Option.isSome_none]

/- Nor has it measured the beginning of a wait. -/
theorem running_of_in
    {ph : Phase V}
    (hIn : ph.isOut = false)
    (now : Instant) :
    ph.running now = 0 := by
  simp only [running, began?_of_in hIn]

namespace Spanned

variable {measured : Nat}
variable {now : Instant}
variable {ds rs : List Instant}
variable {ph ph' : Phase V}

/- No more is measured than passes. -/
theorem passes
    {now' : Instant}
    (hSpanned : ph.Spanned measured now ds rs)
    (hLater : now ≤ now') :
    ph.Spanned
      (measured +
        if ph.isMeasured then now'.nanos - now.nanos else 0)
      now' ds rs := by
  have hNanos : now.nanos ≤ now'.nanos := hLater
  cases hSpanned with
  | before hIn hFirst hNone =>
      rw [isMeasured_of_in hIn]
      exact .before hIn hFirst hNone
  | out hOut hFirst hSpan =>
      refine .out hOut hFirst ?_
      split
      · omega
      · omega
  | back hIn hFirst hLast hPast hSpan =>
      rw [isMeasured_of_in hIn]
      exact
        .back hIn hFirst hLast (Nat.le_trans hPast hNanos) hSpan

/- Waking up is no return. -/
theorem wake
    (hSpanned : ph.Spanned measured now ds rs)
    (g : Nat) :
    (ph.wake g).Spanned measured now ds rs := by
  have hSame : (ph.wake g).isOut = ph.isOut :=
    ph.apply_wake isOut (fun _ _ _ _ => rfl) g
  cases hSpanned with
  | before hIn hFirst hNone =>
      exact .before (hSame.trans hIn) hFirst hNone
  | out hOut hFirst hSpan =>
      exact .out (hSame.trans hOut) hFirst hSpan
  | back hIn hFirst hLast hPast hSpan =>
      exact
        .back (hSame.trans hIn) hFirst hLast hPast hSpan

/- A step of the thread's own takes no time. -/
theorem crosses
    {facts : List Fact}
    (hSpanned : ph.Spanned measured now ds rs)
    (hCrossing : ph.Crossing ph' facts) :
    ph'.Spanned measured now
      (ds ++ (facts.filter Fact.isDeparture).map (fun _ => now))
      (rs ++ (facts.filter Fact.isReturn).map (fun _ => now)) := by
  cases hCrossing with
  | stays hSame hDepartures hReturns =>
      rw [hDepartures, hReturns, List.map_nil,
        List.append_nil, List.append_nil]
      cases hSpanned with
      | before hIn hFirst hNone =>
          exact .before (hSame.trans hIn) hFirst hNone
      | out hOut hFirst hSpan =>
          exact .out (hSame.trans hOut) hFirst hSpan
      | back hIn hFirst hLast hPast hSpan =>
          exact
            .back (hSame.trans hIn) hFirst hLast hPast hSpan
  | leaves hIn hOut hFacts =>
      subst hFacts
      cases hSpanned with
      | before _ hFirst hNone =>
          subst hFirst hNone
          exact .out hOut rfl (Nat.le_refl _)
      | out hOut' hFirst hSpan =>
          rw [hIn] at hOut'
          cases hOut'
      | back _ hFirst hLast hPast hSpan =>
          refine .out hOut ?_ (Nat.le_trans hSpan hPast)
          rw [List.head?_append, hFirst]
          rfl
  | returns hOut hIn hFacts =>
      subst hFacts
      cases hSpanned with
      | before hIn' hFirst hNone =>
          rw [hOut] at hIn'
          cases hIn'
      | out _ hFirst hSpan =>
          refine
            .back hIn ?_ List.getLast?_concat (Nat.le_refl _)
              hSpan
          rw [List.head?_append, hFirst]
          rfl
      | back hIn' hFirst hLast hPast hSpan =>
          rw [hOut] at hIn'
          cases hIn'

end Spanned

end Phase

namespace Machine

/- The thread that begins a turn has the lock, or is outside. -/
theorem crossing_turn
    {ph : Phase V}
    {f : Fact}
    {y : Turn V}
    (side : Side)
    (hIn : ph.isOut = false)
    (hDeparture : f.isDeparture = false)
    (hReturn : f.isReturn = false) :
    ph.Crossing (y.phase side) (f :: y.facts) := by
  have hNone :
      ∀ q : Fact → Bool,
        (∀ e, q (.finished e) = false) →
          y.facts.filter q = [] := by
    intro q hNot
    cases y <;> simp [Turn.facts, hNot]
  refine .stays ?_ ?_ ?_
  · rw [hIn]
    cases y <;> rfl
  · rw [List.filter_cons, hDeparture,
      hNone _ (fun _ => rfl)]
    rfl
  · rw [List.filter_cons, hReturn, hNone _ (fun _ => rfl)]
    rfl

/- Every step of a thread's own is one of these. -/
theorem Moves.crossing
    {m rest : Machine V}
    {t : Nat}
    {ph ph' : Phase V}
    {facts : List Fact}
    (hMoves : m.Moves t ph ph' facts rest)
    (hBusy : ph ≠ .idle) :
    ph.Crossing ph' facts := by
  cases hMoves with
  | judge => exact crossing_turn _ rfl rfl rfl
  | depart => exact .leaves rfl rfl rfl
  | @park a g v v' wakeAt stalled hLook =>
      cases stalled with
      | none => exact .stays rfl rfl rfl
      | some d => exact .stays rfl rfl rfl
  | regain hFree => exact .returns rfl rfl rfl
  | resume hCounted => exact crossing_turn _ rfl rfl rfl
  | call hHeld => exact absurd rfl hBusy
  | _ => exact .stays rfl rfl rfl

------------------------------------------------------------
-- Whole Runs
------------------------------------------------------------

/- Moves take no time. -/
theorem Moves.clock
    {m rest : Machine V}
    {t : Nat}
    {ph ph' : Phase V}
    {facts : List Fact}
    (hMoves : m.Moves t ph ph' facts rest) :
    rest.clock = m.clock := by
  cases hMoves with
  | @acquire side => cases side <;> rfl
  | @release side => cases side <;> rfl
  | @write side => cases side <;> rfl
  | @judge side => cases side <;> rfl
  | _ => rfl

/- The clock goes on, but never beyond its last reading. -/
theorem clock_of_step
    {m m' : Machine V}
    {l : Label V}
    {ns : List Note}
    (hStep : m.step l = some (m', ns)) :
    m.clock ≤ m'.clock ∧
      (m.clock ≤ .last → m'.clock ≤ .last) := by
  cases l with
  | join =>
      cases hStep
      exact ⟨Nat.le_refl _, id⟩
  | tick d =>
      rcases Option.map_eq_some_iff.mp hStep with
        ⟨now, hAfter, hEq⟩
      cases hEq
      have hNanos := Instant.nanos_of_after? hAfter
      refine ⟨Nat.le.intro hNanos.symm, fun _ => ?_⟩
      unfold Instant.after? at hAfter
      split at hAfter
      · rename_i hFits
        cases hAfter
        exact hFits
      · cases hAfter
  | _ =>
      cases stepsBy_of_step hStep with
      | @move t ph ph' facts rest hPhase hMoves =>
          change m.clock ≤ rest.clock ∧
            (m.clock ≤ .last → rest.clock ≤ .last)
          rw [hMoves.clock]
          exact ⟨Nat.le_refl _, id⟩

/- Wherever a fresh machine gets, its clock can count. -/
theorem Reaches.clock_le_last
    {m : Machine V}
    {s : Settings}
    {value foreign : V}
    {ns : List Note}
    (hReaches : (fresh s value foreign).Reaches ns m) :
    m.clock ≤ .last := by
  induction hReaches with
  | refl => exact Nat.zero_le _
  | step _ hStep ih => exact (clock_of_step hStep).2 ih

/-
  What a thread's call has left and reported, and how it has
  waited, if this was measured.
-/
def Timed
    (m : Machine V)
    (t : Nat)
    (limit : Nat)
    (measured : Nat)
    (ns : List Note) : Prop :=
  ∃ ph,
    m.threads[t]? = some ph ∧
      ph.Spared limit measured m.clock (endingsOf t ns) ∧
      ph.Spanned measured m.clock (departuresOf t ns)
        (returnsOf t ns)

namespace Timed

variable {m m' : Machine V}
variable {t limit measured : Nat}
variable {past ns : List Note}

/- A step of the thread's own keeps that, and takes no time. -/
theorem own
    {l : Label V}
    (hTimed : m.Timed t limit measured past)
    (hClock : m.clock ≤ .last)
    (hOwn : l.thread? = some t)
    (hInner : l.request? = none)
    (hStep : m.step l = some (m', ns)) :
    m'.Timed t limit measured (past ++ ns) ∧
      m'.clock = m.clock := by
  rcases hTimed with ⟨ph, hPhase, hSpared, hSpanned⟩
  rcases goes_of_inner hInner with ⟨u, hGoes⟩
  cases hGoes.thread.symm.trans hOwn
  rcases moves_of_goes hGoes hStep with
    ⟨ph₁, ph', facts, rest, hThere, hBusy, hMoves, rfl, rfl⟩
  cases hPhase.symm.trans hThere
  have hSame : (rest.setPhase t ph').clock = m.clock :=
    hMoves.clock
  refine ⟨⟨ph', hMoves.phase_self hPhase, ?_, ?_⟩, hSame⟩
  · have hThen := hMoves.spared hBusy hClock hSpared
    rw [hSame, endingsOf, factsOf_append, factsOf_self,
      List.filterMap_append]
    exact hThen
  · have hThen := hSpanned.crosses (hMoves.crossing hBusy)
    rw [hSame, departuresOf, returnsOf, timesOf_append,
      timesOf_append, timesOf_self, timesOf_self]
    exact hThen

/- Other steps keep it, with the time that they take. -/
theorem other
    {l : Label V}
    (hTimed : m.Timed t limit measured past)
    (hOther : l.thread? ≠ some t)
    (hStep : m.step l = some (m', ns)) :
    m'.Timed t limit
      (measured +
        if m.threads[t]?.any Phase.isMeasured then
          m'.clock.nanos - m.clock.nanos
        else
          0)
      (past ++ ns) := by
  rcases hTimed with ⟨ph, hPhase, hSpared, hSpanned⟩
  have hLater := (clock_of_step hStep).1
  rcases own_or_other hStep hPhase
      (fun hOwn => absurd hOwn hOther) with
    ⟨hOwn, _⟩ | ⟨_, hFacts, ph', hThere, hWoken⟩
  · exact absurd hOwn hOther
  · have hSpared' := hSpared.passes hLater
    have hSpanned' := hSpanned.passes hLater
    rw [hPhase, Option.any_some]
    refine ⟨ph', hThere, ?_, ?_⟩
    · rw [endingsOf, factsOf_append, hFacts, List.append_nil]
      rcases hWoken with rfl | ⟨g, rfl⟩
      · exact hSpared'
      · exact hSpared'.wake g
    · rw [departuresOf, returnsOf, timesOf_append,
        timesOf_append, timesOf_eq_nil hFacts,
        timesOf_eq_nil hFacts, List.append_nil,
        List.append_nil]
      rcases hWoken with rfl | ⟨g, rfl⟩
      · exact hSpanned'
      · exact hSpanned'.wake g

/- So does any run in which the thread asks for nothing else. -/
theorem run
    {ls : List (Label V)}
    (hTimed : m.Timed t limit measured past)
    (hClock : m.clock ≤ .last)
    (hInner :
      ∀ l ∈ ls, l.thread? = some t → l.request? = none)
    (hRun : m.run ls = some (m', ns)) :
    m'.Timed t limit
      (measured + m.timeIn t Phase.isMeasured ls)
      (past ++ ns) := by
  induction ls generalizing m measured past ns with
  | nil =>
      cases hRun
      rw [List.append_nil]
      exact hTimed
  | cons l ls ih =>
      rcases run_cons hRun with
        ⟨m₁, ns₁, ns₂, hStep, hRest, rfl⟩
      rcases List.forall_mem_cons.mp hInner with
        ⟨hFirst, hLater⟩
      have hClock₁ := (clock_of_step hStep).2 hClock
      rw [← List.append_assoc]
      by_cases hOwn : l.thread? = some t
      · rcases hTimed.own hClock hOwn (hFirst hOwn) hStep with
          ⟨hTimed₁, hSame⟩
        rw [timeIn_cons_of_clock hStep hSame]
        exact ih hTimed₁ hClock₁ hLater hRest
      · rw [timeIn_cons hStep, ← Nat.add_assoc]
        exact
          ih (hTimed.other hOwn hStep) hClock₁ hLater hRest

end Timed

/- A call with a limit begins with all of it, and nothing yet. -/
theorem timed_of_call
    {m m' : Machine V}
    {t : Nat}
    {timeout : Duration}
    {p : Predicate V}
    {ls : List (Label V)}
    {ns : List Note}
    (hClock : m.clock ≤ .last)
    (hInner :
      ∀ l ∈ ls, l.thread? = some t → l.request? = none)
    (hRun :
      m.run
          (.call t .bound (.waitWhileFor timeout p) :: ls) =
        some (m', ns)) :
    m'.Timed t timeout.toNanos
      (m.timeIn t Phase.isMeasured
        (.call t .bound (.waitWhileFor timeout p) :: ls))
      ns := by
  rcases run_cons hRun with
    ⟨m₁, ns₁, ns₂, hStep, hRest, rfl⟩
  rcases call_of_step hStep with ⟨hIdle, hHeld, rfl, rfl⟩
  have hPhase :=
    (Moves.call (c := .waitWhileFor timeout p) hHeld).phase_self
      hIdle
  have hTimed :
      (m.setPhase t
          (.judging .bound ⟨some p, [], some timeout⟩)).Timed t
        timeout.toNanos 0 [] := by
    refine ⟨_, hPhase, ⟨nofun, ?_, nofun, nofun⟩, ?_⟩
    · rintro b ⟨⟩
      refine ⟨timeout, rfl, Or.inr ?_⟩
      rw [Phase.running_of_in rfl, Nat.zero_add, Nat.add_zero]
    · exact .before rfl rfl rfl
  have hThen := hTimed.run hClock hInner hRest
  rw [Nat.zero_add] at hThen
  rw [timeIn_cons_of_clock hStep rfl]
  exact hThen

------------------------------------------------------------
-- The Total
------------------------------------------------------------

/-
  Any machine that is reached from a fresh one, any of its
  threads that calls to wait for a condition within a time,
  and any steps from then on in which the thread asks for
  nothing else.  The thread has released the lock first at one
  time and has had it back last at another.  The call reports
  that some of its time is left, or is about to block for that
  long.

  What is left makes up the limit exactly, together with the
  time that passed while the thread was measuring.  That time
  lies between the first release and the last return.  So the
  time between these two and what is left are no more than the
  limit together exactly if the thread was measuring all the
  time between them, so that none of it passed while it wanted
  the lock back or had it.
-/
theorem total_within_limit_iff
    {s : Settings}
    {value foreign : V}
    {m₀ m : Machine V}
    {past ns : List Note}
    {t : Nat}
    {timeout r : Duration}
    {p : Predicate V}
    {ls : List (Label V)}
    {d b : Instant}
    (hReaches : (fresh s value foreign).Reaches past m₀)
    (hInner :
      ∀ l ∈ ls, l.thread? = some t → l.request? = none)
    (hRun :
      m₀.run
          (.call t .bound (.waitWhileFor timeout p) :: ls) =
        some (m, ns))
    (hFirst : (departuresOf t ns).head? = some d)
    (hLast : (returnsOf t ns).getLast? = some b)
    (hReport :
      endingsOf t ns = [.cleared (some r)] ∨
        ∃ a,
          m.threads[t]? = some (.entering .bound a) ∧
            a.budget = some r)
    (hSome : 0 < r.toNanos) :
    ∃ measured,
      measured =
        m₀.timeIn t Phase.isMeasured
          (.call t .bound (.waitWhileFor timeout p) :: ls) ∧
      measured + r.toNanos = timeout.toNanos ∧
      d.nanos + measured ≤ b.nanos ∧
      (b.nanos - d.nanos + r.toNanos ≤ timeout.toNanos ↔
        b.nanos - d.nanos = measured) := by
  rcases timed_of_call hReaches.clock_le_last hInner hRun with
    ⟨ph, hPhase, hSpared, hSpanned⟩
  generalize
    m₀.timeIn t Phase.isMeasured
      (.call t .bound (.waitWhileFor timeout p) :: ls) =
        measured at hSpared hSpanned
  have hWhere :
      ph.isOut = false ∧
        Spares timeout.toNanos measured (some r) := by
    rcases hReport with hEnded | ⟨a, hThere, hBudget⟩
    · rw [hEnded] at hSpared
      refine ⟨?_, hSpared.cleared _ List.mem_cons_self⟩
      rw [hSpared.ended (List.cons_ne_nil _ _)]
      rfl
    · cases hPhase.symm.trans hThere
      have hLeft := hSpared.left _ rfl
      rw [Phase.running_of_in rfl, Nat.add_zero, hBudget]
        at hLeft
      exact ⟨rfl, hLeft⟩
  rcases hWhere with ⟨hIn, r', hSame, hLeft⟩
  cases hSame
  have hTotal : measured + r.toNanos = timeout.toNanos :=
    hLeft.resolve_left (Nat.ne_of_gt hSome)
  have hSpan : d.nanos + measured ≤ b.nanos := by
    cases hSpanned with
    | before _ hNone _ =>
        rw [hNone] at hFirst
        cases hFirst
    | out hOut _ _ =>
        rw [hIn] at hOut
        cases hOut
    | back _ hFirst' hLast' _ hSpan =>
        cases hFirst.symm.trans hFirst'
        cases hLast.symm.trans hLast'
        exact hSpan
  exact ⟨measured, rfl, hTotal, hSpan, by omega⟩

/-
  A thread waits for a value of one at least within ten
  nanoseconds.  After two of them another sets the value,
  signals, and releases the lock, all at once.
-/
theorem total_within_limit_iff_at_once :
    ∃ (m₀ m : Machine Int) (past ns : List Note)
        (ls : List (Label Int)),
      (fresh .standard 0 0).Reaches past m₀ ∧
      (∀ l ∈ ls, l.thread? = some 0 → l.request? = none) ∧
      m₀.run
          (.call 0 .bound
              (.waitWhileFor (.ofNanos 10) (.below 1)) ::
            ls) =
        some (m, ns) ∧
      endingsOf 0 ns = [.cleared (some (.ofNanos 8))] ∧
      departuresOf 0 ns = [⟨0⟩] ∧
      returnsOf 0 ns = [⟨2⟩] ∧
      2 - 0 + (Duration.ofNanos 8).toNanos ≤
        (Duration.ofNanos 10).toNanos := by
  have hRuns :
      ∃ (m₀ m : Machine Int) (past ns : List Note)
          (ls : List (Label Int)),
        (fresh .standard 0 0).run
            [.join, .join, .acquire 0 .bound] =
          some (m₀, past) ∧
        (∀ l ∈ ls, l.thread? = some 0 → l.request? = none) ∧
        m₀.run
            (.call 0 .bound
                (.waitWhileFor (.ofNanos 10) (.below 1)) ::
              ls) =
          some (m, ns) ∧
        endingsOf 0 ns = [.cleared (some (.ofNanos 8))] ∧
        departuresOf 0 ns = [⟨0⟩] ∧
        returnsOf 0 ns = [⟨2⟩] ∧
        m₀.timeIn 0 Phase.isMeasured
            (.call 0 .bound
                (.waitWhileFor (.ofNanos 10) (.below 1)) ::
              ls) =
          2 := by
    refine
      ⟨_, _, _, _,
        [.advance 0, .advance 0, .advance 0, .advance 0,
          .advance 0, .advance 0, .tick (.ofNanos 2),
          .acquire 1 .bound, .write 1 .bound 1, .signal 1,
          .advance 1, .notify 1 (some 0), .release 1 .bound,
          .advance 0, .advance 0, .advance 0, .advance 0,
          .advance 0],
        rfl, ?_, rfl, ?_, ?_, ?_, ?_⟩
    all_goals decide
  rcases hRuns with
    ⟨m₀, m, past, ns, ls, hBefore, hInner, hRun, hEndings,
      hDepartures, hReturns, hMeasured⟩
  have hReaches := Reaches.of_run .refl hBefore
  rcases total_within_limit_iff hReaches hInner hRun
      (congrArg List.head? hDepartures)
      (congrArg List.getLast? hReturns)
      (Or.inl hEndings) (by decide) with
    ⟨measured, hIs, _, _, hIff⟩
  rw [hIs, hMeasured] at hIff
  exact
    ⟨m₀, m, _, ns, ls, hReaches, hInner, hRun, hEndings,
      hDepartures, hReturns, hIff.mpr rfl⟩

/-
  The same, but the other thread keeps the lock for seven
  nanoseconds after its signal.  Nine of ten nanoseconds have
  passed when the waiter has the lock back, and its call
  reports that eight are left.
-/
theorem not_total_within_limit :
    ∃ (m₀ m : Machine Int) (past ns : List Note),
      (fresh .standard 0 0).run
          [.join, .join, .acquire 0 .bound] =
        some (m₀, past) ∧
      m₀.run
          [.call 0 .bound
              (.waitWhileFor (.ofNanos 10) (.below 1)),
            .advance 0, .advance 0, .advance 0, .advance 0,
            .advance 0, .advance 0, .tick (.ofNanos 2),
            .acquire 1 .bound, .write 1 .bound 1, .signal 1,
            .advance 1, .notify 1 (some 0), .advance 0,
            .advance 0, .tick (.ofNanos 7),
            .release 1 .bound, .advance 0, .advance 0,
            .advance 0] =
        some (m, ns) ∧
      endingsOf 0 ns = [.cleared (some (.ofNanos 8))] ∧
      departuresOf 0 ns = [⟨0⟩] ∧
      returnsOf 0 ns = [⟨9⟩] ∧
      (Duration.ofNanos 10).toNanos <
        9 - 0 + (Duration.ofNanos 8).toNanos :=
  ⟨_, _, _, _, rfl, rfl, by decide, by decide, by decide,
    by decide⟩

end Machine

end CondVar
