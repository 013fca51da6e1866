import CondVar.Proofs.Receipts
import CondVar.Proofs.Seating

/-
  What a storm of signals comes to.

  The posts that an open cohort receives do not depend on how
  they and the waiters they are for follow one another.  What
  counts is how many registered waiters have no permit to look
  forward to.  A post is received if there is one, and then
  there is one less; a waiter that takes its permit leaves
  their number alone.

  Main declarations:
    * `Bench.lacking`
    * `Bench.Tide`
    * `Bench.Moves.tide`
    * `Bench.storm_total`
-/

namespace CondVar

namespace Bench

------------------------------------------------------------
-- Counting Events
------------------------------------------------------------

/- Whether a post was made, received or not. -/
def Event.isPost : Event → Bool
| .posted _ => true
| _ => false

/- Whether a waiter registered. -/
def Event.isEntry : Event → Bool
| .enrolled _ => true
| _ => false

/- Whether a waiter ran out of time. -/
def Event.isExpiry : Event → Bool
| .settled _ .timedOut => true
| _ => false

/- How many posts were made. -/
def posts (es : List Event) : Nat :=
  es.countP Event.isPost

/- How many waiters registered. -/
def entries (es : List Event) : Nat :=
  es.countP Event.isEntry

/- How many waiters ran out of time. -/
def expiries (es : List Event) : Nat :=
  es.countP Event.isExpiry

@[simp] theorem posts_append
    (es es' : List Event) :
    posts (es ++ es') = posts es + posts es' :=
  List.countP_append

@[simp] theorem entries_append
    (es es' : List Event) :
    entries (es ++ es') = entries es + entries es' :=
  List.countP_append

@[simp] theorem expiries_append
    (es es' : List Event) :
    expiries (es ++ es') = expiries es + expiries es' :=
  List.countP_append

/-
  Whether an event is none of a registration, a registration
  taken back, a post, and the end of a waiter's time.
-/
def Event.isCalm : Event → Bool
| .enrolled _ => false
| .withdrew _ => false
| .posted _ => false
| .settled _ .timedOut => false
| _ => true

/- A calm event is neither a post, an entry, nor an expiry. -/
theorem Event.uncounted_of_isCalm
    {e : Event}
    (hCalm : e.isCalm = true) :
    e.isPost = false ∧ e.isEntry = false ∧
      e.isExpiry = false := by
  cases e with
  | settled i o =>
      cases o <;> simp_all [isCalm, isPost, isEntry, isExpiry]
  | _ => simp_all [isCalm, isPost, isEntry, isExpiry]

/- Calm events are not counted. -/
theorem counts_of_calm
    {es : List Event}
    (hCalm : ∀ e ∈ es, e.isCalm = true) :
    sent es = 0 ∧ posts es = 0 ∧ entries es = 0 ∧
      expiries es = 0 := by
  have hNone :
      ∀ e ∈ es,
        e.isPost = false ∧ e.isEntry = false ∧
          e.isExpiry = false :=
    fun e hMem => Event.uncounted_of_isCalm (hCalm e hMem)
  refine ⟨?_, ?_, ?_, ?_⟩
  · apply List.count_eq_zero.mpr
    intro hMem
    cases (hNone _ hMem).1
  · apply List.countP_eq_zero.mpr
    intro e hMem
    simp [(hNone e hMem).1]
  · apply List.countP_eq_zero.mpr
    intro e hMem
    simp [(hNone e hMem).2.1]
  · apply List.countP_eq_zero.mpr
    intro e hMem
    simp [(hNone e hMem).2.2]

------------------------------------------------------------
-- Waiters That Lack a Permit
------------------------------------------------------------

/-
  How many more waiters are registered than there are permits
  for them.
-/
def lacking (b : Bench) : Int :=
  b.cohort.registered - b.cohort.permits

/-
  What a move of an open bench is to the waiters that lack a
  permit: one more registers, a post serves one or finds none,
  one runs out of time, or none of this.
-/
inductive Tide (b b' : Bench) : List Event → Prop where
| enters {i : Nat}
    (hNumber : b'.lacking = b.lacking + 1) :
    Tide b b' [.enrolled i]
| serves
    (hSome : 0 < b.lacking)
    (hNumber : b'.lacking = b.lacking - 1) :
    Tide b b' [.posted (.woken 1)]
| spares
    (hNone : b.lacking = 0)
    (hNumber : b'.lacking = b.lacking) :
    Tide b b' [.posted .nobody]
| expires {i : Nat}
    (hPermits : b.cohort.permits = 0)
    (hNumber : b'.lacking = b.lacking - 1) :
    Tide b b' [.settled i .timedOut]
| stays {es : List Event}
    (hCalm : ∀ e ∈ es, e.isCalm = true)
    (hNumber : b'.lacking = b.lacking) :
    Tide b b' es

/- A waiter that settles on an open cohort. -/
theorem Seated.tide_settle
    {b : Bench}
    {i : Nat}
    {s : Seat}
    {v : Vigil}
    {o : Outcome}
    (hSeated : b.Seated)
    (hOpen : b.cohort.closed = false)
    (hSeat : b.seats[i]? = some s)
    (hUp : s = .fresh ∨ s = .awake v)
    (hLook :
      v.look (b.cohort.sighting b.clock) = .settle o) :
    b.Tide
      { b.setSeat i (.settled o) with
        cohort := b.cohort.settle o }
      [.settled i o] := by
  have hGrants := Vigil.grants_of_look hLook
  have hCounted :=
    hSeated.registered_pos hSeat (isLive_of_up hUp)
  cases o with
  | interrupted =>
      rw [show b.cohort.closed = true from hGrants] at hOpen
      cases hOpen
  | signaled =>
      -- It leaves together with the permit that it takes.
      have hPermit : 0 < b.cohort.permits := hGrants.2
      apply Tide.stays
      · simp [Event.isCalm]
      · simp only [lacking, Cohort.settle]
        omega
  | timedOut =>
      apply Tide.expires hGrants.2
      simp only [lacking, Cohort.settle]
      omega

/-
  A move that leaves an open bench open and takes back no
  registration is one of these.
-/
theorem Moves.tide
    {b b' : Bench}
    {es : List Event}
    (hMoves : b.Moves b' es)
    (hSeated : b.Seated)
    (hBacked : b.Backed)
    (hOpen : b.cohort.closed = false)
    (hKept : ∀ i, Event.withdrew i ∉ es) :
    b.Tide b' es := by
  have hCovered := hBacked hOpen
  cases hMoves with
  | enroll =>
      apply Tide.enters
      simp only [lacking, Cohort.enroll]
      omega
  | @withdraw i hSeat =>
      exact absurd List.mem_cons_self (hKept i)
  | settle hSeat hUp hLook =>
      exact hSeated.tide_settle hOpen hSeat hUp hLook
  | @park i s v v' wakeAt stalled hSeat hUp hLook =>
      refine .stays ?_ rfl
      intro e hMem
      rcases Option.map_eq_some_iff.mp
          (Option.mem_toList.mp hMem) with ⟨d, _, rfl⟩
      rfl
  | post hStill hLacks =>
      apply Tide.serves
      · simp only [lacking]
        omega
      · simp only [lacking]
        omega
  | drop hDropped =>
      rcases hDropped with hClosed | hLe
      · rw [hOpen] at hClosed
        cases hClosed
      · refine .spares ?_ rfl
        simp only [lacking]
        omega
  | close hStill => exact .stays (by simp [Event.isCalm]) rfl
  | closeAgain hClosed =>
      exact .stays (by simp [Event.isCalm]) rfl
  | _ =>
      refine .stays ?_ rfl
      intro e hMem
      cases hMem

------------------------------------------------------------
-- Whole Stretches
------------------------------------------------------------

/-
  Whoever lacks a permit at the start or registers later is
  served by a post, runs out of time, or lacks one at the end.
-/
theorem Tide.balance
    {b b' : Bench}
    {es : List Event}
    (hTide : b.Tide b' es) :
    b'.lacking + sent es + expiries es =
      b.lacking + entries es := by
  cases hTide with
  | enters hNumber =>
      rw [hNumber]
      simp [sent, expiries, entries, Event.isExpiry,
        Event.isEntry]
  | serves hSome hNumber =>
      rw [hNumber]
      simp [sent, expiries, entries, Event.isExpiry,
        Event.isEntry]
  | spares hNone hNumber =>
      rw [hNumber]
      simp [sent, expiries, entries, Event.isExpiry,
        Event.isEntry]
  | expires hPermits hNumber =>
      rw [hNumber]
      simp [sent, expiries, entries, Event.isExpiry,
        Event.isEntry]
  | stays hCalm hNumber =>
      have hCounts := counts_of_calm hCalm
      rw [hNumber, hCounts.1, hCounts.2.2.1, hCounts.2.2.2]
      simp

/-
  If posts have served so many waiters out of `n` that lacked
  a permit and no other came or went, then each post serves
  one more until all are served.
-/
theorem Tide.sent_eq_min
    {b b' : Bench}
    {es : List Event}
    {n : Int}
    {served made : Nat}
    (hTide : b.Tide b' es)
    (hLeft : b.lacking + served = n)
    (hMin : (served : Int) = min (made : Int) n)
    (hEntries : entries es = 0)
    (hExpiries : expiries es = 0) :
    ((served + sent es : Nat) : Int) =
      min ((made + posts es : Nat) : Int) n := by
  cases hTide with
  | enters hNumber => cases hEntries
  | serves hSome hNumber =>
      have hOne : sent [.posted (.woken 1)] = 1 := rfl
      have hPost : posts [.posted (.woken 1)] = 1 := rfl
      rw [hOne, hPost]
      omega
  | spares hNone hNumber =>
      have hNoOne : sent [.posted .nobody] = 0 := rfl
      have hPost : posts [.posted .nobody] = 1 := rfl
      rw [hNoOne, hPost]
      omega
  | expires hPermits hNumber => cases hExpiries
  | stays hCalm hNumber =>
      have hCounts := counts_of_calm hCalm
      rw [hCounts.1, hCounts.2.1]
      exact hMin

/-
  What is kept along a stretch on which no registration is
  taken back: the balance, and the number of posts received
  if nobody else came or went.
-/
structure Tallies
    (start : Bench)
    (past : List Event)
    (b : Bench) : Prop where
  seated : b.Seated
  backed : b.Backed
  balance :
    b.lacking + sent past + expiries past =
      start.lacking + entries past
  served :
    entries past = 0 →
      expiries past = 0 →
        (sent past : Int) =
          min (posts past : Int) start.lacking

/- A move on such a stretch keeps the tallies. -/
theorem Tallies.moves
    {start b b' : Bench}
    {past es : List Event}
    (hTallies : Tallies start past b)
    (hMoves : b.Moves b' es)
    (hOpen : b'.cohort.closed = false)
    (hKept : ∀ i, Event.withdrew i ∉ es) :
    Tallies start (past ++ es) b' := by
  have hTide :=
    hMoves.tide hTallies.seated hTallies.backed
      (hMoves.open_before hOpen) hKept
  have hBefore := hTallies.balance
  have hStep := hTide.balance
  refine
    ⟨hTallies.seated.moves hMoves,
      hTallies.backed.moves hMoves hKept, ?_, ?_⟩
  · rw [sent_append, expiries_append, entries_append]
    push_cast
    omega
  · intro hEntries hExpiries
    rw [entries_append] at hEntries
    rw [expiries_append] at hExpiries
    have hNoEntry : entries past = 0 := by omega
    have hNoExpiry : expiries past = 0 := by omega
    rw [sent_append, posts_append]
    apply hTide.sent_eq_min
    · rw [hNoEntry, hNoExpiry] at hBefore
      omega
    · exact hTallies.served hNoEntry hNoExpiry
    · omega
    · omega

/- So does the whole stretch. -/
theorem tallies_of_run
    {start b : Bench}
    {as : List Action}
    {es : List Event}
    (hSeated : start.Seated)
    (hBacked : start.Backed)
    (hRun : start.run as = some (b, es))
    (hKept : ∀ i, Event.withdrew i ∉ es)
    (hOpen : b.cohort.closed = false) :
    Tallies start es b := by
  have hFirst : 0 ≤ start.lacking := by
    have hCovered :=
      hBacked (open_before_of_run hRun hOpen)
    simp only [lacking]
    omega
  have hStart : Tallies start [] start := by
    refine ⟨hSeated, hBacked, ?_, ?_⟩
    · simp [sent, expiries, entries]
    · intro _ _
      exact (Int.min_eq_left hFirst).symm
  have hAll :=
    run_induction
      (P := fun b past =>
        (∀ i, Event.withdrew i ∉ past) →
          b.cohort.closed = false → Tallies start past b)
      (fun hOld hMoves hNone hStill =>
        (hOld
            (fun i hMem =>
              hNone i (List.mem_append_left _ hMem))
            (hMoves.open_before hStill)).moves
          hMoves hStill
          (fun i hMem =>
            hNone i (List.mem_append_right _ hMem)))
      [] (fun _ _ => hStart) hRun
  exact hAll hKept hOpen

------------------------------------------------------------
-- Storms
------------------------------------------------------------

/-
  However posts, registrations, and the ends of waits follow
  one another on an open cohort from which no registration is
  taken back.  The number of waiters that lack a permit is
  never negative.  A post is received if there are any, and
  then there is one less; a waiter that takes a permit leaves
  their number alone; one that registers adds one; and one
  that runs out of time has found no permit and takes one
  away.  So along any stretch the posts received are as many
  as the waiters lacking a permit at its start and those that
  register, without those that run out of time and those still
  lacking one at its end.  If nobody registers or runs out of
  time, every post is received until nobody lacks a permit.
-/
theorem storm_total
    (epoch : Nat)
    {before stretch : List Action}
    {b b' : Bench}
    {past es : List Event}
    (hBefore : (fresh epoch).run before = some (b, past))
    (hStretch : b.run stretch = some (b', es))
    (hKept : ∀ i, Event.withdrew i ∉ past ++ es)
    (hOpen : b'.cohort.closed = false) :
    0 ≤ b.lacking ∧
    (∀ a b₁ es₁,
      b.step a = some (b₁, es₁) →
        (∀ i, Event.withdrew i ∉ es₁) →
          (∀ r, .posted r ∈ es₁ →
            (r = .woken 1 ∧ 0 < b.lacking ∧
              b₁.lacking = b.lacking - 1) ∨
            (r = .nobody ∧ b.lacking = 0 ∧
              b₁.lacking = b.lacking)) ∧
          (∀ i, .settled i .signaled ∈ es₁ →
            b₁.lacking = b.lacking) ∧
          (∀ i, .enrolled i ∈ es₁ →
            b₁.lacking = b.lacking + 1) ∧
          (∀ i, .settled i .timedOut ∈ es₁ →
            b.cohort.permits = 0 ∧
              b₁.lacking = b.lacking - 1)) ∧
    (sent es : Int) =
      b.lacking + entries es - expiries es - b'.lacking ∧
    (entries es = 0 →
      expiries es = 0 →
        (sent es : Int) = min (posts es : Int) b.lacking) := by
  have hSeated := seated_of_run epoch hBefore
  have hBacked : b.Backed :=
    backed_of_run epoch hBefore
      (fun i hMem => hKept i (List.mem_append_left _ hMem))
  have hStill := open_before_of_run hStretch hOpen
  have hTallies :=
    tallies_of_run hSeated hBacked hStretch
      (fun i hMem => hKept i (List.mem_append_right _ hMem))
      hOpen
  have hBalance := hTallies.balance
  refine ⟨?_, ?_, ?_, hTallies.served⟩
  · have hCovered := hBacked hStill
    simp only [lacking]
    omega
  · intro a b₁ es₁ hStep hNone
    have hTide :=
      (moves_of_step hStep).tide hSeated hBacked hStill hNone
    cases hTide with
    | enters hNumber => simp [hNumber]
    | serves hSome hNumber => simp [hSome, hNumber]
    | spares hNobody hNumber => simp [hNobody, hNumber]
    | expires hPermits hNumber => simp [hPermits, hNumber]
    | stays hCalm hNumber =>
        refine ⟨?_, fun _ _ => hNumber, ?_, ?_⟩
        · intro r hMem
          cases hCalm _ hMem
        · intro i hMem
          cases hCalm _ hMem
        · intro i hMem
          cases hCalm _ hMem
  · omega

/-
  Three posts for two waiters, one of which takes its permit
  after the first post and before the others.
-/
theorem storm_total_two_of_three :
    ∃ b b' past es,
      (fresh 0).run [.enroll, .enroll] = some (b, past) ∧
      b.run [.post, .sit 0 none none, .post, .post] =
        some (b', es) ∧
      (∀ i, Event.withdrew i ∉ past ++ es) ∧
      b'.cohort.closed = false ∧
      b.lacking = 2 ∧ entries es = 0 ∧ expiries es = 0 ∧
      (∀ b₁ es₁,
        b.step .post = some (b₁, es₁) →
          .posted (.woken 1) ∈ es₁ →
            (∀ i, Event.withdrew i ∉ es₁) →
              b₁.lacking = 1) ∧
      (sent es : Int) = min (posts es : Int) 2 := by
  have hBefore :
      (fresh 0).run [.enroll, .enroll] =
        some
          (⟨⟨0, 2, 0, false⟩, [.fresh, .fresh], 0, false,
              ⟨0⟩⟩,
            [.enrolled 0, .enrolled 1]) := by
    decide
  have hStretch :
      (⟨⟨0, 2, 0, false⟩, [.fresh, .fresh], 0, false,
          ⟨0⟩⟩ : Bench).run
          [.post, .sit 0 none none, .post, .post] =
        some
          (⟨⟨0, 1, 1, false⟩,
              [.settled .signaled, .fresh], 2, false, ⟨0⟩⟩,
            [.posted (.woken 1), .settled 0 .signaled,
              .posted (.woken 1), .posted .nobody]) := by
    decide
  have hKept :
      ∀ i,
        Event.withdrew i ∉
          [Event.enrolled 0, .enrolled 1] ++
            [.posted (.woken 1), .settled 0 .signaled,
              .posted (.woken 1), .posted .nobody] := by
    simp
  rcases storm_total 0 hBefore hStretch hKept rfl with
    ⟨_, hSteps, _, hServed⟩
  refine
    ⟨_, _, _, _, hBefore, hStretch, hKept, rfl, rfl, rfl, rfl,
      ?_, hServed rfl rfl⟩
  intro b₁ es₁ hPost hMem hNone
  rcases (hSteps _ _ _ hPost hNone).1 _ hMem with
    ⟨_, _, hNumber⟩ | ⟨hNobody, _⟩
  · exact hNumber
  · cases hNobody

end Bench

end CondVar
