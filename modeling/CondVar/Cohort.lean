import CondVar.Outcome

/-
  The waiters of one epoch.

  A cohort counts its registered waiters and the permits
  that signals have left for them, and it is closed once, by
  the interrupt that ends its epoch.  A signal leaves a
  permit only while some registered waiter has none to look
  forward to; otherwise it is dropped.

  Key definitions include:
    * `Cohort`
    * `Cohort.enroll`
    * `Cohort.withdraw`
    * `Cohort.post`
    * `Cohort.close`
    * `Cohort.settle`

  The operations are the locked sections of the cohort: each
  happens in one step.  Who is told of a post or of the close
  is not decided here.

  When a post is received, and that a close is for good, is
  proven by
    * `Cohort.post_eq_woken_iff`
    * `Cohort.close_of_closed`
-/

namespace CondVar

------------------------------------------------------------
-- Cohorts
------------------------------------------------------------

/-
  One epoch's waiters, permits, and whether it is over.

  The numbers have no bound.  They stand for words of a
  machine as long as there are fewer than 2^64 interrupts, and
  fewer than 2^64 registrations at a time.
-/
structure Cohort where
  epoch : Nat
  registered : Nat
  permits : Nat
  closed : Bool
deriving DecidableEq

namespace Cohort

/- An open cohort without waiters. -/
def fresh (epoch : Nat) : Cohort :=
  ⟨epoch, 0, 0, false⟩

/- One more waiter registers. -/
def enroll (c : Cohort) : Cohort :=
  { c with registered := c.registered + 1 }

/-
  A registration is taken back unused.  A permit that was
  left for it stays.
-/
def withdraw (c : Cohort) : Cohort :=
  { c with registered := c.registered - 1 }

/- Leave one permit if the waiters have use for it. -/
def post (c : Cohort) : Cohort × WakeReport :=
  if c.closed ∨ c.registered ≤ c.permits then
    (c, .nobody)
  else
    ({ c with permits := c.permits + 1 }, .woken 1)

/- End the epoch, once, and report whom that concerns. -/
def close (c : Cohort) : Cohort × WakeReport :=
  if c.closed then
    (c, .nobody)
  else
    ({ c with closed := true }, .ofCount c.registered)

/-
  A waiter's registration ends with its wait.  A signaled
  waiter takes a permit along.
-/
def settle
    (c : Cohort)
    (o : Outcome) : Cohort :=
  match o with
  | .signaled =>
      { c with
        registered := c.registered - 1
        permits := c.permits - 1 }
  | .interrupted | .timedOut =>
      { c with registered := c.registered - 1 }

------------------------------------------------------------
-- Posts and Closes
------------------------------------------------------------

/-
  A post is received exactly if the cohort is open and some
  registered waiter has no permit to look forward to.
-/
theorem post_eq_woken_iff
    (c : Cohort) :
    c.post.2 = .woken 1 ↔
      c.closed = false ∧ c.permits < c.registered := by
  unfold post
  split
  · rename_i h
    constructor
    · intro hw
      cases hw
    · rintro ⟨hc, hp⟩
      rcases h with h | h
      · rw [hc] at h
        cases h
      · omega
  · rename_i h
    rw [not_or] at h
    constructor
    · intro _
      exact ⟨Bool.eq_false_iff.mpr h.1, by omega⟩
    · intro _
      rfl

/- A post leaves as many permits as it reports. -/
theorem permits_post
    (c : Cohort) :
    c.post.1.permits = c.permits + c.post.2.count := by
  unfold post
  split
  · rfl
  · rfl

/- A cohort that was closed cannot be closed again. -/
theorem close_of_closed
    {c : Cohort}
    (h : c.closed = true) :
    c.close = (c, .nobody) := by
  unfold close
  rw [if_pos h]

/- A cohort is closed from its first close on. -/
theorem closed_close
    (c : Cohort) :
    c.close.1.closed = true := by
  unfold close
  split
  · assumption
  · rfl

end Cohort

end CondVar
