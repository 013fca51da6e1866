import CondVar.Limits
import CondVar.Misuse

/-
  The number of threads inside a wait, kept in one 64-bit
  word.

  Every entry adds one and every exit takes one away, and
  only then is it checked that the word did not wrap.  An
  entry or exit that is refused has therefore already moved
  the count.

  Key definitions include:
    * `Tally`
    * `Tally.add`
    * `Tally.remove`
    * `Tally.text`

  That an entry and an exit undo each other, refused or not,
  is proven by
    * `Tally.remove_add`
    * `Tally.add_remove`
-/

namespace CondVar

------------------------------------------------------------
-- Counting Waiters
------------------------------------------------------------

/- The number of waiters, modulo the range of its word. -/
structure Tally where
  count : UInt64
deriving DecidableEq

namespace Tally

/- Nobody waits. -/
def empty : Tally :=
  ⟨0⟩

/- Whether anybody waits. -/
def hasWaiters (t : Tally) : Bool :=
  0 < t.count

/-
  Count one more waiter.  From the largest count the word
  goes back to zero, and the entry is refused.
-/
def add (t : Tally) : Tally × Option Misuse :=
  (⟨t.count + 1⟩,
    if t.count = Limits.maxWaiters then
      some (.overflow Limits.maxWaiters)
    else
      none)

/-
  Count one waiter less.  From zero the word goes to the
  largest count, and the exit is refused.
-/
def remove (t : Tally) : Tally × Option Misuse :=
  (⟨t.count - 1⟩,
    if t.count = 0 then some .underflow else none)

/- An entry adds one, modulo the range of the word. -/
theorem toNat_count_add
    (t : Tally) :
    t.add.1.count.toNat =
      (t.count.toNat + 1) % 18_446_744_073_709_551_616 :=
  UInt64.toNat_add t.count 1

/- An exit takes back what an entry has added. -/
theorem remove_add
    (t : Tally) :
    t.add.1.remove.1 = t := by
  cases t with
  | mk n => exact congrArg mk (UInt64.add_sub_cancel n 1)

/- An entry takes back what an exit has taken away. -/
theorem add_remove
    (t : Tally) :
    t.remove.1.add.1 = t := by
  cases t with
  | mk n => exact congrArg mk (UInt64.sub_add_cancel n 1)

/- An exit takes one away, if there is one to take away. -/
theorem toNat_count_remove
    {t : Tally}
    (h : 0 < t.count.toNat) :
    t.remove.1.count.toNat + 1 = t.count.toNat := by
  have hBack := toNat_count_add t.remove.1
  rw [add_remove] at hBack
  have hLt := t.remove.1.count.toNat_lt
  omega

/- An entry is refused if the count is the largest. -/
theorem toNat_count_of_add_refused
    {t : Tally}
    {misuse : Misuse}
    (h : t.add.2 = some misuse) :
    t.count.toNat + 1 = 18_446_744_073_709_551_616 := by
  unfold add at h
  split at h
  · rename_i hMax
    rw [hMax]
    rfl
  · cases h

/- An exit is refused if nobody is counted. -/
theorem toNat_count_of_remove_refused
    {t : Tally}
    {misuse : Misuse}
    (h : t.remove.2 = some misuse) :
    t.count.toNat = 0 := by
  unfold remove at h
  split at h
  · rename_i hZero
    rw [hZero]
    rfl
  · cases h

/- The written form of a tally. -/
def text (t : Tally) : String :=
  Text.record "WaiterCounter" [("count", toString t.count.toNat)]

end Tally

end CondVar
