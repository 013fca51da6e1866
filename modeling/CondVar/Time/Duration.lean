/-
  This file defines lengths of time as whole seconds and
  nanoseconds, with exact subtraction clamped at zero and
  the written form of a duration.

  Key definitions include:
    * `Duration`
    * `Duration.toNanos`
    * `Duration.ofNanos`
    * `Duration.sub`
    * `Duration.text`

  Subtraction borrows a second when it must; that it agrees
  with subtraction of nanoseconds is proven by
    * `Duration.toNanos_sub`
-/

namespace CondVar

------------------------------------------------------------
-- Durations
------------------------------------------------------------

/-
  A duration has seconds in 64 bits and fewer nanoseconds
  than a second holds.
-/
structure Duration where
  secs : Nat
  nanos : Nat
  secs_lt : secs < 18_446_744_073_709_551_616
  nanos_lt : nanos < 1_000_000_000
deriving DecidableEq

namespace Duration

/- The duration of given parts, if they are in range. -/
def make?
    (secs : Nat)
    (nanos : Nat) : Option Duration :=
  if h : secs < 18_446_744_073_709_551_616 ∧ nanos < 1_000_000_000 then
    some ⟨secs, nanos, h.1, h.2⟩
  else
    none

/- The empty duration. -/
def zero : Duration :=
  ⟨0, 0, by decide, by decide⟩

/- The longest duration. -/
def longest : Duration :=
  ⟨18_446_744_073_709_551_615, 999_999_999, by decide, by decide⟩

/- The length of a duration in nanoseconds. -/
def toNanos (d : Duration) : Nat :=
  d.secs * 1_000_000_000 + d.nanos

/-
  The duration of a number of nanoseconds, or the longest
  duration if there is none so long.
-/
def ofNanos (n : Nat) : Duration :=
  if h : n / 1_000_000_000 < 18_446_744_073_709_551_616 then
    ⟨n / 1_000_000_000, n % 1_000_000_000, h, Nat.mod_lt n (by decide)⟩
  else
    longest

/- A duration is zero when both of its parts are. -/
def IsZero (d : Duration) : Prop :=
  d.secs = 0 ∧ d.nanos = 0

instance (d : Duration) : Decidable d.IsZero := by
  unfold IsZero
  infer_instance

/-
  What is left of `d` after `e`, or zero when `e` is the
  longer one.
-/
def sub
    (d : Duration)
    (e : Duration) : Duration :=
  if h : d.nanos < e.nanos then
    if e.secs < d.secs then
      ⟨d.secs - 1 - e.secs, 1_000_000_000 + d.nanos - e.nanos,
        by have := d.secs_lt; omega,
        by omega⟩
    else
      zero
  else
    if e.secs ≤ d.secs then
      ⟨d.secs - e.secs, d.nanos - e.nanos,
        by have := d.secs_lt; omega,
        by have := d.nanos_lt; omega⟩
    else
      zero

/- Subtraction of durations is subtraction of nanoseconds. -/
theorem toNanos_sub
    (d : Duration)
    (e : Duration) :
    (d.sub e).toNanos = d.toNanos - e.toNanos := by
  have hd := d.nanos_lt
  have he := e.nanos_lt
  unfold sub toNanos
  split <;> split <;> simp only [zero] <;> omega

/- A duration is zero exactly when it has no nanoseconds. -/
theorem isZero_iff
    (d : Duration) :
    d.IsZero ↔ d.toNanos = 0 := by
  unfold IsZero toNanos
  omega

/- A duration is determined by its nanoseconds. -/
theorem toNanos_inj
    {d e : Duration}
    (h : d.toNanos = e.toNanos) :
    d = e := by
  have hd := d.nanos_lt
  have he := e.nanos_lt
  cases d with
  | mk s n _ _ =>
      cases e with
      | mk s' n' _ _ =>
          simp only [toNanos] at h
          simp only [mk.injEq]
          simp only at hd he
          omega

/- The longer of two durations. -/
def longer
    (d : Duration)
    (e : Duration) : Duration :=
  if d.toNanos ≤ e.toNanos then e else d

/- Whole milliseconds of a duration. -/
def millis (d : Duration) : Nat :=
  d.toNanos / 1_000_000

/- Whole microseconds of a duration. -/
def micros (d : Duration) : Nat :=
  d.toNanos / 1_000

------------------------------------------------------------
-- Written Durations
------------------------------------------------------------

/-
  The last `width` digits of a number, as digits of a
  fraction: zeros lead, and none trails.
-/
def fractionDigits
    (width : Nat)
    (part : Nat) : List Char :=
  let digits := Nat.toDigits 10 part
  let padded :=
    List.replicate (width - digits.length) '0' ++ digits
  (padded.reverse.dropWhile (· = '0')).reverse

/-
  A whole number and its exact fraction, whose denominator
  is ten to the power of `width`.
-/
def decimal
    (whole : Nat)
    (width : Nat)
    (part : Nat) : String :=
  if part = 0 then
    toString whole
  else
    toString whole ++ "." ++
      String.ofList (fractionDigits width part)

/-
  A duration is written in the largest unit that fits into
  it, followed by the exact fraction of that unit.
-/
def text (d : Duration) : String :=
  if 0 < d.secs then
    decimal d.secs 9 d.nanos ++ "s"
  else if 1_000_000 ≤ d.nanos then
    decimal (d.nanos / 1_000_000) 6 (d.nanos % 1_000_000) ++ "ms"
  else if 1_000 ≤ d.nanos then
    decimal (d.nanos / 1_000) 3 (d.nanos % 1_000) ++ "µs"
  else
    toString d.nanos ++ "ns"

end Duration

end CondVar
