import CondVar.Progress
import CondVar.Proofs.Counting
import Mathlib.Data.List.Infix

/-
  What the incidents of a call account for.

  A call with a condition evaluates it and blocks by turns,
  until an incident gives it a reason to end.  What it has
  left of its time, at each of its turns, is what its earlier
  incidents have not spent.  How often its condition is
  evaluated follows from how often blocking has ended without
  an interrupt.

  Main declarations:
    * `Turn.goes_of_next?`
    * `Turn.follow?_append`
    * `Turn.Accounted`
    * `Turn.Accounted.of_follow?`
    * `Turn.verdicts_of_follow?`
-/

namespace CondVar

variable {V : Type}

------------------------------------------------------------
-- Less Time
------------------------------------------------------------

namespace Duration

/- A duration without so many nanoseconds, or nothing. -/
def less
    (d : Duration)
    (n : Nat) : Duration :=
  .ofNanos (d.toNanos - n)

/- Exactly so many nanoseconds are missing, if there are. -/
theorem toNanos_less
    (d : Duration)
    (n : Nat) :
    (d.less n).toNanos = d.toNanos - n := by
  have hSecs := d.secs_lt
  have hNanos := d.nanos_lt
  have hFits :
      (d.toNanos - n) / 1_000_000_000 <
        18_446_744_073_709_551_616 := by
    unfold toNanos
    omega
  unfold less ofNanos
  rw [dif_pos hFits]
  exact Nat.div_add_mod' _ _

/- A duration from which nothing is taken is what it was. -/
theorem less_zero
    (d : Duration) :
    d.less 0 = d := by
  apply toNanos_inj
  rw [toNanos_less, Nat.sub_zero]

/- Nor is anything missing of the time a call has left. -/
theorem map_less_zero
    (b : Option Duration) :
    b.map (·.less 0) = b := by
  cases b with
  | none => rw [Option.map_none]
  | some d => rw [Option.map_some, less_zero]

/- What is taken in parts is taken together. -/
theorem less_less
    (d : Duration)
    (m n : Nat) :
    (d.less m).less n = d.less (m + n) := by
  apply toNanos_inj
  rw [toNanos_less, toNanos_less, toNanos_less]
  omega

end Duration

/- Blocking leaves what it has not spent. -/
theorem TimedReturn.remaining_ofWait
    (d elapsed : Duration)
    (o : Outcome) :
    (ofWait d elapsed o).remaining =
      d.less (Incident.blocked (some d) o elapsed).spent := by
  apply Duration.toNanos_inj
  rw [Duration.toNanos_less]
  cases o with
  | timedOut =>
      have hNothing :
          (ofWait d elapsed .timedOut).remaining = .zero :=
        rfl
      rw [hNothing, Incident.spent, Option.map_some,
        Option.getD_some, Nat.sub_self]
      rfl
  | signaled => exact Duration.toNanos_sub d elapsed
  | interrupted => exact Duration.toNanos_sub d elapsed

namespace Attempt

/- And so it does of the time that a call has left. -/
theorem left_eq
    (a : Attempt V)
    (elapsed : Duration)
    (o : Outcome) :
    a.left elapsed o =
      a.budget.map
        (·.less
          (Incident.blocked a.budget o elapsed).spent) := by
  unfold left
  cases a.budget with
  | none => rw [Option.map_none, Option.map_none]
  | some d =>
      rw [Option.map_some, Option.map_some,
        TimedReturn.remaining_ofWait]

/-
  A call with a condition blocks after an evaluation unless
  that is a reason to end.
-/
theorem judge_eq
    {a : Attempt V}
    {p : Predicate V}
    (hCondition : a.condition = some p)
    (v : V) :
    (a.judge v).1 =
      match (Incident.judged a.budget
          (p.judge a.seen v).1).ending? with
      | some e => .finish e
      | none => .block { a with seen := v :: a.seen } := by
  simp only [judge, hCondition]
  rcases p.judge a.seen v with ⟨verdict, w⟩
  cases verdict with
  | clear => rfl
  | abort message => rfl
  | keepWaiting =>
      unfold exhausted Incident.ending?
      cases a.budget with
      | none => rfl
      | some d =>
          by_cases hZero : d.IsZero
          · simp [hZero]
          · simp [hZero]

/-
  It evaluates its condition again after blocking unless it
  was interrupted.
-/
theorem resume_eq
    {a : Attempt V}
    {p : Predicate V}
    (hCondition : a.condition = some p)
    (o : Outcome)
    (left : Option Duration) :
    a.resume o left =
      if o = .interrupted then
        .finish (.failed .interrupted)
      else
        .judge { a with budget := left } := by
  simp only [resume, hCondition, Outcome.isInterrupted,
    decide_eq_true_eq]

end Attempt

------------------------------------------------------------
-- One Incident
------------------------------------------------------------

/- One more incident spends what it spends. -/
theorem Incident.spentIn_concat
    (xs : List Incident)
    (x : Incident) :
    spentIn (xs ++ [x]) = spentIn xs + x.spent := by
  unfold spentIn
  rw [List.map_append, List.sum_append]
  rfl

/- An evaluation that ends no call has found time left. -/
theorem Incident.left_of_going
    {b : Option Duration}
    {verdict : Verdict}
    (hNone : (judged b verdict).ending? = none) :
    ∀ d, b = some d → 0 < d.toNanos := by
  rintro d rfl
  cases verdict with
  | clear => cases hNone
  | abort message => cases hNone
  | keepWaiting =>
      simp only [ending?] at hNone
      split at hNone
      · cases hNone
      · rename_i hSome
        rw [Duration.isZero_iff] at hSome
        exact Nat.pos_of_ne_zero hSome

/- The reasons for which a call with a condition ends. -/
theorem Incident.ending_iff
    {x : Incident}
    {b : Option Duration}
    (hBudget : x.budget = b)
    (e : Ending) :
    x.ending? = some e ↔
      (e = .cleared b ∧ x = .judged b .clear) ∨
      (e = .failed .interrupted ∧
        ∃ elapsed, x = .blocked b .interrupted elapsed) ∨
      (e = .failed .timeout ∧ x = .judged b .keepWaiting ∧
        ∃ d, b = some d ∧ d.toNanos = 0) ∨
      ∃ message,
        e = .aborted message ∧
          x = .judged b (.abort message) := by
  subst hBudget
  cases x with
  | judged b verdict =>
      cases verdict with
      | clear => simp [ending?, budget, eq_comm]
      | abort message => simp [ending?, budget, eq_comm]
      | keepWaiting =>
          cases b with
          | none => simp [ending?, budget]
          | some d =>
              simp [ending?, budget, Duration.isZero_iff,
                eq_comm, and_comm]
  | blocked b o elapsed =>
      cases o <;> simp [ending?, budget, eq_comm]

------------------------------------------------------------
-- One Answer
------------------------------------------------------------

namespace Turn

/- Whether a turn belongs to a call with this condition. -/
def IsOf
    (p : Predicate V) : Turn V → Prop
| .block a => a.condition = some p
| .judge a => a.condition = some p
| .finish _ => True

/-
  A call evaluates its condition, and then blocks unless that
  ends it.  It blocks, and then evaluates its condition again
  unless it was interrupted.
-/
inductive Goes (p : Predicate V) :
    Turn V → Answer V → Incident → Turn V → Prop where
| blocks {a : Attempt V} {v : V}
    (hNone :
      (Incident.judged a.budget
        (p.judge a.seen v).1).ending? = none) :
    Goes p (.judge a) (.value v)
      (.judged a.budget (p.judge a.seen v).1)
      (.block { a with seen := v :: a.seen })
| ends {a : Attempt V} {v : V} {e : Ending}
    (hEnding :
      (Incident.judged a.budget
        (p.judge a.seen v).1).ending? = some e) :
    Goes p (.judge a) (.value v)
      (.judged a.budget (p.judge a.seen v).1) (.finish e)
| judges {a : Attempt V} {o : Outcome} {elapsed : Duration}
    (hNot : o ≠ .interrupted) :
    Goes p (.block a) (.outcome o elapsed)
      (.blocked a.budget o elapsed)
      (.judge
        { a with
          budget :=
            a.budget.map
              (·.less
                (Incident.blocked a.budget o elapsed).spent) })
| breaks {a : Attempt V} {elapsed : Duration} :
    Goes p (.block a) (.outcome .interrupted elapsed)
      (.blocked a.budget .interrupted elapsed)
      (.finish (.failed .interrupted))

/- The answers to a call with a condition, one by one. -/
theorem goes_of_next?
    {p : Predicate V}
    {y y' : Turn V}
    {r : Answer V}
    {x : Incident}
    (hOf : y.IsOf p)
    (hNext : y.next? r = some (x, y')) :
    y.Goes p r x y' ∧ y'.IsOf p := by
  cases y with
  | finish e => cases hNext
  | judge a =>
      have hCondition : a.condition = some p := hOf
      cases r with
      | outcome o elapsed => cases hNext
      | value v =>
          have hVerdict : a.verdict v = (p.judge a.seen v).1 := by
            simp only [Attempt.verdict, hCondition]
          rw [next?, hVerdict, Attempt.judge_eq hCondition]
            at hNext
          split at hNext
          · rename_i e hEnding
            cases hNext
            exact ⟨.ends hEnding, trivial⟩
          · rename_i hNone
            cases hNext
            exact ⟨.blocks hNone, hCondition⟩
  | block a =>
      have hCondition : a.condition = some p := hOf
      cases r with
      | value v => cases hNext
      | outcome o elapsed =>
          rw [next?, Attempt.resume_eq hCondition,
            Attempt.left_eq] at hNext
          split at hNext
          · rename_i hInterrupted
            subst hInterrupted
            cases hNext
            exact ⟨.breaks, trivial⟩
          · rename_i hNot
            cases hNext
            exact ⟨.judges hNot, hCondition⟩

------------------------------------------------------------
-- Answers One After the Other
------------------------------------------------------------

/- A call that goes on follows its first answer, then the rest. -/
theorem follow?_cons_iff
    {y y'' : Turn V}
    {r : Answer V}
    {rs : List (Answer V)}
    {xs : List Incident} :
    y.follow? (r :: rs) = some (xs, y'') ↔
      ∃ x y' xs',
        y.next? r = some (x, y') ∧
          y'.follow? rs = some (xs', y'') ∧
          xs = x :: xs' := by
  rw [follow?]
  constructor
  · intro hFollow
    rcases Option.bind_eq_some_iff.mp hFollow with
      ⟨⟨x, y'⟩, hNext, hRest⟩
    rcases Option.bind_eq_some_iff.mp hRest with
      ⟨⟨xs', y₂⟩, hFollow', hEq⟩
    cases hEq
    exact ⟨x, y', xs', hNext, hFollow', rfl⟩
  · rintro ⟨x, y', xs', hNext, hFollow, rfl⟩
    simp only [hNext, hFollow, Option.bind_eq_bind,
      Option.bind_some, Option.pure_def]

/- What follows answers and then others follows them all. -/
theorem follow?_append
    {y y' y'' : Turn V}
    {rs rs' : List (Answer V)}
    {xs xs' : List Incident}
    (hFirst : y.follow? rs = some (xs, y'))
    (hThen : y'.follow? rs' = some (xs', y'')) :
    y.follow? (rs ++ rs') = some (xs ++ xs', y'') := by
  induction rs generalizing y xs with
  | nil =>
      cases hFirst
      exact hThen
  | cons r rs ih =>
      rcases follow?_cons_iff.mp hFirst with
        ⟨x, y₁, xs₁, hNext, hFollow, rfl⟩
      exact
        follow?_cons_iff.mpr
          ⟨x, y₁, xs₁ ++ xs', hNext, ih hFollow, rfl⟩

/- A call that has ended follows no answer. -/
theorem follow?_finish
    {e : Ending}
    {y : Turn V}
    {rs : List (Answer V)}
    {xs : List Incident}
    (hFollow : (finish e).follow? rs = some (xs, y)) :
    rs = [] ∧ xs = [] ∧ y = .finish e := by
  cases rs with
  | nil =>
      cases hFollow
      exact ⟨rfl, rfl, rfl⟩
  | cons r rs => cases hFollow

/-
  What holds of a call with a condition at its turn, and of
  its incidents, before every answer and after it holds after
  all answers.
-/
theorem invariant_of_follow?
    {P : List Incident → Turn V → Prop}
    {p : Predicate V}
    {y y' : Turn V}
    {rs : List (Answer V)}
    {past xs : List Incident}
    (hOf : y.IsOf p)
    (hStart : P past y)
    (hGoes :
      ∀ {past y r x y'},
        P past y → Goes p y r x y' → P (past ++ [x]) y')
    (hFollow : y.follow? rs = some (xs, y')) :
    P (past ++ xs) y' := by
  induction rs generalizing y past xs with
  | nil =>
      cases hFollow
      rw [List.append_nil]
      exact hStart
  | cons r rs ih =>
      rcases follow?_cons_iff.mp hFollow with
        ⟨x, y₁, xs₁, hNext, hRest, rfl⟩
      rcases goes_of_next? hOf hNext with ⟨hStep, hOf'⟩
      rw [List.append_cons]
      exact ih hOf' (hGoes hStart hStep) hRest

------------------------------------------------------------
-- What Incidents Account For
------------------------------------------------------------

/- Whether a call is to evaluate its condition. -/
def judges : Turn V → Bool
| .judge _ => true
| _ => false

/-
  The incidents of a call with a condition and a limit, and
  its turn after them.

  `judging`, `blocking`: at its turn a call has left what its
  incidents have not spent, and something if it blocks.
  `told`: so it had at each of its incidents, and it evaluated
  its condition and blocked by turns.  `going`, `ended`: a
  call ends with the first reason to.  `counted`: it has
  evaluated its condition once at first, and once for each
  time that blocking ended without an interrupt, the last of
  them if it is not about to.
-/
structure Accounted
    (limit : Option Duration)
    (xs : List Incident)
    (y : Turn V) : Prop where
  judging :
    ∀ a, y = .judge a →
      xs.length % 2 = 0 ∧
        a.budget = limit.map (·.less (Incident.spentIn xs))
  blocking :
    ∀ a, y = .block a →
      xs.length % 2 = 1 ∧
        a.budget = limit.map (·.less (Incident.spentIn xs)) ∧
        ∀ d, a.budget = some d → 0 < d.toNanos
  told :
    ∀ i x, xs[i]? = some x →
      (x.isBlock = true ↔ i % 2 = 1) ∧
        x.budget =
          limit.map (·.less (Incident.spentIn (xs.take i))) ∧
        ∀ d,
          x.isBlock = true → x.budget = some d → 0 < d.toNanos
  going :
    (∀ e, y ≠ .finish e) → ∀ x ∈ xs, x.ending? = none
  ended :
    ∀ e, y = .finish e →
      ∃ earlier x,
        xs = earlier ++ [x] ∧ x.ending? = some e ∧
          ∀ x' ∈ earlier, x'.ending? = none
  counted :
    xs.countP Incident.isEvaluation + y.judges.toNat =
      xs.countP Incident.isSignaled +
        xs.countP Incident.isLate + 1

/- A call begins with a turn of its own. -/
theorem isOf_begin
    {c : Call V}
    {p : Predicate V}
    (hCondition : c.condition = some p) :
    c.begin.IsOf p := by
  unfold Call.begin
  rw [hCondition]
  exact rfl

/- Nothing has happened before the first turn of a call. -/
theorem accounted_begin
    {c : Call V}
    {p : Predicate V}
    (hCondition : c.condition = some p) :
    Accounted c.limit [] c.begin := by
  unfold Call.begin
  rw [hCondition]
  refine
    { judging := ?_
      blocking := nofun
      told := nofun
      going := nofun
      ended := nofun
      counted := rfl }
  intro a hTurn
  cases hTurn
  exact ⟨rfl, (Duration.map_less_zero c.limit).symm⟩

/-
  In a list with one more entry, an entry is that one or was
  there before.
-/
theorem getElem?_concat_cases
    {α : Type}
    {xs : List α}
    {x z : α}
    {i : Nat}
    (hGet : (xs ++ [x])[i]? = some z) :
    (xs[i]? = some z ∧ (xs ++ [x]).take i = xs.take i) ∨
      (i = xs.length ∧ z = x ∧ (xs ++ [x]).take i = xs) := by
  rcases Nat.lt_trichotomy i xs.length with hLt | rfl | hGt
  · rw [List.getElem?_append_left hLt] at hGet
    exact
      Or.inl
        ⟨hGet, List.take_append_of_le_length (Nat.le_of_lt hLt)⟩
  · rw [List.getElem?_concat_length] at hGet
    exact
      Or.inr
        ⟨rfl, (Option.some.inj hGet).symm, List.take_left⟩
  · have hLong : (xs ++ [x]).length ≤ i := by
      rw [List.length_append]
      exact hGt
    rw [List.getElem?_eq_none hLong] at hGet
    cases hGet

namespace Accounted

variable {limit : Option Duration}
variable {xs : List Incident}
variable {y : Turn V}

/- What an incident has not spent is left after it. -/
theorem left_concat
    {b : Option Duration}
    (x : Incident)
    (hBudget :
      b = limit.map (·.less (Incident.spentIn xs))) :
    b.map (·.less x.spent) =
      limit.map (·.less (Incident.spentIn (xs ++ [x]))) := by
  rw [hBudget, Incident.spentIn_concat]
  cases limit with
  | none => rw [Option.map_none, Option.map_none, Option.map_none]
  | some d =>
      rw [Option.map_some, Option.map_some, Option.map_some,
        Duration.less_less]

/- The next incident is told of as the earlier ones are. -/
theorem told_concat
    (hAccounted : Accounted limit xs y)
    {x : Incident}
    (hParity : x.isBlock = true ↔ xs.length % 2 = 1)
    (hBudget :
      x.budget = limit.map (·.less (Incident.spentIn xs)))
    (hLeft :
      ∀ d,
        x.isBlock = true → x.budget = some d → 0 < d.toNanos) :
    ∀ i z, (xs ++ [x])[i]? = some z →
      (z.isBlock = true ↔ i % 2 = 1) ∧
        z.budget =
          limit.map
            (·.less
              (Incident.spentIn ((xs ++ [x]).take i))) ∧
        ∀ d,
          z.isBlock = true → z.budget = some d →
            0 < d.toNanos := by
  intro i z hGet
  rcases getElem?_concat_cases hGet with
    ⟨hOld, hTake⟩ | ⟨rfl, rfl, hTake⟩
  · rw [hTake]
    exact hAccounted.told i z hOld
  · rw [hTake]
    exact ⟨hParity, hBudget, hLeft⟩

/- A call without a reason to end has had none. -/
theorem going_concat
    (hAccounted : Accounted limit xs y)
    (hGoing : ∀ e, y ≠ .finish e)
    {x : Incident}
    (hNone : x.ending? = none) :
    ∀ z ∈ xs ++ [x], z.ending? = none := by
  intro z hMem
  rcases List.mem_append.mp hMem with hOld | hNew
  · exact hAccounted.going hGoing z hOld
  · rw [List.mem_singleton.mp hNew]
    exact hNone

/- An incident moves its count as it moves the turn. -/
theorem counted_concat
    (hAccounted : Accounted limit xs y)
    {y' : Turn V}
    {x : Incident}
    (hOne :
      x.isEvaluation.toNat + y'.judges.toNat =
        x.isSignaled.toNat + x.isLate.toNat +
          y.judges.toNat) :
    (xs ++ [x]).countP Incident.isEvaluation +
        y'.judges.toNat =
      (xs ++ [x]).countP Incident.isSignaled +
        (xs ++ [x]).countP Incident.isLate + 1 := by
  have hCounted := hAccounted.counted
  simp only [List.countP_append, countP_one]
  omega

/- The next incident is accounted for as well. -/
theorem goes
    {p : Predicate V}
    {y' : Turn V}
    {r : Answer V}
    {x : Incident}
    (hAccounted : Accounted limit xs y)
    (hGoes : y.Goes p r x y') :
    Accounted limit (xs ++ [x]) y' := by
  have hLength : (xs ++ [x]).length = xs.length + 1 :=
    List.length_append
  cases hGoes with
  | @blocks a v hNone =>
      rcases hAccounted.judging a rfl with ⟨hEven, hBudget⟩
      have hLeft :=
        left_concat
          (.judged a.budget (p.judge a.seen v).1) hBudget
      rw [Incident.spent, Duration.map_less_zero] at hLeft
      refine
        { judging := nofun
          blocking := ?_
          told :=
            hAccounted.told_concat
              (by simp [Incident.isBlock, hEven]) hBudget
              nofun
          going := fun _ => hAccounted.going_concat nofun hNone
          ended := nofun
          counted := hAccounted.counted_concat rfl }
      intro a' hTurn
      cases hTurn
      exact ⟨by omega, hLeft, Incident.left_of_going hNone⟩
  | @ends a v e hEnding =>
      rcases hAccounted.judging a rfl with ⟨hEven, hBudget⟩
      refine
        { judging := nofun
          blocking := nofun
          told :=
            hAccounted.told_concat
              (by simp [Incident.isBlock, hEven]) hBudget
              nofun
          going := fun hGoing => absurd rfl (hGoing e)
          ended := ?_
          counted := hAccounted.counted_concat rfl }
      intro e' hTurn
      cases hTurn
      exact ⟨xs, _, rfl, hEnding, hAccounted.going nofun⟩
  | @judges a o elapsed hNot =>
      rcases hAccounted.blocking a rfl with
        ⟨hOdd, hBudget, hLeft⟩
      refine
        { judging := ?_
          blocking := nofun
          told :=
            hAccounted.told_concat
              (by simp [Incident.isBlock, hOdd]) hBudget
              (fun d _ => hLeft d)
          going := fun _ => hAccounted.going_concat nofun ?_
          ended := nofun
          counted := hAccounted.counted_concat ?_ }
      · intro a' hTurn
        cases hTurn
        exact ⟨by omega, left_concat _ hBudget⟩
      · cases o with
        | interrupted => exact absurd rfl hNot
        | signaled => rfl
        | timedOut => rfl
      · cases o with
        | interrupted => exact absurd rfl hNot
        | signaled => rfl
        | timedOut => rfl
  | @breaks a elapsed =>
      rcases hAccounted.blocking a rfl with
        ⟨hOdd, hBudget, hLeft⟩
      refine
        { judging := nofun
          blocking := nofun
          told :=
            hAccounted.told_concat
              (by simp [Incident.isBlock, hOdd]) hBudget
              (fun d _ => hLeft d)
          going :=
            fun hGoing => absurd rfl (hGoing _)
          ended := ?_
          counted := hAccounted.counted_concat rfl }
      intro e' hTurn
      cases hTurn
      exact ⟨xs, _, rfl, rfl, hAccounted.going nofun⟩

/- All incidents of a call with a condition are accounted for. -/
theorem of_follow?
    {c : Call V}
    {p : Predicate V}
    {rs : List (Answer V)}
    (hCondition : c.condition = some p)
    (hFollow : c.begin.follow? rs = some (xs, y)) :
    Accounted c.limit xs y :=
  invariant_of_follow? (isOf_begin hCondition)
    (accounted_begin hCondition)
    (fun hAccounted hGoes => hAccounted.goes hGoes) hFollow

/- A call that has ended has done so with its last incident. -/
theorem finish_iff
    (hAccounted : Accounted limit xs y)
    (e : Ending) :
    y = .finish e ↔
      ∃ x, xs.getLast? = some x ∧ x.ending? = some e := by
  constructor
  · intro hEnd
    rcases hAccounted.ended e hEnd with
      ⟨earlier, x, rfl, hEnding, _⟩
    exact ⟨x, List.getLast?_concat, hEnding⟩
  · rintro ⟨x, hLast, hEnding⟩
    have hNotGoing : ¬ ∀ e', y ≠ .finish e' := by
      intro hGoing
      have hNone :=
        hAccounted.going hGoing x (List.mem_of_getLast? hLast)
      rw [hNone] at hEnding
      cases hEnding
    cases y with
    | block a => exact absurd nofun hNotGoing
    | judge a => exact absurd nofun hNotGoing
    | finish e' =>
        rcases hAccounted.ended e' rfl with
          ⟨earlier, x', rfl, hEnding', _⟩
        rw [List.getLast?_concat] at hLast
        cases hLast
        rw [hEnding] at hEnding'
        cases hEnding'
        rfl

/-
  A call ends for one of four reasons, with time left or none
  if it has a limit.
-/
theorem finish_iff_last
    (hAccounted : Accounted limit xs y)
    (e : Ending) :
    y = .finish e ↔
      ∃ b : Option Duration,
        b.isSome = limit.isSome ∧
        ((e = .cleared b ∧
            xs.getLast? = some (.judged b .clear)) ∨
          (e = .failed .interrupted ∧
            ∃ elapsed,
              xs.getLast? =
                some (.blocked b .interrupted elapsed)) ∨
          (e = .failed .timeout ∧
            xs.getLast? = some (.judged b .keepWaiting) ∧
            ∃ d, b = some d ∧ d.toNanos = 0) ∨
          ∃ message,
            e = .aborted message ∧
              xs.getLast? =
                some (.judged b (.abort message))) := by
  rw [hAccounted.finish_iff]
  constructor
  · rintro ⟨x, hLast, hEnding⟩
    have hGet : xs[xs.length - 1]? = some x := by
      rw [← List.getLast?_eq_getElem?, hLast]
    have hBudget := (hAccounted.told _ x hGet).2.1
    have hSome : x.budget.isSome = limit.isSome := by
      rw [hBudget, Option.isSome_map]
    rw [hLast]
    refine ⟨x.budget, hSome, ?_⟩
    rcases (Incident.ending_iff rfl e).mp hEnding with
      ⟨hEnd, hIs⟩ | ⟨hEnd, elapsed, hIs⟩ |
      ⟨hEnd, hIs, hNothing⟩ | ⟨message, hEnd, hIs⟩
    · exact Or.inl ⟨hEnd, congrArg some hIs⟩
    · exact
        Or.inr (Or.inl ⟨hEnd, elapsed, congrArg some hIs⟩)
    · exact
        Or.inr
          (Or.inr (Or.inl ⟨hEnd, congrArg some hIs, hNothing⟩))
    · exact
        Or.inr
          (Or.inr (Or.inr ⟨message, hEnd, congrArg some hIs⟩))
  · rintro ⟨b, _, hReason⟩
    rcases hReason with
      ⟨rfl, hLast⟩ | ⟨rfl, elapsed, hLast⟩ |
      ⟨rfl, hLast, hNothing⟩ | ⟨message, rfl, hLast⟩
    · exact ⟨_, hLast, rfl⟩
    · exact ⟨_, hLast, rfl⟩
    · exact
        ⟨_, hLast,
          (Incident.ending_iff rfl _).mpr
            (Or.inr (Or.inr (Or.inl ⟨rfl, rfl, hNothing⟩)))⟩
    · exact ⟨_, hLast, rfl⟩

/- Before its last incident a call has no reason to end. -/
theorem ending_of_mem_dropLast
    (hAccounted : Accounted limit xs y)
    {x : Incident}
    (hMem : x ∈ xs.dropLast) :
    x.ending? = none := by
  cases y with
  | block a =>
      exact
        hAccounted.going nofun x (List.mem_of_mem_dropLast hMem)
  | judge a =>
      exact
        hAccounted.going nofun x (List.mem_of_mem_dropLast hMem)
  | finish e =>
      rcases hAccounted.ended e rfl with
        ⟨earlier, x', rfl, _, hNone⟩
      rw [List.dropLast_concat] at hMem
      exact hNone x hMem

end Accounted

/- The values that the condition of a call was shown before. -/
def seen : Turn V → List V
| .block a => a.seen
| .judge a => a.seen
| .finish _ => []

/-
  Whatever a call is told, its evaluations say what its
  condition says of the values that it is shown.
-/
theorem verdicts_of_follow?
    {p : Predicate V}
    {y y' : Turn V}
    {rs : List (Answer V)}
    {xs : List Incident}
    (hOf : y.IsOf p)
    (hFollow : y.follow? rs = some (xs, y')) :
    xs.filterMap Incident.verdict? =
      p.verdicts y.seen (rs.filterMap Answer.value?) := by
  induction rs generalizing y xs with
  | nil =>
      cases hFollow
      rfl
  | cons r rs ih =>
      rcases follow?_cons_iff.mp hFollow with
        ⟨x, y₁, xs₁, hNext, hRest, rfl⟩
      rcases goes_of_next? hOf hNext with ⟨hGoes, hOf'⟩
      have hLater := ih hOf' hRest
      cases hGoes with
      | blocks hNone => exact congrArg _ hLater
      | judges hNot => exact hLater
      | breaks =>
          rcases follow?_finish hRest with ⟨rfl, rfl, _⟩
          rfl
      | ends hEnding =>
          rcases follow?_finish hRest with ⟨rfl, rfl, _⟩
          rfl

end Turn

end CondVar
