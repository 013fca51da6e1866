import CondVar.Proofs.Pursuit

/-
  How a call with a limit spends its time.

  Each time that the call blocks it may use what its earlier
  blocking has left.  It never blocks without time left, and
  when its time has run out, it evaluates its condition once
  more and then ends in any case.

  Main declarations:
    * `Turn.Accounted.budget_of_limit`
    * `Turn.Accounted.spent_of_late`
    * `Turn.Accounted.last_look`
    * `Turn.budget_spent`
-/

namespace CondVar

variable {V : Type}

------------------------------------------------------------
-- Time Spent
------------------------------------------------------------

namespace Incident

/- More incidents have spent no less. -/
theorem spentIn_take_le
    (xs : List Incident)
    {i j : Nat}
    (hLe : i ≤ j) :
    spentIn (xs.take i) ≤ spentIn (xs.take j) := by
  have hSplit := List.take_append_drop i (xs.take j)
  rw [List.take_take, Nat.min_eq_left hLe] at hSplit
  rw [← hSplit]
  unfold spentIn
  rw [List.map_append, List.sum_append]
  exact Nat.le_add_right _ _

/- The first incidents and the next have spent what they did. -/
theorem spentIn_take_succ
    {xs : List Incident}
    {i : Nat}
    {x : Incident}
    (hGet : xs[i]? = some x) :
    spentIn (xs.take (i + 1)) =
      spentIn (xs.take i) + x.spent := by
  rw [List.take_add_one, hGet]
  exact spentIn_concat _ x

/- Time runs out only while a call blocks. -/
theorem isBlock_of_late
    {x : Incident}
    (hLate : x.isLate = true) :
    x.isBlock = true := by
  cases x with
  | judged b verdict => cases hLate
  | blocked b o elapsed => rfl

/- That alone is no reason to end. -/
theorem ending_of_late
    {x : Incident}
    (hLate : x.isLate = true) :
    x.ending? = none := by
  cases x with
  | judged b verdict => cases hLate
  | blocked b o elapsed =>
      have hTimedOut : o = .timedOut := of_decide_eq_true hLate
      subst hTimedOut
      rfl

/- An evaluation without time left is the end in any case. -/
theorem ending_of_spent
    {d : Duration}
    (hNothing : d.toNanos = 0)
    (verdict : Verdict) :
    ∃ e, (judged (some d) verdict).ending? = some e := by
  cases verdict with
  | clear => exact ⟨_, rfl⟩
  | abort message => exact ⟨_, rfl⟩
  | keepWaiting =>
      exact ⟨_, if_pos (d.isZero_iff.mpr hNothing)⟩

end Incident

------------------------------------------------------------
-- Time Left
------------------------------------------------------------

namespace Turn.Accounted

variable {timeout : Duration}
variable {xs : List Incident}
variable {y : Turn V}

/- What is left at an incident is what was not spent before. -/
theorem budget_of_limit
    (hAccounted : Accounted (some timeout) xs y)
    {i : Nat}
    {x : Incident}
    (hGet : xs[i]? = some x) :
    ∃ d,
      x.budget = some d ∧
        d.toNanos =
          timeout.toNanos -
            Incident.spentIn (xs.take i) ∧
        (x.isBlock = true → 0 < d.toNanos) := by
  rcases hAccounted.told i x hGet with ⟨_, hBudget, hLeft⟩
  rw [Option.map_some] at hBudget
  exact
    ⟨_, hBudget, Duration.toNanos_less _ _,
      fun hBlock => hLeft _ hBlock hBudget⟩

/- Once its time has run out, a call has spent all of it. -/
theorem spent_of_late
    (hAccounted : Accounted (some timeout) xs y)
    {i j : Nat}
    {x : Incident}
    (hGet : xs[i]? = some x)
    (hLate : x.isLate = true)
    (hLater : i < j) :
    timeout.toNanos ≤ Incident.spentIn (xs.take j) := by
  rcases hAccounted.budget_of_limit hGet with
    ⟨d, hBudget, hLeft, _⟩
  have hSpent : x.spent = d.toNanos := by
    cases x with
    | judged b verdict => cases hLate
    | blocked b o elapsed =>
        have hTimedOut : o = .timedOut := of_decide_eq_true hLate
        subst hTimedOut
        change b = some d at hBudget
        rw [hBudget]
        rfl
  have hMore := Incident.spentIn_take_le xs hLater
  rw [Nat.succ_eq_add_one, Incident.spentIn_take_succ hGet]
    at hMore
  omega

/- So it does not block again. -/
theorem no_block_after_late
    (hAccounted : Accounted (some timeout) xs y)
    {i j : Nat}
    {x x' : Incident}
    (hGet : xs[i]? = some x)
    (hLate : x.isLate = true)
    (hLater : i < j)
    (hGet' : xs[j]? = some x') :
    x'.isBlock = false := by
  have hSpent := hAccounted.spent_of_late hGet hLate hLater
  rcases hAccounted.budget_of_limit hGet' with
    ⟨d, _, hLeft, hSome⟩
  cases hBlock : x'.isBlock with
  | false => rfl
  | true =>
      have hPos := hSome hBlock
      omega

/-
  A call that has blocked and was not interrupted evaluates
  its condition next.
-/
theorem judges_of_blocked
    {limit : Option Duration}
    (hAccounted : Accounted limit xs y)
    {x : Incident}
    (hLast : xs.getLast? = some x)
    (hBlock : x.isBlock = true)
    (hNone : x.ending? = none) :
    ∃ a, y = .judge a ∧
      a.budget = limit.map (·.less (Incident.spentIn xs)) := by
  have hGet : xs[xs.length - 1]? = some x := by
    rw [← List.getLast?_eq_getElem?, hLast]
  have hOdd := (hAccounted.told _ x hGet).1.mp hBlock
  cases y with
  | judge a => exact ⟨a, rfl, (hAccounted.judging a rfl).2⟩
  | block a =>
      have hLength := (hAccounted.blocking a rfl).1
      omega
  | finish e =>
      rcases (hAccounted.finish_iff e).mp rfl with
        ⟨x', hLast', hEnding⟩
      rw [hLast] at hLast'
      cases hLast'
      rw [hNone] at hEnding
      cases hEnding

/-
  What follows once its time has run out is an evaluation, and
  with no time left that is a reason to end.
-/
theorem judged_after_late
    {earlier rest : List Incident}
    {x z : Incident}
    (hAccounted :
      Accounted (some timeout) (earlier ++ x :: z :: rest) y)
    (hLate : x.isLate = true) :
    ∃ d verdict e,
      z = .judged (some d) verdict ∧
        d.toNanos = 0 ∧ z.ending? = some e := by
  have hHere :
      (earlier ++ x :: z :: rest)[earlier.length]? =
        some x := by
    simp
  have hNext :
      (earlier ++ x :: z :: rest)[earlier.length + 1]? =
        some z := by
    simp
  have hNoBlock :=
    hAccounted.no_block_after_late hHere hLate
      (Nat.lt_add_one _) hNext
  have hSpent :=
    hAccounted.spent_of_late hHere hLate (Nat.lt_add_one _)
  rcases hAccounted.budget_of_limit hNext with
    ⟨d, hBudget, hLeft, _⟩
  have hNothing : d.toNanos = 0 := by
    rw [hLeft]
    exact Nat.sub_eq_zero_of_le hSpent
  cases z with
  | blocked b o elapsed => cases hNoBlock
  | judged b verdict =>
      change b = some d at hBudget
      subst hBudget
      rcases Incident.ending_of_spent hNothing verdict with
        ⟨e, hEnding⟩
      exact ⟨d, verdict, e, rfl, hNothing, hEnding⟩

/-
  After its time has run out, a call evaluates its condition
  exactly once more, and that ends it.
-/
theorem last_look
    {earlier later : List Incident}
    {x : Incident}
    (hAccounted :
      Accounted (some timeout) (earlier ++ x :: later) y)
    (hLate : x.isLate = true) :
    (later = [] ∧
      ∃ a d, y = .judge a ∧ a.budget = some d ∧
        d.toNanos = 0) ∨
      ∃ d verdict e,
        later = [.judged (some d) verdict] ∧
          d.toNanos = 0 ∧ y = .finish e := by
  cases later with
  | nil =>
      have hHere :
          (earlier ++ [x])[earlier.length]? = some x :=
        List.getElem?_concat_length
      have hSpent :=
        hAccounted.spent_of_late hHere hLate
          (Nat.lt_add_one _)
      rw [List.take_of_length_le (by simp)] at hSpent
      rcases hAccounted.judges_of_blocked
          List.getLast?_concat
          (Incident.isBlock_of_late hLate)
          (Incident.ending_of_late hLate) with
        ⟨a, hTurn, hBudget⟩
      refine Or.inl ⟨rfl, a, _, hTurn, hBudget, ?_⟩
      rw [Duration.toNanos_less]
      omega
  | cons z rest =>
      rcases hAccounted.judged_after_late hLate with
        ⟨d, verdict, e, rfl, hNothing, hEnding⟩
      cases rest with
      | nil =>
          have hEnd :=
            (hAccounted.finish_iff e).mpr
              ⟨_, by simp, hEnding⟩
          exact Or.inr ⟨d, verdict, e, rfl, hNothing, hEnd⟩
      | cons w rest =>
          -- It had a reason to end, so nothing came after it.
          have hNone :=
            hAccounted.ending_of_mem_dropLast
              (x := .judged (some d) verdict) (by simp)
          rw [hNone] at hEnding
          cases hEnding

/- Before its time runs out, it has not run out. -/
theorem no_late_before_late
    {earlier later : List Incident}
    {x x' : Incident}
    (hAccounted :
      Accounted (some timeout) (earlier ++ x :: later) y)
    (hLate : x.isLate = true)
    (hMem : x' ∈ earlier) :
    x'.isLate = false := by
  rcases List.getElem?_of_mem hMem with ⟨i, hGet⟩
  rcases List.getElem?_eq_some_iff.mp hGet with ⟨hLt, _⟩
  cases hLate' : x'.isLate with
  | false => rfl
  | true =>
      have hThere :
          (earlier ++ x :: later)[i]? = some x' := by
        rw [List.getElem?_append_left hLt, hGet]
      have hHere :
          (earlier ++ x :: later)[earlier.length]? = some x := by
        simp
      have hNoBlock :=
        hAccounted.no_block_after_late hThere hLate' hLt hHere
      rw [Incident.isBlock_of_late hLate] at hNoBlock
      cases hNoBlock

/- The time of a call runs out at most once. -/
theorem countP_late_le
    (hAccounted : Accounted (some timeout) xs y) :
    xs.countP Incident.isLate ≤ 1 := by
  by_cases hSome : ∃ x ∈ xs, x.isLate = true
  · rcases hSome with ⟨x, hMem, hLate⟩
    rcases List.append_of_mem hMem with
      ⟨earlier, later, rfl⟩
    have hEarlier : earlier.countP Incident.isLate = 0 := by
      rw [List.countP_eq_zero]
      intro x' hMem'
      rw [hAccounted.no_late_before_late hLate hMem']
      exact Bool.false_ne_true
    have hLater : later.countP Incident.isLate = 0 := by
      rcases hAccounted.last_look hLate with
        ⟨rfl, _⟩ | ⟨d, verdict, e, rfl, _⟩
      · rfl
      · rfl
    rw [List.countP_append, List.countP_cons, hEarlier,
      hLater, ← toNat_eq_ite, hLate]
    exact Nat.le_refl 1
  · rw [List.countP_eq_zero.mpr]
    · exact Nat.zero_le 1
    · intro x hMem hLate
      exact hSome ⟨x, hMem, hLate⟩

/- A condition that is clear at first leaves all of the time. -/
theorem cleared_at_once
    (hAccounted : Accounted (some timeout) xs y)
    {b : Option Duration}
    (hHead : xs.head? = some (.judged b .clear)) :
    y = .finish (.cleared (some timeout)) := by
  cases xs with
  | nil => cases hHead
  | cons x rest =>
      cases hHead
      have hBudget := (hAccounted.told 0 _ rfl).2.1
      rw [List.take_zero, Option.map_some] at hBudget
      have hAll : b = some (timeout.less 0) := hBudget
      rw [Duration.less_zero] at hAll
      subst hAll
      cases rest with
      | nil => exact (hAccounted.finish_iff _).mpr ⟨_, rfl, rfl⟩
      | cons x' rest =>
          have hNone :=
            hAccounted.ending_of_mem_dropLast
              (x := .judged (some timeout) .clear) (by simp)
          cases hNone

/- How a call with a limit ends. -/
theorem finish_iff_of_limit
    (hAccounted : Accounted (some timeout) xs y)
    (e : Ending) :
    y = .finish e ↔
      ∃ d,
        (e = .cleared (some d) ∧
          xs.getLast? = some (.judged (some d) .clear)) ∨
        (e = .failed .interrupted ∧
          ∃ elapsed,
            xs.getLast? =
              some (.blocked (some d) .interrupted elapsed)) ∨
        (e = .failed .timeout ∧ d.toNanos = 0 ∧
          xs.getLast? =
            some (.judged (some d) .keepWaiting)) ∨
        ∃ message,
          e = .aborted message ∧
            xs.getLast? =
              some (.judged (some d) (.abort message)) := by
  rw [hAccounted.finish_iff_last]
  constructor
  · rintro ⟨b, hSome, hReason⟩
    rcases Option.isSome_iff_exists.mp hSome with ⟨d, rfl⟩
    refine ⟨d, ?_⟩
    rcases hReason with
      hClear | hInterrupted | ⟨hEnd, hLast, d', hSame, hNothing⟩ |
      hAborted
    · exact Or.inl hClear
    · exact Or.inr (Or.inl hInterrupted)
    · cases hSame
      exact Or.inr (Or.inr (Or.inl ⟨hEnd, hNothing, hLast⟩))
    · exact Or.inr (Or.inr (Or.inr hAborted))
  · rintro ⟨d, hReason⟩
    refine ⟨some d, rfl, ?_⟩
    rcases hReason with
      hClear | hInterrupted | ⟨hEnd, hNothing, hLast⟩ |
      hAborted
    · exact Or.inl hClear
    · exact Or.inr (Or.inl hInterrupted)
    · exact
        Or.inr
          (Or.inr (Or.inl ⟨hEnd, hLast, d, rfl, hNothing⟩))
    · exact Or.inr (Or.inr (Or.inr hAborted))

end Turn.Accounted

------------------------------------------------------------
-- The Budget of a Call
------------------------------------------------------------

/-
  A call waits for a condition within a time, and is told any
  values and outcomes.  It evaluates its condition first and
  then blocks and evaluates it by turns.  At each of these it
  has left what the time is longer than all that was spent
  before, to the nanosecond, and something whenever it blocks.
  So it never has more left than before.  Its evaluations say
  what the condition says of the values shown.

  It ends with the first reason for it, and not otherwise:
  with the time left, if its condition is clear; interrupted,
  if its blocking is; out of time, if its condition holds and
  no time is left; or if its condition breaks off.  After
  blocking without an interrupt it evaluates its condition.

  In particular, a call without time never blocks, one whose
  condition is clear at first has all of its time left, and
  the time of a call runs out at most once, after which it
  evaluates its condition exactly once.

  All of this is true of the calls that a machine's threads
  make, with the answers that they get in its steps.
-/
theorem Turn.budget_spent
    {timeout : Duration}
    {p : Predicate V}
    {rs : List (Answer V)}
    {xs : List Incident}
    {y : Turn V}
    (hFollow :
      (Call.waitWhileFor timeout p).begin.follow? rs =
        some (xs, y)) :
    (∀ i x,
      xs[i]? = some x →
        (x.isBlock = true ↔ i % 2 = 1) ∧
          ∃ d,
            x.budget = some d ∧
              d.toNanos =
                timeout.toNanos -
                  Incident.spentIn (xs.take i) ∧
              (x.isBlock = true → 0 < d.toNanos)) ∧
    (∀ (i j : Nat) x x' d d',
      i ≤ j → xs[i]? = some x → xs[j]? = some x' →
        x.budget = some d → x'.budget = some d' →
          d'.toNanos ≤ d.toNanos) ∧
    xs.filterMap Incident.verdict? =
      p.verdicts [] (rs.filterMap Answer.value?) ∧
    (∀ x ∈ xs.dropLast, x.ending? = none) ∧
    (∀ e,
      y = .finish e ↔
        ∃ d,
          (e = .cleared (some d) ∧
            xs.getLast? = some (.judged (some d) .clear)) ∨
          (e = .failed .interrupted ∧
            ∃ elapsed,
              xs.getLast? =
                some
                  (.blocked (some d) .interrupted elapsed)) ∨
          (e = .failed .timeout ∧ d.toNanos = 0 ∧
            xs.getLast? =
              some (.judged (some d) .keepWaiting)) ∨
          ∃ message,
            e = .aborted message ∧
              xs.getLast? =
                some (.judged (some d) (.abort message))) ∧
    (∀ b o elapsed,
      xs.getLast? = some (.blocked b o elapsed) →
        o ≠ .interrupted →
          ∃ a d,
            y = .judge a ∧ a.budget = some d ∧
              d.toNanos =
                timeout.toNanos - Incident.spentIn xs) ∧
    (timeout.toNanos = 0 → ∀ x ∈ xs, x.isBlock = false) ∧
    (∀ b,
      xs.head? = some (.judged b .clear) →
        y = .finish (.cleared (some timeout))) ∧
    xs.countP Incident.isLate ≤ 1 ∧
    (∀ earlier x later,
      xs = earlier ++ x :: later →
        x.isLate = true →
          (later = [] ∧
            ∃ a d,
              y = .judge a ∧ a.budget = some d ∧
                d.toNanos = 0) ∨
          ∃ d verdict e,
            later = [.judged (some d) verdict] ∧
              d.toNanos = 0 ∧ y = .finish e) ∧
    ∀ (m m' : Machine V) t side ls ns,
      (∀ l ∈ ls, l.thread? = some t → l.request? = none) →
        m.run
            (.call t side (.waitWhileFor timeout p) :: ls) =
          some (m', ns) →
          ∃ xs' y' ph,
            (Call.waitWhileFor timeout p).begin.follow?
                (m.answers t
                  (.call t side (.waitWhileFor timeout p) ::
                    ls)) =
              some (xs', y') ∧
              m'.threads[t]? = some ph ∧
              ph.Pursues y' (endingsOf t ns) ∧
              evaluationsOf t ns =
                xs'.countP Incident.isEvaluation := by
  have hAccounted : Accounted (some timeout) xs y :=
    .of_follow? rfl hFollow
  have hOf : (Call.waitWhileFor timeout p).begin.IsOf p :=
    isOf_begin rfl
  refine
    ⟨?_, ?_, verdicts_of_follow? hOf hFollow,
      fun x hMem => hAccounted.ending_of_mem_dropLast hMem,
      hAccounted.finish_iff_of_limit, ?_, ?_, ?_,
      hAccounted.countP_late_le, ?_, ?_⟩
  · intro i x hGet
    exact
      ⟨(hAccounted.told i x hGet).1,
        hAccounted.budget_of_limit hGet⟩
  · intro i j x x' d d' hLe hGet hGet' hBudget hBudget'
    rcases hAccounted.budget_of_limit hGet with
      ⟨d₁, hBudget₁, hLeft, _⟩
    rcases hAccounted.budget_of_limit hGet' with
      ⟨d₂, hBudget₂, hLeft', _⟩
    cases hBudget.symm.trans hBudget₁
    cases hBudget'.symm.trans hBudget₂
    have hMore := Incident.spentIn_take_le xs hLe
    omega
  · intro b o elapsed hLast hNot
    have hNone :
        (Incident.blocked b o elapsed).ending? = none := by
      cases o with
      | interrupted => exact absurd rfl hNot
      | signaled => rfl
      | timedOut => rfl
    rcases hAccounted.judges_of_blocked hLast rfl hNone with
      ⟨a, hTurn, hBudget⟩
    exact
      ⟨a, _, hTurn, hBudget, Duration.toNanos_less _ _⟩
  · intro hZero x hMem
    rcases List.getElem?_of_mem hMem with ⟨i, hGet⟩
    rcases hAccounted.budget_of_limit hGet with
      ⟨d, _, hLeft, hSome⟩
    cases hBlock : x.isBlock with
    | false => rfl
    | true =>
        have hPos := hSome hBlock
        omega
  · intro b hHead
    exact hAccounted.cleared_at_once hHead
  · rintro earlier x later rfl hLate
    exact hAccounted.last_look hLate
  · intro m m' t side ls ns hInner hRun
    rcases Machine.progress_of_call hInner hRun with
      ⟨ph, hPhase, xs', y', hProgress⟩
    exact
      ⟨xs', y', ph, hProgress.follows, hPhase,
        hProgress.pursues, hProgress.judged⟩

/-
  A condition that always holds, within ten nanoseconds.  The
  call is signaled after four of them, and then blocks until
  its time runs out, which it notices late.  It evaluates its
  condition once more and has run out of time.
-/
theorem Turn.budget_spent_late :
    ∃ d₁ d₂ d₃ : Duration,
      d₁.toNanos = 10 ∧ d₂.toNanos = 6 ∧ d₃.toNanos = 0 ∧
      (Call.waitWhileFor (.ofNanos 10)
            Predicate.always).begin.follow?
          [.value 0, .outcome .signaled (.ofNanos 4), .value 0,
            .outcome .timedOut (.ofNanos 9), .value 0] =
        some
          ([.judged (some d₁) .keepWaiting,
              .blocked (some d₁) .signaled (.ofNanos 4),
              .judged (some d₂) .keepWaiting,
              .blocked (some d₂) .timedOut (.ofNanos 9),
              .judged (some d₃) .keepWaiting],
            .finish (.failed .timeout)) ∧
      [Incident.judged (some d₁) .keepWaiting,
          .blocked (some d₁) .signaled (.ofNanos 4),
          .judged (some d₂) .keepWaiting,
          .blocked (some d₂) .timedOut (.ofNanos 9),
          .judged (some d₃) .keepWaiting].countP
        Incident.isLate ≤ 1 := by
  have hFollow :
      (Call.waitWhileFor (.ofNanos 10)
            Predicate.always).begin.follow?
          [.value 0, .outcome .signaled (.ofNanos 4), .value 0,
            .outcome .timedOut (.ofNanos 9), .value 0] =
        some
          ([.judged (some (.ofNanos 10)) .keepWaiting,
              .blocked (some (.ofNanos 10)) .signaled
                (.ofNanos 4),
              .judged (some (.ofNanos 6)) .keepWaiting,
              .blocked (some (.ofNanos 6)) .timedOut
                (.ofNanos 9),
              .judged (some .zero) .keepWaiting],
            .finish (.failed .timeout)) :=
    rfl
  rcases budget_spent hFollow with
    ⟨_, _, _, _, _, _, _, _, hOnce, _⟩
  exact ⟨_, _, _, rfl, rfl, rfl, hFollow, hOnce⟩

end CondVar
