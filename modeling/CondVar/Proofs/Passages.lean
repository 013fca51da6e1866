import CondVar.Proofs.Counting
import CondVar.Tally.Passage
import Mathlib.Data.Finset.Card

/-
  What the count of a tally is worth.

  A call moves the count by one, and where the word wraps it is
  refused.  So over any series of calls the count moves by the
  entries and exits that were made, less one whole range of the
  word for each entry refused and plus one for each exit
  refused.  The order of the calls does not matter, and as long
  as every exit has an entry of its own before it and the word
  can count all that are in, nobody is refused.

  Main declarations:
    * `Tally.count_series`
    * `Tally.reports_of_ample`
    * `Turnstile.Paired`
    * `Turnstile.count_conserved`
-/

namespace CondVar

------------------------------------------------------------
-- Refusals
------------------------------------------------------------

namespace Misuse

/- Whether an entry was refused. -/
def isOverflow : Misuse → Bool
| .overflow _ => true
| _ => false

/- Whether an exit was refused. -/
def isUnderflow : Misuse → Bool
| .underflow => true
| _ => false

/- How many entries were refused in a series of calls. -/
def overflows (rs : List (Option Misuse)) : Nat :=
  rs.countP (Option.any isOverflow)

/- How many exits were refused in a series of calls. -/
def underflows (rs : List (Option Misuse)) : Nat :=
  rs.countP (Option.any isUnderflow)

end Misuse

------------------------------------------------------------
-- One Call
------------------------------------------------------------

namespace Tally

/- Somebody waits exactly if the count is not zero. -/
theorem hasWaiters_iff
    (t : Tally) :
    t.hasWaiters = true ↔ 0 < t.count.toNat := by
  unfold hasWaiters
  rw [decide_eq_true_iff, UInt64.lt_iff_toNat_lt]
  rfl

/- A tally is determined by its count. -/
theorem toNat_count_inj
    {t t' : Tally}
    (hCount : t.count.toNat = t'.count.toNat) :
    t = t' := by
  cases t with
  | mk n =>
      cases t' with
      | mk n' => exact congrArg mk (UInt64.toNat_inj.mp hCount)

/- An exit takes one away, modulo the range of the word. -/
theorem toNat_count_remove_mod
    (t : Tally) :
    t.remove.1.count.toNat =
      (t.count.toNat + 18_446_744_073_709_551_615) %
        18_446_744_073_709_551_616 := by
  have hLt := t.remove.1.count.toNat_lt
  have hBack := t.remove.1.toNat_count_add
  rw [add_remove] at hBack
  omega

/- An entry is refused when the word is at its largest. -/
theorem report_add
    (t : Tally) :
    t.add.2 =
      if t.count.toNat + 1 < 18_446_744_073_709_551_616 then
        none
      else
        some (.overflow Limits.maxWaiters) := by
  have hLt := t.count.toNat_lt
  have hMax :
      Limits.maxWaiters.toNat = 18_446_744_073_709_551_615 :=
    rfl
  unfold add
  simp only [← UInt64.toNat_inj, hMax]
  split
  · rw [if_neg (by omega)]
  · rw [if_pos (by omega)]

/- An exit is refused when nobody is in. -/
theorem report_remove
    (t : Tally) :
    t.remove.2 =
      if 0 < t.count.toNat then none else some .underflow := by
  have hZero : (0 : UInt64).toNat = 0 := rfl
  unfold remove
  simp only [← UInt64.toNat_inj, hZero]
  split
  · rw [if_neg (by omega)]
  · rw [if_pos (by omega)]

/-
  An entry adds one, and takes away the whole range of the
  word if it is refused.
-/
theorem count_add
    (t : Tally) :
    t.add.1.count.toNat +
        18_446_744_073_709_551_616 *
          (t.add.2.any Misuse.isOverflow).toNat =
      t.count.toNat + 1 := by
  have hAdd := t.toNat_count_add
  have hLt := t.count.toNat_lt
  rw [report_add]
  split
  · simp only [Option.any_none, Bool.toNat_false]
    omega
  · simp only [Option.any_some, Misuse.isOverflow,
      Bool.toNat_true]
    omega

/-
  An exit takes one away, and adds the whole range of the word
  if it is refused.
-/
theorem count_remove
    (t : Tally) :
    t.remove.1.count.toNat + 1 =
      t.count.toNat +
        18_446_744_073_709_551_616 *
          (t.remove.2.any Misuse.isUnderflow).toNat := by
  have hRemove := t.toNat_count_remove_mod
  have hLt := t.count.toNat_lt
  rw [report_remove]
  split
  · simp only [Option.any_none, Bool.toNat_false]
    omega
  · simp only [Option.any_some, Misuse.isUnderflow,
      Bool.toNat_true]
    omega

end Tally

namespace Passage

/-
  A call is granted if the word has room for whom it counts in
  and somebody is there whom it counts out.
-/
theorem granted_iff
    (p : Passage)
    (t : Tally) :
    (p.count t).2 = none ↔
      t.count.toNat + p.isEntry.toNat <
          18_446_744_073_709_551_616 ∧
        p.isExit.toNat ≤ t.count.toNat := by
  have hLt := t.count.toNat_lt
  cases p <;>
    simp [count, isEntry, isExit, Tally.report_add,
      Tally.report_remove] <;>
    omega

/-
  A call moves the count by what it counts in or out, and by
  the whole range of the word if it is refused.
-/
theorem count_moves
    (p : Passage)
    (t : Tally) :
    (p.count t).1.count.toNat + p.isExit.toNat +
        18_446_744_073_709_551_616 *
          ((p.count t).2.any Misuse.isOverflow).toNat =
      t.count.toNat + p.isEntry.toNat +
        18_446_744_073_709_551_616 *
          ((p.count t).2.any Misuse.isUnderflow).toNat := by
  have hEntry := t.count_add
  have hExit := t.count_remove
  have hNoUnderflow :
      t.add.2.any Misuse.isUnderflow = false := by
    rw [Tally.report_add]
    split <;> rfl
  have hNoOverflow :
      t.remove.2.any Misuse.isOverflow = false := by
    rw [Tally.report_remove]
    split <;> rfl
  cases p with
  | lose i => rfl
  | add =>
      simp only [count, isEntry, isExit, hNoUnderflow,
        Bool.toNat_true, Bool.toNat_false]
      omega
  | enter =>
      simp only [count, isEntry, isExit, hNoUnderflow,
        Bool.toNat_true, Bool.toNat_false]
      omega
  | remove =>
      simp only [count, isEntry, isExit, hNoOverflow,
        Bool.toNat_true, Bool.toNat_false]
      omega
  | leave i =>
      simp only [count, isEntry, isExit, hNoOverflow,
        Bool.toNat_true, Bool.toNat_false]
      omega

end Passage

------------------------------------------------------------
-- Series of Calls
------------------------------------------------------------

namespace Tally

/-
  A series of calls moves the count by what it counts in and
  out, and by the whole range of the word for each refusal.
-/
theorem count_series
    (t : Tally)
    (ps : List Passage) :
    (t.after ps).count.toNat + Passage.exits ps +
        18_446_744_073_709_551_616 *
          Misuse.overflows (t.reports ps) =
      t.count.toNat + Passage.entries ps +
        18_446_744_073_709_551_616 *
          Misuse.underflows (t.reports ps) := by
  induction ps generalizing t with
  | nil => rfl
  | cons p ps ih =>
      have hHead := p.count_moves t
      have hTail := ih (p.count t).1
      simp only [toNat_eq_ite] at hHead
      simp only [Passage.entries, Passage.exits,
        Misuse.overflows, Misuse.underflows, reports, after,
        List.countP_cons] at hTail ⊢
      omega

/-
  While no more are counted out than are in, and the word has
  room for all that are, nobody is refused.
-/
theorem reports_of_ample
    {t : Tally}
    {ps : List Passage}
    (hAmple :
      ∀ k,
        Passage.exits (ps.take k) ≤
            t.count.toNat + Passage.entries (ps.take k) ∧
          t.count.toNat + Passage.entries (ps.take k) <
            Passage.exits (ps.take k) +
              18_446_744_073_709_551_616) :
    ∀ r ∈ t.reports ps, r = none := by
  induction ps generalizing t with
  | nil => exact fun r hMem => nomatch hMem
  | cons p ps ih =>
      have hLt := t.count.toNat_lt
      have hOne : p.isEntry.toNat + p.isExit.toNat ≤ 1 := by
        cases p <;> simp [Passage.isEntry, Passage.isExit]
      have hFirst := hAmple 1
      simp only [Passage.entries, Passage.exits,
        List.take_succ_cons, List.take_zero, countP_one]
        at hFirst
      have hGranted : (p.count t).2 = none :=
        (p.granted_iff t).mpr (by omega)
      have hMoves := p.count_moves t
      rw [hGranted] at hMoves
      simp only [Option.any_none, Bool.toNat_false] at hMoves
      have hRest :
          ∀ r ∈ (p.count t).1.reports ps, r = none := by
        apply ih
        intro k
        have hNext := hAmple (k + 1)
        simp only [Passage.entries, Passage.exits,
          List.take_succ_cons, List.countP_cons,
          ← toNat_eq_ite] at hNext ⊢
        omega
      intro r hMem
      rcases List.mem_cons.mp hMem with rfl | hLater
      · exact hGranted
      · exact hRest r hLater

/- Where nobody is refused, the count is of those that are in. -/
theorem count_of_granted
    {t : Tally}
    {ps : List Passage}
    (hGranted : ∀ r ∈ t.reports ps, r = none) :
    (t.after ps).count.toNat + Passage.exits ps =
      t.count.toNat + Passage.entries ps := by
  have hNone :
      ∀ q : Misuse → Bool,
        (t.reports ps).countP (Option.any q) = 0 := by
    intro q
    rw [List.countP_eq_zero]
    intro r hMem hAny
    rw [hGranted r hMem] at hAny
    cases hAny
  have hSeries := t.count_series ps
  simp only [Misuse.overflows, Misuse.underflows, hNone]
    at hSeries
  omega

end Tally

------------------------------------------------------------
-- Passes
------------------------------------------------------------

namespace Turnstile

/- How many passes are held. -/
def passes (s : Turnstile) : Nat :=
  s.held.countP id

/- How many passes were handed out, by the reports on calls. -/
def granted
    (ps : List Passage)
    (rs : List (Option Misuse)) : Nat :=
  (ps.zip rs).countP (fun x => x.1 = .enter ∧ x.2 = none)

/- A call counts, reports, and hands out or uses up a pass. -/
theorem take?_eq_some_iff
    {s s' : Turnstile}
    {p : Passage}
    {report : Option Misuse} :
    s.take? p = some (s', report) ↔
      s'.tally = (p.count s.tally).1 ∧
        report = (p.count s.tally).2 ∧
        s.passes? report p = some s'.held := by
  unfold take?
  rw [Option.map_eq_some_iff]
  constructor
  · rintro ⟨held, hHeld, hEq⟩
    cases hEq
    exact ⟨rfl, rfl, hHeld⟩
  · rintro ⟨hTally, rfl, hHeld⟩
    exact ⟨s'.held, hHeld, by rw [← hTally]⟩

/- A series of calls begins with the first of them. -/
theorem takeAll?_cons
    {s s'' : Turnstile}
    {p : Passage}
    {ps : List Passage}
    {rs : List (Option Misuse)}
    (hTaken : s.takeAll? (p :: ps) = some (s'', rs)) :
    ∃ s' report rs',
      s.take? p = some (s', report) ∧
        s'.takeAll? ps = some (s'', rs') ∧
        rs = report :: rs' := by
  rw [takeAll?] at hTaken
  rcases Option.bind_eq_some_iff.mp hTaken with
    ⟨⟨s', report⟩, hFirst, hRest⟩
  rcases Option.bind_eq_some_iff.mp hRest with
    ⟨⟨s₂, rs'⟩, hOthers, hEq⟩
  cases hEq
  exact ⟨s', report, rs', hFirst, hOthers, rfl⟩

/- A series of calls does to the tally what its calls do. -/
theorem takeAll?_tally
    {s s' : Turnstile}
    {ps : List Passage}
    {rs : List (Option Misuse)}
    (hTaken : s.takeAll? ps = some (s', rs)) :
    s'.tally = s.tally.after ps ∧ rs = s.tally.reports ps := by
  induction ps generalizing s rs with
  | nil =>
      cases hTaken
      exact ⟨rfl, rfl⟩
  | cons p ps ih =>
      rcases takeAll?_cons hTaken with
        ⟨s₁, report, rs', hFirst, hOthers, rfl⟩
      rcases take?_eq_some_iff.mp hFirst with
        ⟨hTally, hReport, _⟩
      rcases ih hOthers with ⟨hAfter, hReports⟩
      rw [hTally] at hAfter hReports
      exact
        ⟨hAfter, by rw [hReport, hReports, Tally.reports]⟩

/- The first calls of a series can be made without the rest. -/
theorem takeAll?_take
    {s s' : Turnstile}
    {ps : List Passage}
    {rs : List (Option Misuse)}
    (hTaken : s.takeAll? ps = some (s', rs))
    (k : Nat) :
    ∃ s₁ rs₁, s.takeAll? (ps.take k) = some (s₁, rs₁) := by
  induction ps generalizing s rs k with
  | nil => exact ⟨s, [], by rw [List.take_nil, takeAll?]⟩
  | cons p ps ih =>
      cases k with
      | zero => exact ⟨s, [], rfl⟩
      | succ k =>
          rcases takeAll?_cons hTaken with
            ⟨s₂, report, rs', hFirst, hOthers, rfl⟩
          rcases ih hOthers k with ⟨s₁, rs₁, hSome⟩
          refine ⟨s₁, report :: rs₁, ?_⟩
          rw [List.take_succ_cons, takeAll?, hFirst]
          simp only [Option.bind_eq_bind, Option.bind_some,
            hSome]
          rfl

/- A pass that is used up was held and is not held any more. -/
theorem passes_of_spent
    {s s' : Turnstile}
    {i : Nat}
    (hHeld :
      (if s.holds i then some (s.held.set i false) else none) =
        some s'.held) :
    s'.passes + 1 = s.passes := by
  split at hHeld
  · rename_i hHolds
    have hGet : s.held[i]? = some true := by
      unfold holds at hHolds
      cases hPass : s.held[i]? with
      | none =>
          rw [hPass] at hHolds
          cases hHolds
      | some b =>
          rw [hPass] at hHolds
          exact congrArg some hHolds
    have hSet := countP_set_add id false hGet
    rw [Option.some.inj hHeld] at hSet
    exact hSet
  · cases hHeld

/-
  A call hands out a pass if it is an entry for one and is
  granted, and uses up a pass if it gives one back or loses
  one.
-/
theorem passes_take?
    {s s' : Turnstile}
    {p : Passage}
    {report : Option Misuse}
    (hTaken : s.take? p = some (s', report)) :
    s'.passes + p.spendsPass.toNat =
      s.passes +
        (decide (p = .enter ∧ report = none)).toNat := by
  rcases take?_eq_some_iff.mp hTaken with ⟨_, _, hHeld⟩
  cases p with
  | leave i => exact passes_of_spent hHeld
  | lose i => exact passes_of_spent hHeld
  | enter =>
      have hHeld := Option.some.inj hHeld
      unfold passes
      rw [← hHeld]
      cases report with
      | none => simp [Passage.spendsPass]
      | some misuse => simp [Passage.spendsPass]
  | add =>
      have hHeld := Option.some.inj hHeld
      simp [passes, Passage.spendsPass, hHeld]
  | remove =>
      have hHeld := Option.some.inj hHeld
      simp [passes, Passage.spendsPass, hHeld]

/- Passes that were handed out are used up or still held. -/
theorem passes_series
    {s s' : Turnstile}
    {ps : List Passage}
    {rs : List (Option Misuse)}
    (hTaken : s.takeAll? ps = some (s', rs)) :
    s'.passes + ps.countP Passage.spendsPass =
      s.passes + granted ps rs := by
  induction ps generalizing s rs with
  | nil =>
      cases hTaken
      rfl
  | cons p ps ih =>
      rcases takeAll?_cons hTaken with
        ⟨s₁, report, rs', hFirst, hOthers, rfl⟩
      have hHead := passes_take? hFirst
      have hTail := ih hOthers
      simp only [granted, List.zip_cons_cons, List.countP_cons,
        ← toNat_eq_ite] at hTail ⊢
      omega

------------------------------------------------------------
-- Moves as Series of Calls
------------------------------------------------------------

/- One call is a series of calls. -/
theorem takeAll?_one
    {s s' : Turnstile}
    {p : Passage}
    {report : Option Misuse}
    (hTaken : s.take? p = some (s', report)) :
    s.takeAll? [p] = some (s', [report]) := by
  rw [takeAll?, hTaken]
  rfl

/- One series after another is a series. -/
theorem takeAll?_append
    {s s₁ s₂ : Turnstile}
    {ps qs : List Passage}
    {rs rs' : List (Option Misuse)}
    (hFirst : s.takeAll? ps = some (s₁, rs))
    (hThen : s₁.takeAll? qs = some (s₂, rs')) :
    s.takeAll? (ps ++ qs) = some (s₂, rs ++ rs') := by
  induction ps generalizing s rs with
  | nil =>
      cases hFirst
      exact hThen
  | cons p ps ih =>
      rcases takeAll?_cons hFirst with
        ⟨s', report, rs₁, hHead, hOthers, rfl⟩
      rw [List.cons_append, takeAll?, hHead]
      simp only [Option.bind_eq_bind, Option.bind_some,
        ih hOthers]
      rfl

/-
  Some series of calls makes one tally of another, whatever
  passes are held, and uses up the passes that it gets.
-/
def Passes (t t' : Tally) : Prop :=
  ∀ held, ∃ ps rs k,
    takeAll? ⟨t, held⟩ ps =
      some (⟨t', held ++ List.replicate k false⟩, rs)

/- One call is such a series, and needs no pass besides. -/
theorem takeAll?_of_take?
    {s s' : Turnstile}
    {p : Passage}
    {report : Option Misuse}
    (hTaken : s.take? p = some (s', report)) :
    ∃ ps rs k,
      s.takeAll? ps =
        some
          (⟨s'.tally, s'.held ++ List.replicate k false⟩,
            rs) := by
  refine ⟨[p], [report], 0, ?_⟩
  rw [List.replicate_zero, List.append_nil]
  exact takeAll?_one hTaken

/- No call leaves a tally as it is. -/
theorem Passes.refl
    (t : Tally) :
    Passes t t :=
  fun held =>
    ⟨[], [], 0, by rw [List.replicate_zero, List.append_nil]; rfl⟩

/- What one series makes, another may go on with. -/
theorem Passes.trans
    {t t' t'' : Tally}
    (hFirst : Passes t t')
    (hThen : Passes t' t'') :
    Passes t t'' := by
  intro held
  rcases hFirst held with ⟨ps, rs, k, hTaken⟩
  rcases hThen (held ++ List.replicate k false) with
    ⟨qs, rs', j, hTaken'⟩
  refine ⟨ps ++ qs, rs ++ rs', k + j, ?_⟩
  rw [List.replicate_add, ← List.append_assoc]
  exact takeAll?_append hTaken hTaken'

/- A call without a pass is a series that gets none. -/
theorem Passes.of_count
    {p : Passage}
    (t : Tally)
    (hFree : p = .add ∨ p = .remove) :
    Passes t (p.count t).1 := by
  intro held
  have hTaken :
      take? ⟨t, held⟩ p =
        some (⟨(p.count t).1, held⟩, (p.count t).2) := by
    rcases hFree with rfl | rfl <;> rfl
  exact takeAll?_of_take? hTaken

/- An entry that is given up again at once. -/
theorem Passes.of_stay
    {t : Tally}
    (hGranted : t.add.2 = none) :
    Passes t t.add.1.remove.1 := by
  intro held
  have hEnter :
      take? ⟨t, held⟩ .enter =
        some (⟨t.add.1, held ++ [true]⟩, none) := by
    simp [take?, passes?, Passage.count, hGranted]
  have hLeave :
      take? ⟨t.add.1, held ++ [true]⟩ (.leave held.length) =
        some
          (⟨t.add.1.remove.1, held ++ List.replicate 1 false⟩,
            t.add.1.remove.2) := by
    simp [take?, passes?, holds, Passage.count]
  exact
    ⟨_, _, 1,
      takeAll?_append (takeAll?_one hEnter)
        (takeAll?_one hLeave)⟩

/- An entry that is refused gets no pass. -/
theorem Passes.of_refused
    {t : Tally}
    {misuse : Misuse}
    (hRefused : t.add.2 = some misuse) :
    Passes t t.add.1 := by
  intro held
  have hEnter :
      take? ⟨t, held⟩ .enter =
        some (⟨t.add.1, held⟩, some misuse) := by
    simp [take?, passes?, Passage.count, hRefused]
  exact takeAll?_of_take? hEnter

/- A visit is a series of calls. -/
theorem passes_visit
    (t : Tally) :
    Passes t (visit t).1 := by
  unfold visit
  split
  · rename_i t' misuse hAdd
    have hRefused := Passes.of_refused (congrArg Prod.snd hAdd)
    rw [hAdd] at hRefused
    exact hRefused
  · rename_i t' hAdd
    have hStay := Passes.of_stay (congrArg Prod.snd hAdd)
    rw [hAdd] at hStay
    exact hStay

/- What is repeated is a series of calls if it is one once. -/
theorem passes_repeated
    {count : Tally → Tally × Option Misuse}
    (hOnce : ∀ t, Passes t (count t).1)
    (n : Nat)
    (t : Tally) :
    Passes t (repeated count n t).1 := by
  induction n generalizing t with
  | zero => exact .refl t
  | succ n ih =>
      have hFirst := hOnce t
      rw [repeated]
      split
      · rename_i t' misuse hCount
        rw [hCount] at hFirst
        exact hFirst
      · rename_i t' hCount
        rw [hCount] at hFirst
        exact hFirst.trans (ih t')

/- Visitors make a series of calls. -/
theorem passes_visits
    (n k : Nat)
    (t : Tally) :
    Passes t (visits n k t) := by
  induction k generalizing t with
  | zero => exact .refl t
  | succ k ih =>
      exact (passes_repeated passes_visit n t).trans (ih _)

/-
  Every move is a series of calls.  The passes that it gets
  and uses up itself are all that is left besides.
-/
theorem exists_takeAll?_act
    (s : Turnstile)
    (move : Move) :
    ∃ ps rs k,
      s.takeAll? ps =
        some
          (⟨(s.act move).1.tally,
              (s.act move).1.held ++
                List.replicate k false⟩,
            rs) := by
  have hNone := Passes.refl s.tally s.held
  cases move with
  | add n =>
      exact
        passes_repeated
          (fun t => .of_count t (Or.inl rfl)) n s.tally s.held
  | remove n =>
      exact
        passes_repeated
          (fun t => .of_count t (Or.inr rfl)) n s.tally s.held
  | enter =>
      simp only [act]
      split
      · rename_i t misuse hAdd
        have hEnter :
            s.take? .enter =
              some (⟨t, s.held⟩, some misuse) := by
          simp [take?, passes?, Passage.count, hAdd]
        exact takeAll?_of_take? hEnter
      · rename_i t hAdd
        have hEnter :
            s.take? .enter =
              some (⟨t, s.held ++ [true]⟩, none) := by
          simp [take?, passes?, Passage.count, hAdd]
        exact takeAll?_of_take? hEnter
  | leave i =>
      simp only [act]
      split
      · rename_i hHolds
        have hLeave :
            s.take? (.leave i) =
              some
                (⟨s.tally.remove.1, s.held.set i false⟩,
                  s.tally.remove.2) := by
          simp [take?, passes?, Passage.count, hHolds]
        exact takeAll?_of_take? hLeave
      · exact hNone
  | lose i =>
      simp only [act]
      split
      · rename_i hHolds
        have hLose :
            s.take? (.lose i) =
              some (⟨s.tally, s.held.set i false⟩, none) := by
          simp [take?, passes?, Passage.count, hHolds]
        exact takeAll?_of_take? hLose
      · exact hNone
  | look i =>
      simp only [act]
      split <;> exact hNone
  | enterAndAbort =>
      simp only [act]
      split
      · rename_i t misuse hAdd
        have hRefused :=
          Passes.of_refused (congrArg Prod.snd hAdd) s.held
        rw [hAdd] at hRefused
        exact hRefused
      · rename_i t hAdd
        have hStay :=
          Passes.of_stay (congrArg Prod.snd hAdd) s.held
        rw [hAdd] at hStay
        exact hStay
  | crowd k n => exact passes_visits n k s.tally s.held

end Turnstile

------------------------------------------------------------
-- Entries and Exits in Pairs
------------------------------------------------------------

namespace Passage

/-
  Every exit of a series has an entry of its own before it.
  Calls are counted from zero.
-/
def Paired (ps : List Passage) : Prop :=
  ∃ own : Nat → Nat,
    Set.InjOn own {i | ps[i]?.any isExit = true} ∧
      ∀ i,
        ps[i]?.any isExit = true →
          own i < i ∧ ps[own i]?.any isEntry = true

/- The first calls of a kind are as many as their places. -/
theorem card_places
    (kind : Passage → Bool)
    (ps : List Passage)
    (k : Nat) :
    ((Finset.range k).filter
        (fun i => ps[i]?.any kind = true)).card =
      (ps.take k).countP kind := by
  induction k with
  | zero => rfl
  | succ k ih =>
      rw [Finset.range_add_one, Finset.filter_insert,
        List.take_add_one, List.countP_append, ← ih]
      cases hGet : ps[k]? with
      | none => simp
      | some p =>
          cases hKind : kind p with
          | false => simp [hKind]
          | true => simp [hKind]

/- At no time have more exits than entries been made. -/
theorem Paired.exits_le
    {ps : List Passage}
    (hPaired : Paired ps)
    (k : Nat) :
    exits (ps.take k) ≤ entries (ps.take k) := by
  rcases hPaired with ⟨own, hInjective, hOwn⟩
  unfold exits entries
  rw [← card_places, ← card_places]
  apply Finset.card_le_card_of_injOn own
  · intro i hMem
    rcases Finset.mem_filter.mp hMem with ⟨hRange, hExit⟩
    rcases hOwn i hExit with ⟨hBefore, hEntry⟩
    have hLt := Finset.mem_range.mp hRange
    exact
      Finset.mem_filter.mpr
        ⟨Finset.mem_range.mpr (hBefore.trans hLt), hEntry⟩
  · intro i hi j hj hSame
    exact
      hInjective (Finset.mem_filter.mp hi).2
        (Finset.mem_filter.mp hj).2 hSame

end Passage

------------------------------------------------------------
-- The Count over a Whole Run
------------------------------------------------------------

namespace Turnstile

/-
  In every series of calls, from any count and by any threads,
  refused or not: the count at first and the entries, less the
  exits, are the count at last and one range of the word for
  each entry refused, less one for each exit refused.  So it
  does not matter for the count in which order the calls come.
  As many passes are held or have been used up as were held
  or handed out, and an entry that is refused hands out none.
  From a count of zero, if every exit has an entry of its own
  before it and never as many are in as the word has values,
  then at no time is a call refused, the count is the number
  of those that are in, and somebody waits exactly if that is
  not zero.  And every move at a turnstile is a series of
  calls, which uses up the passes that it gets besides.
-/
theorem count_conserved
    {s s' : Turnstile}
    {ps : List Passage}
    {rs : List (Option Misuse)}
    (hTaken : s.takeAll? ps = some (s', rs)) :
    ((s.tally.count.toNat : Int) + Passage.entries ps -
        Passage.exits ps =
      s'.tally.count.toNat +
        18_446_744_073_709_551_616 *
          ((Misuse.overflows rs : Int) -
            Misuse.underflows rs)) ∧
    (∀ ps' s'' rs',
      s.takeAll? ps' = some (s'', rs') →
        Passage.entries ps' = Passage.entries ps →
          Passage.exits ps' = Passage.exits ps →
            s''.tally = s'.tally) ∧
    s'.passes + ps.countP Passage.spendsPass =
      s.passes + granted ps rs ∧
    (∀ s₁ s₂ misuse,
      take? s₁ .enter = some (s₂, some misuse) →
        s₂.held = s₁.held) ∧
    (s.tally.count = 0 →
      Passage.Paired ps →
        (∀ k,
          Passage.entries (ps.take k) <
            Passage.exits (ps.take k) +
              18_446_744_073_709_551_616) →
          ∀ k, ∃ s₁ rs₁,
            s.takeAll? (ps.take k) = some (s₁, rs₁) ∧
              (∀ r ∈ rs₁, r = none) ∧
              s₁.tally.count.toNat +
                  Passage.exits (ps.take k) =
                Passage.entries (ps.take k) ∧
              (s₁.tally.hasWaiters = true ↔
                Passage.exits (ps.take k) ≠
                  Passage.entries (ps.take k))) ∧
    ∀ (s₀ : Turnstile) move, ∃ qs rs₀ k,
      s₀.takeAll? qs =
        some
          (⟨(s₀.act move).1.tally,
              (s₀.act move).1.held ++
                List.replicate k false⟩,
            rs₀) := by
  have hLaw :
      ∀ {ps : List Passage} {s' : Turnstile}
        {rs : List (Option Misuse)},
        s.takeAll? ps = some (s', rs) →
          s'.tally.count.toNat + Passage.exits ps +
              18_446_744_073_709_551_616 *
                Misuse.overflows rs =
            s.tally.count.toNat + Passage.entries ps +
              18_446_744_073_709_551_616 *
                Misuse.underflows rs := by
    intro ps s' rs hSeries
    rcases takeAll?_tally hSeries with ⟨hAfter, hReports⟩
    rw [hAfter, hReports]
    exact s.tally.count_series ps
  refine
    ⟨?_, ?_, passes_series hTaken, ?_, ?_,
      exists_takeAll?_act⟩
  · have hSeries := hLaw hTaken
    omega
  · intro ps' s'' rs' hOther hEntries hExits
    have hHere := hLaw hTaken
    have hThere := hLaw hOther
    have hLt := s'.tally.count.toNat_lt
    have hLt' := s''.tally.count.toNat_lt
    apply Tally.toNat_count_inj
    omega
  · intro s₁ s₂ misuse hRefused
    rcases take?_eq_some_iff.mp hRefused with ⟨_, _, hHeld⟩
    exact (Option.some.inj hHeld).symm
  · intro hZero hPaired hRoom k
    rcases takeAll?_take hTaken k with ⟨s₁, rs₁, hSome⟩
    rcases takeAll?_tally hSome with ⟨hAfter, hReports⟩
    have hStart : s.tally.count.toNat = 0 := by
      rw [hZero]
      rfl
    have hGranted : ∀ r ∈ rs₁, r = none := by
      rw [hReports]
      apply Tally.reports_of_ample
      intro j
      rw [hStart, List.take_take]
      have hPairs := hPaired.exits_le (min j k)
      have hFits := hRoom (min j k)
      omega
    have hCount :=
      Tally.count_of_granted (hReports ▸ hGranted)
    rw [← hAfter, hStart, Nat.zero_add] at hCount
    refine ⟨s₁, rs₁, hSome, hGranted, hCount, ?_⟩
    rw [Tally.hasWaiters_iff]
    omega

/-
  Somebody counts out of an empty tally and is refused, and so
  is the next to enter, who gets no pass.  The third gets one
  and loses it.  In a series from zero where every exit has an
  entry of its own, one is in at last.
-/
theorem count_conserved_both_ways :
    ∃ s rs s' rs',
      fresh.takeAll?
          [.remove, .enter, .enter, .lose 0, .add] =
        some (s, rs) ∧
      Misuse.overflows rs = 1 ∧ Misuse.underflows rs = 1 ∧
      s.tally.count = 2 ∧
      ((fresh.tally.count.toNat : Int) +
          Passage.entries
            [.remove, .enter, .enter, .lose 0, .add] -
          Passage.exits
            [.remove, .enter, .enter, .lose 0, .add] =
        s.tally.count.toNat +
          18_446_744_073_709_551_616 *
            ((Misuse.overflows rs : Int) -
              Misuse.underflows rs)) ∧
      fresh.tally.count = 0 ∧
      Passage.Paired [.enter, .add, .leave 0, .remove, .enter] ∧
      fresh.takeAll?
          ([Passage.enter, .add, .leave 0, .remove,
            .enter].take 5) =
        some (s', rs') ∧
      (∀ r ∈ rs', r = none) ∧
      s'.tally.count.toNat +
          Passage.exits
            ([Passage.enter, .add, .leave 0, .remove,
              .enter].take 5) =
        Passage.entries
          ([Passage.enter, .add, .leave 0, .remove,
            .enter].take 5) := by
  have hWild :
      fresh.takeAll?
          [.remove, .enter, .enter, .lose 0, .add] =
        some
          (⟨⟨2⟩, [false]⟩,
            [some .underflow,
              some (.overflow Limits.maxWaiters), none, none,
              none]) := by
    decide
  have hTame :
      fresh.takeAll?
          [.enter, .add, .leave 0, .remove, .enter] =
        some
          (⟨⟨1⟩, [false, true]⟩,
            [none, none, none, none, none]) := by
    decide
  have hExits :
      ∀ i,
        [Passage.enter, .add, .leave 0, .remove,
            .enter][i]?.any Passage.isExit = true →
          i = 2 ∨ i = 3 := by
    intro i hExit
    rcases i with _ | _ | _ | _ | _ | i
    · cases hExit
    · cases hExit
    · exact Or.inl rfl
    · exact Or.inr rfl
    · cases hExit
    · cases hExit
  have hPaired :
      Passage.Paired
        [.enter, .add, .leave 0, .remove, .enter] := by
    refine ⟨fun i => i - 2, ?_, ?_⟩
    · intro i hi j hj hSame
      have hSame : i - 2 = j - 2 := hSame
      have hThere := hExits i hi
      have hThere' := hExits j hj
      omega
    · intro i hExit
      rcases hExits i hExit with rfl | rfl
      · exact ⟨by decide, rfl⟩
      · exact ⟨by decide, rfl⟩
  have hRoom :
      ∀ k,
        Passage.entries
            ([Passage.enter, .add, .leave 0, .remove,
              .enter].take k) <
          Passage.exits
              ([Passage.enter, .add, .leave 0, .remove,
                .enter].take k) +
            18_446_744_073_709_551_616 := by
    intro k
    have hFew :=
      List.countP_le_length
        (l := [Passage.enter, .add, .leave 0, .remove,
          .enter].take k)
        (p := Passage.isEntry)
    have hShort :=
      List.length_take_le' k
        [Passage.enter, .add, .leave 0, .remove, .enter]
    have hFive :
        [Passage.enter, .add, .leave 0, .remove,
          .enter].length = 5 := rfl
    unfold Passage.entries
    omega
  rcases count_conserved hTame with
    ⟨_, _, _, _, hOrdinary, _⟩
  rcases hOrdinary rfl hPaired hRoom 5 with
    ⟨s', rs', hFive, hGranted, hCount, _⟩
  exact
    ⟨_, _, s', rs', hWild, rfl, rfl, rfl,
      (count_conserved hWild).1, rfl, hPaired, hFive, hGranted,
      hCount⟩

end Turnstile

end CondVar
