import CondVar.Proofs.Passages

/-
  What a refused call leaves behind.

  A call moves the count before it is refused, and the count
  then stays where the word has wrapped to.  So a refused call
  has the same part in all that comes after it as one that was
  granted: it is as if every later call were made after it,
  whenever that is.

  Key definitions include:
    * `Tally.Spares`
    * `Passage.Spoils`
    * `Passage.Traceless`

  Main declarations:
    * `Passage.count_comm`
    * `Passage.spares_iff`
    * `Turnstile.traceless_iff_granted`
-/

namespace CondVar

------------------------------------------------------------
-- Later Calls
------------------------------------------------------------

namespace Tally

/-
  Whatever call of a series is granted from one tally is
  granted from the other too.
-/
def Spares
    (t t' : Tally)
    (ps : List Passage) : Prop :=
  ∀ i : Nat,
    (t.reports ps)[i]? = some none →
      (t'.reports ps)[i]? = some none

end Tally

namespace Passage

/-
  Of this tally one call is granted, and refused once another
  has moved the count.
-/
def Spoils
    (p q : Passage)
    (t : Tally) : Prop :=
  (q.isEntry = true ∧
    ((p.isEntry = true ∧
        t.count.toNat + 2 = 18_446_744_073_709_551_616) ∨
      (p.isExit = true ∧ t.count.toNat = 0))) ∨
  (q.isExit = true ∧
    ((p.isEntry = true ∧
        t.count.toNat + 1 = 18_446_744_073_709_551_616) ∨
      (p.isExit = true ∧ t.count.toNat = 1)))

/-
  A call, if it is refused, leaves the tally as it was, and
  nobody is refused later who would be granted without it.
-/
def Traceless
    (p : Passage)
    (t : Tally) : Prop :=
  (p.count t).2 ≠ none →
    (p.count t).1.count = t.count ∧
      (p.count t).1.hasWaiters = t.hasWaiters ∧
      ∀ ps, t.Spares (p.count t).1 ps

end Passage

------------------------------------------------------------
-- Calls One After Another
------------------------------------------------------------

namespace Passage

/- It does not matter to the tally which call comes first. -/
theorem count_comm
    (p q : Passage)
    (t : Tally) :
    (p.count (q.count t).1).1 = (q.count (p.count t).1).1 := by
  cases p <;> cases q <;>
    simp only [count, Tally.add_remove, Tally.remove_add]

/- Nor if it comes after a whole series. -/
theorem after_count
    (p : Passage)
    (t : Tally)
    (ps : List Passage) :
    (p.count t).1.after ps = (p.count (t.after ps)).1 := by
  induction ps generalizing t with
  | nil => rfl
  | cons q ps ih =>
      rw [Tally.after, Tally.after, count_comm, ih]

/- A call is spoiled where the other comes before it. -/
theorem spoils_iff
    (p q : Passage)
    (t : Tally) :
    p.Spoils q t ↔
      (q.count t).2 = none ∧
        (q.count (p.count t).1).2 ≠ none := by
  have hLt := t.count.toNat_lt
  have hAdd := t.toNat_count_add
  have hRemove := t.toNat_count_remove_mod
  rw [Ne, granted_iff, granted_iff]
  cases p <;> cases q <;>
    simp [Spoils, count, isEntry, isExit] <;>
    omega

end Passage

namespace Tally

/- A series has as many reports as calls. -/
theorem length_reports
    (t : Tally)
    (ps : List Passage) :
    (t.reports ps).length = ps.length := by
  induction ps generalizing t with
  | nil => rfl
  | cons p ps ih => rw [reports, List.length_cons, ih]; rfl

/- A report is on the tally that the calls before have left. -/
theorem reports_append_cons
    (t : Tally)
    (before rest : List Passage)
    (q : Passage) :
    (t.reports (before ++ q :: rest))[before.length]? =
      some (q.count (t.after before)).2 := by
  induction before generalizing t with
  | nil => rfl
  | cons p before ih =>
      rw [List.cons_append, reports, List.length_cons,
        List.getElem?_cons_succ, ih, after]

end Tally

namespace Passage

/-
  A call made first spares a series exactly if it spoils none
  of its calls where they come.
-/
theorem spares_iff
    (p : Passage)
    (t : Tally)
    (ps : List Passage) :
    t.Spares (p.count t).1 ps ↔
      ∀ before q rest,
        ps = before ++ q :: rest →
          ¬ p.Spoils q (t.after before) := by
  constructor
  · rintro hSpares before q rest rfl hSpoils
    rcases (p.spoils_iff q _).mp hSpoils with
      ⟨hGranted, hRefused⟩
    apply hRefused
    have hLater :=
      hSpares before.length
        ((t.reports_append_cons before rest q).trans
          (congrArg some hGranted))
    rw [Tally.reports_append_cons, after_count] at hLater
    exact Option.some.inj hLater
  · intro hNone i hGranted
    rcases List.getElem?_eq_some_iff.mp hGranted with ⟨hLt, _⟩
    rw [Tally.length_reports] at hLt
    have hSplit :
        ps = ps.take i ++ ps[i] :: ps.drop (i + 1) := by
      rw [List.cons_getElem_drop_succ, List.take_append_drop]
    have hLength : (ps.take i).length = i :=
      List.length_take_of_le (Nat.le_of_lt hLt)
    have hHere :
        ∀ t' : Tally,
          (t'.reports ps)[i]? =
            some (ps[i].count (t'.after (ps.take i))).2 := by
      intro t'
      have hReport :=
        t'.reports_append_cons (ps.take i) (ps.drop (i + 1))
          ps[i]
      rw [← hSplit, hLength] at hReport
      exact hReport
    rw [hHere] at hGranted ⊢
    rw [after_count]
    by_contra hRefused
    exact
      hNone _ _ _ hSplit
        ((p.spoils_iff _ _).mpr
          ⟨Option.some.inj hGranted,
            fun hSpared => hRefused (congrArg some hSpared)⟩)

------------------------------------------------------------
-- Refused Calls
------------------------------------------------------------

/-
  A refused call takes the count from one end of its word to
  the other.
-/
theorem wraps_of_refused
    {p : Passage}
    {t : Tally}
    (hRefused : (p.count t).2 ≠ none) :
    (p.isEntry = true ∧
        t.count.toNat + 1 = 18_446_744_073_709_551_616 ∧
        (p.count t).1.count.toNat = 0) ∨
      (p.isExit = true ∧
        t.count.toNat = 0 ∧
        (p.count t).1.count.toNat + 1 =
          18_446_744_073_709_551_616) := by
  have hLt := t.count.toNat_lt
  have hAdd := t.toNat_count_add
  have hRemove := t.toNat_count_remove_mod
  rw [Ne, granted_iff] at hRefused
  cases p <;>
    simp [count, isEntry, isExit] at hRefused ⊢ <;>
    omega

/- The call that takes back what another has counted. -/
def opposite (p : Passage) : Passage :=
  if p.isEntry then .remove else .add

/-
  After a refused call the opposite one is refused as well,
  which would have been granted without it.
-/
theorem spoils_opposite
    {p : Passage}
    {t : Tally}
    (hRefused : (p.count t).2 ≠ none) :
    p.Spoils p.opposite t := by
  unfold opposite
  rcases wraps_of_refused hRefused with
    ⟨hEntry, hCount, _⟩ | ⟨hExit, hCount, _⟩
  · rw [if_pos hEntry]
    exact Or.inr ⟨rfl, Or.inl ⟨hEntry, hCount⟩⟩
  · have hNoEntry : ¬ p.isEntry = true := by
      cases p <;> simp [isEntry, isExit] at hExit ⊢
    rw [if_neg hNoEntry]
    exact Or.inl ⟨rfl, Or.inr ⟨hExit, hCount⟩⟩

/- The opposite call gets and uses up no pass. -/
theorem take?_opposite
    (p : Passage)
    (s : Turnstile) :
    s.take? p.opposite =
      some
        (⟨(p.opposite.count s.tally).1, s.held⟩,
          (p.opposite.count s.tally).2) := by
  unfold opposite
  split <;> rfl

/- Only a call that is granted leaves no trace. -/
theorem traceless_iff
    (p : Passage)
    (t : Tally) :
    p.Traceless t ↔ (p.count t).2 = none := by
  constructor
  · intro hTraceless
    by_contra hRefused
    rcases hTraceless hRefused with ⟨_, _, hSpares⟩
    exact
      (p.spares_iff t [p.opposite]).mp (hSpares _) [] _ [] rfl
        (spoils_opposite hRefused)
  · intro hGranted hRefused
    exact absurd hGranted hRefused

end Passage

namespace Turnstile

/-
  A call at a turnstile leaves no trace exactly if it is
  granted.  If it is refused, the count has gone from one end
  of its word to the other, so that now somebody seems to wait
  exactly if nobody did before.  A call that would have been
  granted next is refused after it.  A later series is spared
  exactly if none of its calls comes where the count, without
  the refused one, would be just short of the end of its word
  that this call moves towards.
-/
theorem traceless_iff_granted
    {s s₁ : Turnstile}
    {p : Passage}
    {report : Option Misuse}
    (hTaken : s.take? p = some (s₁, report)) :
    (p.Traceless s.tally ↔ report = none) ∧
    (report ≠ none →
      ((p.isEntry = true ∧
            s.tally.count = Limits.maxWaiters ∧
            s₁.tally.count = 0) ∨
          (p.isExit = true ∧
            s.tally.count = 0 ∧
            s₁.tally.count = Limits.maxWaiters)) ∧
      s₁.tally.hasWaiters = !s.tally.hasWaiters ∧
      (∃ q s' s₁' misuse,
        s.take? q = some (s', none) ∧
          s₁.take? q = some (s₁', some misuse)) ∧
      ∀ ps,
        s.tally.Spares s₁.tally ps ↔
          ∀ before q rest,
            ps = before ++ q :: rest →
              ¬ p.Spoils q (s.tally.after before)) := by
  rcases take?_eq_some_iff.mp hTaken with
    ⟨hTally, rfl, _⟩
  refine ⟨p.traceless_iff s.tally, fun hRefused => ?_⟩
  have hMax :
      Limits.maxWaiters.toNat + 1 =
        18_446_744_073_709_551_616 :=
    rfl
  rw [hTally]
  refine ⟨?_, ?_, ?_, p.spares_iff s.tally⟩
  · rcases Passage.wraps_of_refused hRefused with
      ⟨hEntry, hCount, hAfter⟩ | ⟨hExit, hCount, hAfter⟩
    · refine Or.inl ⟨hEntry, ?_, UInt64.toNat_inj.mp hAfter⟩
      exact UInt64.toNat_inj.mp (by omega)
    · refine Or.inr ⟨hExit, UInt64.toNat_inj.mp hCount, ?_⟩
      exact UInt64.toNat_inj.mp (by omega)
  · rw [Bool.eq_iff_iff, Bool.not_eq_true',
      ← Bool.not_eq_true, Tally.hasWaiters_iff,
      Tally.hasWaiters_iff]
    rcases Passage.wraps_of_refused hRefused with
      ⟨_, hCount, hAfter⟩ | ⟨_, hCount, hAfter⟩ <;>
      omega
  · rcases (p.spoils_iff p.opposite s.tally).mp
        (Passage.spoils_opposite hRefused) with
      ⟨hGranted, hSpoiled⟩
    rcases Option.ne_none_iff_exists'.mp hSpoiled with
      ⟨misuse, hMisuse⟩
    refine
      ⟨p.opposite, ⟨(p.opposite.count s.tally).1, s.held⟩,
        ⟨(p.opposite.count s₁.tally).1, s₁.held⟩, misuse,
        ?_, ?_⟩
    · rw [p.take?_opposite, hGranted]
    · rw [p.take?_opposite, hTally, hMisuse]

/-
  At an empty turnstile an exit is refused.  It leaves the
  largest count, so that somebody seems to wait, and so an
  entry after it is refused as well, which at an empty
  turnstile is granted; an entry after that is not.
-/
theorem traceless_iff_granted_empty :
    fresh.take? .remove =
      some (⟨⟨Limits.maxWaiters⟩, []⟩, some .underflow) ∧
    ¬ Passage.remove.Traceless fresh.tally ∧
    (⟨⟨Limits.maxWaiters⟩, []⟩ : Turnstile).tally.hasWaiters =
      !fresh.tally.hasWaiters ∧
    ¬ fresh.tally.Spares ⟨Limits.maxWaiters⟩ [.enter] ∧
    (⟨Limits.maxWaiters⟩ : Tally).reports [.enter, .enter] =
      [some (.overflow Limits.maxWaiters), none] := by
  have hTaken :
      fresh.take? .remove =
        some (⟨⟨Limits.maxWaiters⟩, []⟩, some .underflow) := by
    decide
  rcases traceless_iff_granted hTaken with
    ⟨hTraceless, hRefusal⟩
  rcases hRefusal (by decide) with ⟨_, hFlipped, _, hSpares⟩
  refine
    ⟨hTaken, fun h => ?_, hFlipped, fun h => ?_, by decide⟩
  · cases hTraceless.mp h
  · refine (hSpares _).mp h [] .enter [] rfl ?_
    exact Or.inl ⟨rfl, Or.inr ⟨rfl, rfl⟩⟩

/-
  A refused call does leave a trace.  After an exit from an
  empty turnstile the count is the largest, somebody seems to
  wait, and an entry is refused that without the exit would
  have got a pass.
-/
theorem not_traceless_of_early_exit :
    (fresh.take? .remove =
        some (⟨⟨Limits.maxWaiters⟩, []⟩, some .underflow) ∧
      Limits.maxWaiters ≠ fresh.tally.count ∧
      (⟨Limits.maxWaiters⟩ : Tally).hasWaiters ≠
        fresh.tally.hasWaiters ∧
      fresh.take? .enter = some (⟨⟨1⟩, [true]⟩, none) ∧
      take? ⟨⟨Limits.maxWaiters⟩, []⟩ .enter =
        some
          (⟨⟨0⟩, []⟩, some (.overflow Limits.maxWaiters))) ∧
    ¬ ∀ (p : Passage) (t : Tally), p.Traceless t := by
  refine ⟨by decide, fun hTraceless => ?_⟩
  rcases hTraceless .remove .empty (by decide) with
    ⟨hCount, _, _⟩
  exact absurd hCount (by decide)

end Turnstile

end CondVar
