import CondVar.Proofs.BenchMoves
import CondVar.Watch

/-
  A wait ends with the first decisive look.

  A look that finds nothing decisive leaves the cohort as it
  is and keeps the deadline.  So a wait ends at the first look
  that finds something decisive, with an outcome that only
  this look's finding determines, and that look alone changes
  the cohort.

  Main declarations:
    * `Vigil.look_eq_settle_iff`
    * `Vigil.keep_settles_iff`
    * `Vigil.keep_of_decisive`
    * `Bench.Keeps`
    * `Bench.keeps_of_run`
    * `first_decisive_look`
-/

namespace CondVar

------------------------------------------------------------
-- One Look
------------------------------------------------------------

namespace Sighting

/- What decides a wait is decisive. -/
theorem Decides.decisive
    {s : Sighting}
    {deadline : Option Instant}
    {o : Outcome}
    (hDecides : s.Decides deadline o) :
    s.Decisive deadline := by
  cases o with
  | interrupted => exact Or.inl hDecides
  | signaled => exact Or.inr (Or.inl hDecides.2)
  | timedOut => exact Or.inr (Or.inr hDecides.2.2)

end Sighting

namespace Vigil

/- A vigil expires when its deadline is reached. -/
theorem expired_iff_late
    (v : Vigil)
    (s : Sighting) :
    v.expired s.clock = true ↔ s.Late v.deadline := by
  unfold expired Sighting.Late
  split
  · rename_i hNone
    simp [hNone]
  · rename_i d hSome
    simp [hSome]

/- A look settles a wait as what it finds decides. -/
theorem look_eq_settle_iff
    (v : Vigil)
    (s : Sighting)
    (o : Outcome) :
    v.look s = .settle o ↔ s.Decides v.deadline o := by
  cases o with
  | interrupted => exact v.look_eq_interrupted_iff s
  | signaled => exact v.look_eq_signaled_iff s
  | timedOut =>
      rw [look_eq_timedOut_iff, expired_iff_late]
      rfl

/- A look that finds nothing decisive keeps the deadline. -/
theorem look_of_indecisive
    {v : Vigil}
    {s : Sighting}
    (hNothing : ¬ s.Decisive v.deadline) :
    ∃ v' wakeAt stalled,
      v.look s = .park v' wakeAt stalled ∧
        v'.deadline = v.deadline := by
  unfold Sighting.Decisive at hNothing
  rw [not_or, not_or, ← expired_iff_late] at hNothing
  unfold look
  rw [if_neg hNothing.1, if_neg hNothing.2.1,
    if_neg hNothing.2.2]
  split
  · exact ⟨_, _, _, rfl, rfl⟩
  · exact ⟨_, _, _, rfl, rfl⟩

/- A waiter parks exactly if it finds nothing decisive. -/
theorem indecisive_of_park
    {v v' : Vigil}
    {s : Sighting}
    {wakeAt : Option Instant}
    {stalled : Option Duration}
    (hPark : v.look s = .park v' wakeAt stalled) :
    ¬ s.Decisive v.deadline := by
  rcases look_eq_park hPark with ⟨hOpen, hNone, hEarly⟩
  rintro (hClosed | hSome | hLate)
  · rw [hOpen] at hClosed
    cases hClosed
  · omega
  · rw [← expired_iff_late, hEarly] at hLate
    cases hLate

/- A waiter that parks again has the same deadline. -/
theorem deadline_of_park
    {v v' : Vigil}
    {s : Sighting}
    {wakeAt : Option Instant}
    {stalled : Option Duration}
    (hPark : v.look s = .park v' wakeAt stalled) :
    v'.deadline = v.deadline := by
  rcases look_of_indecisive (indecisive_of_park hPark) with
    ⟨w, _, _, hLook, hDeadline⟩
  rw [hPark] at hLook
  cases hLook
  exact hDeadline

end Vigil

------------------------------------------------------------
-- All Looks of a Wait
------------------------------------------------------------

namespace Vigil

/- After a look that parks, the wait goes on. -/
theorem keep_of_park
    {v v' : Vigil}
    {s : Sighting}
    {wakeAt : Option Instant}
    {stalled : Option Duration}
    (hPark : v.look s = .park v' wakeAt stalled)
    (ss : List Sighting) :
    v.keep (s :: ss) =
      .park v' wakeAt stalled :: v'.keep ss := by
  rw [keep, hPark]

/- After a look that settles, the wait is over. -/
theorem keep_of_settle
    {v : Vigil}
    {s : Sighting}
    {o : Outcome}
    (hSettle : v.look s = .settle o)
    (ss : List Sighting) :
    v.keep (s :: ss) = [.settle o] := by
  rw [keep, hSettle]

/-
  A wait is settled at the first look that finds something
  decisive, and as that look's finding decides.
-/
theorem keep_settles_iff
    (v : Vigil)
    (ss : List Sighting)
    (n : Nat)
    (o : Outcome) :
    (v.keep ss)[n]? = some (.settle o) ↔
      (∃ s, ss[n]? = some s ∧ s.Decides v.deadline o) ∧
        ∀ k < n, ∀ s, ss[k]? = some s →
          ¬ s.Decisive v.deadline := by
  induction ss generalizing v n with
  | nil => simp [keep]
  | cons s ss ih =>
      by_cases hDecisive : s.Decisive v.deadline
      · cases hLook : v.look s with
        | park v' wakeAt stalled =>
            exact absurd hDecisive (indecisive_of_park hLook)
        | settle o' =>
            rw [keep_of_settle hLook]
            cases n with
            | zero =>
                simp [← look_eq_settle_iff, hLook]
            | succ n =>
                constructor
                · intro hGet
                  cases hGet
                · rintro ⟨_, hFirst⟩
                  exact
                    absurd hDecisive
                      (hFirst 0 (Nat.succ_pos n) s rfl)
      · rcases look_of_indecisive hDecisive with
          ⟨v', wakeAt, stalled, hLook, hDeadline⟩
        rw [keep_of_park hLook]
        cases n with
        | zero =>
            constructor
            · intro hGet
              cases hGet
            · rintro ⟨⟨s', hHead, hDecides⟩, _⟩
              cases hHead
              exact absurd hDecides.decisive hDecisive
        | succ n =>
            rw [List.getElem?_cons_succ, ih, hDeadline]
            constructor
            · rintro ⟨hHere, hFirst⟩
              refine ⟨hHere, ?_⟩
              intro k hLt s' hGet
              cases k with
              | zero =>
                  cases hGet
                  exact hDecisive
              | succ k =>
                  exact
                    hFirst k (Nat.lt_of_succ_lt_succ hLt) s'
                      hGet
            · rintro ⟨hHere, hFirst⟩
              refine ⟨hHere, ?_⟩
              intro k hLt s' hGet
              exact
                hFirst (k + 1) (Nat.succ_lt_succ hLt) s' hGet

/- The look that settles a wait is its last. -/
theorem length_keep_of_settle
    {v : Vigil}
    {ss : List Sighting}
    {n : Nat}
    {o : Outcome}
    (hSettle : (v.keep ss)[n]? = some (.settle o)) :
    (v.keep ss).length = n + 1 := by
  induction ss generalizing v n with
  | nil => cases hSettle
  | cons s ss ih =>
      cases hLook : v.look s with
      | settle o' =>
          rw [keep_of_settle hLook] at hSettle ⊢
          cases n with
          | zero => rfl
          | succ n => cases hSettle
      | park v' wakeAt stalled =>
          rw [keep_of_park hLook] at hSettle ⊢
          cases n with
          | zero => cases hSettle
          | succ n =>
              rw [List.getElem?_cons_succ] at hSettle
              rw [List.length_cons, ih hSettle]

/- A wait that is not settled goes on. -/
theorem length_keep_of_unsettled
    {v : Vigil}
    {ss : List Sighting}
    (hUnsettled : ∀ o, .settle o ∉ v.keep ss) :
    (v.keep ss).length = ss.length := by
  induction ss generalizing v with
  | nil => rfl
  | cons s ss ih =>
      cases hLook : v.look s with
      | settle o =>
          rw [keep_of_settle hLook] at hUnsettled
          exact absurd List.mem_cons_self (hUnsettled o)
      | park v' wakeAt stalled =>
          rw [keep_of_park hLook] at hUnsettled ⊢
          rw [List.length_cons, List.length_cons, ih]
          intro o hMem
          exact hUnsettled o (List.mem_cons_of_mem _ hMem)

/-
  A wait whose waiter finds something decisive is settled.
-/
theorem keep_of_decisive
    {v : Vigil}
    {ss : List Sighting}
    {s : Sighting}
    (hMem : s ∈ ss)
    (hDecisive : s.Decisive v.deadline) :
    ∃ o, .settle o ∈ v.keep ss := by
  induction ss generalizing v with
  | nil => cases hMem
  | cons s' ss ih =>
      cases hLook : v.look s' with
      | settle o =>
          rw [keep_of_settle hLook]
          exact ⟨o, List.mem_cons_self⟩
      | park v' wakeAt stalled =>
          rw [keep_of_park hLook]
          rcases List.mem_cons.mp hMem with rfl | hTail
          · exact absurd hDecisive (indecisive_of_park hLook)
          · rw [← deadline_of_park hLook] at hDecisive
            rcases ih hTail hDecisive with ⟨o, hSettle⟩
            exact ⟨o, List.mem_cons_of_mem _ hSettle⟩

end Vigil

------------------------------------------------------------
-- What Looks Leave
------------------------------------------------------------

namespace Look

/-
  Only a look that settles the wait ends the registration,
  and only one that signals takes a permit.
-/
theorem leave_eq
    (l : Look)
    (c : Cohort) :
    l.leave c =
      { c with
        registered :=
          if l.outcome? = none then c.registered
          else c.registered - 1
        permits :=
          if l.outcome? = some .signaled then c.permits - 1
          else c.permits } := by
  cases l with
  | park v wakeAt stalled => rfl
  | settle o => cases o <;> rfl

end Look

------------------------------------------------------------
-- Waits on a Bench
------------------------------------------------------------

namespace Seat

/- The vigil of a waiter that is waiting. -/
def vigil? : Seat → Option Vigil
| .parked v _ => some v
| .awake v => some v
| _ => none

/- Waking up keeps the vigil. -/
theorem vigil?_wake
    (s : Seat) :
    s.wake.vigil? = s.vigil? := by
  cases s <;> rfl

end Seat

namespace Bench

/- Changing one seat leaves the others as they are. -/
theorem seat_of_setSeat
    {b : Bench}
    {i j : Nat}
    (hOther : i ≠ j)
    (s : Seat) :
    (b.setSeat j s).seats[i]? = b.seats[i]? :=
  List.getElem?_set_ne hOther.symm

/- A look leaves the seats of others as they are. -/
theorem seat_of_look
    {b : Bench}
    {i j : Nat}
    (hOther : i ≠ j)
    (v : Vigil) :
    (b.look j v).1.seats[i]? = b.seats[i]? := by
  unfold look
  split
  · exact seat_of_setSeat hOther _
  · exact seat_of_setSeat hOther _

/- Waking one waiter leaves each seat as it is, or awake. -/
theorem seat_of_awake
    {b : Bench}
    {i j : Nat}
    {s : Seat}
    {v : Vigil}
    {wakeAt : Option Instant}
    (hSeat : b.seats[i]? = some s)
    (hParked : b.seats[j]? = some (.parked v wakeAt)) :
    (b.setSeat j (.awake v)).seats[i]? = some s ∨
      (b.setSeat j (.awake v)).seats[i]? = some s.wake := by
  by_cases hSame : i = j
  · subst hSame
    rw [hSeat] at hParked
    cases hParked
    exact
      Or.inr
        (List.getElem?_set_self
          (List.getElem?_eq_some_iff.mp hSeat).1)
  · exact Or.inl ((seat_of_setSeat hSame _).trans hSeat)

/-
  What a step that is not a look of a seat's waiter leaves of
  the seat: at most, it wakes the waiter.
-/
theorem seat_of_step
    {b b' : Bench}
    {a : Action}
    {es : List Event}
    {i : Nat}
    {s : Seat}
    (hStep : b.step a = some (b', es))
    (hSeat : b.seats[i]? = some s)
    (hOther : a.isLookOf i = false)
    (hKept : a ≠ .withdraw i) :
    b'.seats[i]? = some s ∨ b'.seats[i]? = some s.wake := by
  cases a with
  | enroll =>
      cases hStep
      exact
        Or.inl
          ((List.getElem?_append_left
              (List.getElem?_eq_some_iff.mp hSeat).1).trans
            hSeat)
  | withdraw j =>
      have hNe : i ≠ j := fun hSame => hKept (by rw [hSame])
      simp only [step] at hStep
      split at hStep
      · cases hStep
        exact Or.inl ((seat_of_setSeat hNe _).trans hSeat)
      · cases hStep
  | sit j deadline stall =>
      have hNe : i ≠ j := by
        rintro rfl
        simp [Action.isLookOf] at hOther
      simp only [step] at hStep
      split at hStep
      · have hAfter := congrArg Prod.fst (Option.some.inj hStep)
        subst hAfter
        exact Or.inl ((seat_of_look hNe _).trans hSeat)
      · cases hStep
  | recheck j =>
      have hNe : i ≠ j := by
        rintro rfl
        simp [Action.isLookOf] at hOther
      simp only [step] at hStep
      split at hStep
      · have hAfter := congrArg Prod.fst (Option.some.inj hStep)
        subst hAfter
        exact Or.inl ((seat_of_look hNe _).trans hSeat)
      · cases hStep
  | expire j =>
      simp only [step] at hStep
      split at hStep
      · rename_i v t hParked
        split at hStep
        · cases hStep
          exact seat_of_awake hSeat hParked
        · cases hStep
      · cases hStep
  | post =>
      cases hStep
      exact Or.inl hSeat
  | notify target =>
      simp only [step] at hStep
      split at hStep
      · cases hStep
      · rcases Option.map_eq_some_iff.mp hStep with
          ⟨b₁, hNotify, hEq⟩
        cases hEq
        cases target with
        | none =>
            simp only [notify] at hNotify
            split at hNotify
            · cases hNotify
            · cases hNotify
              exact Or.inl hSeat
        | some j =>
            simp only [notify] at hNotify
            split at hNotify
            · rename_i v wakeAt hParked
              cases hNotify
              exact seat_of_awake hSeat hParked
            · cases hNotify
  | close =>
      cases hStep
      exact Or.inl hSeat
  | rouse =>
      simp only [step] at hStep
      split at hStep
      · cases hStep
        refine Or.inr ?_
        change (b.seats.map Seat.wake)[i]? = _
        rw [List.getElem?_map, hSeat]
        rfl
      · cases hStep
  | tick d =>
      rcases Option.map_eq_some_iff.mp hStep with
        ⟨t, _, hEq⟩
      cases hEq
      exact Or.inl hSeat

/- A seat whose waiter has looked is not given up unused. -/
theorem ne_withdraw_of_step
    {b b' : Bench}
    {a : Action}
    {es : List Event}
    {i : Nat}
    {s : Seat}
    (hStep : b.step a = some (b', es))
    (hSeat : b.seats[i]? = some s)
    (hUsed : s ≠ .fresh) :
    a ≠ .withdraw i := by
  rintro rfl
  simp only [step, hSeat] at hStep
  split at hStep
  · rename_i hFresh
    exact hUsed (Option.some.inj hFresh)
  · cases hStep

/- A step that is no look of a waiter is no visit. -/
theorem visits_of_other
    {b b₁ : Bench}
    {a : Action}
    {es : List Event}
    {i : Nat}
    (hStep : b.step a = some (b₁, es))
    (hOther : a.isLookOf i = false)
    (as : List Action) :
    b.visits i (a :: as) = b₁.visits i as := by
  simp only [visits, hStep, hOther]
  rfl

/- A look of a waiter is a visit. -/
theorem visits_of_look
    {b b₁ : Bench}
    {a : Action}
    {es : List Event}
    {i : Nat}
    (hStep : b.step a = some (b₁, es))
    (hLook : a.isLookOf i = true)
    (as : List Action) :
    b.visits i (a :: as) =
      ⟨b.cohort, b.clock, b₁.cohort⟩ :: b₁.visits i as := by
  simp only [visits, hStep, hLook]
  rfl

/- A step with which a settled waiter could look is not taken. -/
theorem isLookOf_of_settled
    {b b' : Bench}
    {a : Action}
    {es : List Event}
    {i : Nat}
    {o : Outcome}
    (hStep : b.step a = some (b', es))
    (hSeat : b.seats[i]? = some (.settled o)) :
    a.isLookOf i = false := by
  cases hLook : a.isLookOf i with
  | false => rfl
  | true =>
      cases a with
      | sit j deadline stall =>
          cases of_decide_eq_true hLook
          simp [step, hSeat] at hStep
      | recheck j =>
          cases of_decide_eq_true hLook
          simp [step, hSeat] at hStep
      | _ => cases hLook

/- A settled waiter looks no more, and stays settled. -/
theorem settled_of_step
    {b b' : Bench}
    {a : Action}
    {es : List Event}
    {i : Nat}
    {o : Outcome}
    (hStep : b.step a = some (b', es))
    (hSeat : b.seats[i]? = some (.settled o)) :
    a.isLookOf i = false ∧ a ≠ .withdraw i ∧
      b'.seats[i]? = some (.settled o) := by
  have hOther := isLookOf_of_settled hStep hSeat
  have hKept := ne_withdraw_of_step hStep hSeat nofun
  refine ⟨hOther, hKept, ?_⟩
  rcases seat_of_step hStep hSeat hOther hKept with
    hSame | hWoken
  · exact hSame
  · exact hWoken

/-
  A waiter that looks, and has looked before, is awake, and
  goes on with the vigil that it has.
-/
theorem awake_of_look
    {b b' : Bench}
    {a : Action}
    {es : List Event}
    {i : Nat}
    {s : Seat}
    (hStep : b.step a = some (b', es))
    (hLook : a.isLookOf i = true)
    (hSeat : b.seats[i]? = some s)
    (hUsed : s ≠ .fresh) :
    ∃ v, s = .awake v ∧ b.look i v = (b', es) := by
  cases a with
  | sit j deadline stall =>
      cases of_decide_eq_true hLook
      simp only [step, hSeat] at hStep
      split at hStep
      · rename_i hFresh
        exact absurd (Option.some.inj hFresh) hUsed
      · cases hStep
  | recheck j =>
      cases of_decide_eq_true hLook
      simp only [step, hSeat] at hStep
      split at hStep
      · rename_i v hAwake
        exact
          ⟨v, Option.some.inj hAwake, Option.some.inj hStep⟩
      · cases hStep
  | _ => cases hLook

/- A waiter that is settled looks no more and stays so. -/
theorem settled_of_run
    {b b' : Bench}
    {as : List Action}
    {es : List Event}
    {i : Nat}
    {o : Outcome}
    (hSeat : b.seats[i]? = some (.settled o))
    (hRun : b.run as = some (b', es)) :
    b.visits i as = [] ∧
      b'.seats[i]? = some (.settled o) ∧
      .withdraw i ∉ as := by
  induction as generalizing b es with
  | nil =>
      cases hRun
      exact ⟨rfl, hSeat, List.not_mem_nil⟩
  | cons a as ih =>
      rcases run_cons hRun with
        ⟨b₁, es₁, es₂, hStep, hTail, rfl⟩
      rcases settled_of_step hStep hSeat with
        ⟨hOther, hKept, hStill⟩
      rcases ih hStill hTail with ⟨hNone, hEnd, hRest⟩
      rw [visits_of_other hStep hOther]
      refine ⟨hNone, hEnd, ?_⟩
      intro hMem
      rcases List.mem_cons.mp hMem with rfl | hMem
      · exact hKept rfl
      · exact hRest hMem

/-
  A waiter keeps its vigil along a run: its looks are those of
  the vigil, each leaves the cohort as such a look does, it is
  settled if one of them settles it, and its registration is
  not taken back.
-/
structure Keeps
    (i : Nat)
    (v : Vigil)
    (b : Bench)
    (as : List Action)
    (b' : Bench) : Prop where
  length :
    (v.keep ((b.visits i as).map Visit.sighting)).length =
      (b.visits i as).length
  left :
    (b.visits i as).map Visit.left =
      List.zipWith Look.leave
        (v.keep ((b.visits i as).map Visit.sighting))
        ((b.visits i as).map Visit.found)
  settled :
    ∀ o,
      b'.seats[i]? = some (.settled o) ↔
        .settle o ∈
          v.keep ((b.visits i as).map Visit.sighting)
  kept : .withdraw i ∉ as

/- A step that is no look of the waiter is kept through. -/
theorem Keeps.other
    {i : Nat}
    {v : Vigil}
    {b b₁ b' : Bench}
    {a : Action}
    {as : List Action}
    {es : List Event}
    (hKeeps : Keeps i v b₁ as b')
    (hStep : b.step a = some (b₁, es))
    (hOther : a.isLookOf i = false)
    (hKept : a ≠ .withdraw i) :
    Keeps i v b (a :: as) b' := by
  have hVisits := visits_of_other hStep hOther as
  constructor
  · rw [hVisits]
    exact hKeeps.length
  · rw [hVisits]
    exact hKeeps.left
  · rw [hVisits]
    exact hKeeps.settled
  · intro hMem
    rcases List.mem_cons.mp hMem with hHead | hTail
    · exact hKept hHead.symm
    · exact hKeeps.kept hTail

/- A waiter whose look settles its wait keeps its vigil. -/
theorem Keeps.of_settle
    {i : Nat}
    {v : Vigil}
    {b b₁ b' : Bench}
    {a : Action}
    {as : List Action}
    {es es' : List Event}
    {o : Outcome}
    (hStep : b.step a = some (b₁, es))
    (hLook : a.isLookOf i = true)
    (hSettle :
      v.look (b.cohort.sighting b.clock) = .settle o)
    (hLeft : b₁.cohort = b.cohort.settle o)
    (hSeat : b₁.seats[i]? = some (.settled o))
    (hRun : b₁.run as = some (b', es')) :
    Keeps i v b (a :: as) b' := by
  have hVisits := visits_of_look hStep hLook as
  rcases settled_of_run hSeat hRun with ⟨hNone, hEnd, hRest⟩
  have hKeep :
      v.keep
          (Visit.sighting ⟨b.cohort, b.clock, b₁.cohort⟩ ::
            (b₁.visits i as).map Visit.sighting) =
        [.settle o] :=
    Vigil.keep_of_settle hSettle _
  constructor
  · rw [hVisits, List.map_cons, hKeep, hNone]
    rfl
  · rw [hVisits, List.map_cons, List.map_cons, List.map_cons,
      hKeep, hNone, hLeft]
    rfl
  · intro o'
    rw [hVisits, List.map_cons, hKeep, hEnd]
    simp [eq_comm]
  · intro hMem
    rcases List.mem_cons.mp hMem with rfl | hTail
    · cases hLook
    · exact hRest hTail

/-
  A waiter whose look parks it keeps its vigil if it keeps the
  one it parks with.
-/
theorem Keeps.of_park
    {i : Nat}
    {v v' : Vigil}
    {b b₁ b' : Bench}
    {a : Action}
    {as : List Action}
    {es : List Event}
    {wakeAt : Option Instant}
    {stalled : Option Duration}
    (hStep : b.step a = some (b₁, es))
    (hLook : a.isLookOf i = true)
    (hPark :
      v.look (b.cohort.sighting b.clock) =
        .park v' wakeAt stalled)
    (hLeft : b₁.cohort = b.cohort)
    (hKeeps : Keeps i v' b₁ as b') :
    Keeps i v b (a :: as) b' := by
  have hVisits := visits_of_look hStep hLook as
  have hKeep :
      v.keep
          (Visit.sighting ⟨b.cohort, b.clock, b₁.cohort⟩ ::
            (b₁.visits i as).map Visit.sighting) =
        .park v' wakeAt stalled ::
          v'.keep ((b₁.visits i as).map Visit.sighting) :=
    Vigil.keep_of_park hPark _
  constructor
  · rw [hVisits, List.map_cons, hKeep, List.length_cons,
      List.length_cons, hKeeps.length]
  · rw [hVisits, List.map_cons, List.map_cons, List.map_cons,
      hKeep, hKeeps.left, hLeft]
    rfl
  · intro o'
    rw [hVisits, List.map_cons, hKeep, hKeeps.settled]
    simp
  · intro hMem
    rcases List.mem_cons.mp hMem with rfl | hTail
    · cases hLook
    · exact hKeeps.kept hTail

/-
  A waiter that looks keeps its vigil if, where it parks, it
  keeps it from then on.
-/
theorem Keeps.look
    {i : Nat}
    {v : Vigil}
    {b b₁ b' : Bench}
    {a : Action}
    {as : List Action}
    {es es' : List Event}
    (hStep : b.step a = some (b.look i v))
    (hLook : a.isLookOf i = true)
    (hSeat : i < b.seats.length)
    (hAfter : b.look i v = (b₁, es))
    (hRun : b₁.run as = some (b', es'))
    (hOn :
      ∀ v' wakeAt,
        b₁.seats[i]? = some (.parked v' wakeAt) →
          Keeps i v' b₁ as b') :
    Keeps i v b (a :: as) b' := by
  rw [hAfter] at hStep
  unfold Bench.look at hAfter
  split at hAfter
  · rename_i o hSettle
    cases hAfter
    exact
      .of_settle hStep hLook hSettle rfl
        (List.getElem?_set_self hSeat) hRun
  · rename_i v' wakeAt stalled hPark
    cases hAfter
    exact
      .of_park hStep hLook hPark rfl
        (hOn v' wakeAt (List.getElem?_set_self hSeat))

/- A waiter that has parked keeps its vigil. -/
theorem keeps_of_run
    {i : Nat}
    {v : Vigil}
    {b b' : Bench}
    {s : Seat}
    {as : List Action}
    {es : List Event}
    (hSeat : b.seats[i]? = some s)
    (hVigil : s.vigil? = some v)
    (hRun : b.run as = some (b', es)) :
    Keeps i v b as b' := by
  induction as generalizing b s v es with
  | nil =>
      cases hRun
      refine ⟨rfl, rfl, ?_, List.not_mem_nil⟩
      intro o
      rw [hSeat]
      constructor
      · intro hSettled
        cases Option.some.inj hSettled
        cases hVigil
      · intro hMem
        cases hMem
  | cons a as ih =>
      rcases run_cons hRun with
        ⟨b₁, es₁, es₂, hStep, hTail, rfl⟩
      have hUsed : s ≠ .fresh := by
        rintro rfl
        cases hVigil
      cases hLook : a.isLookOf i with
      | false =>
          have hKept := ne_withdraw_of_step hStep hSeat hUsed
          rcases seat_of_step hStep hSeat hLook hKept with
            hSame | hWoken
          · exact
              (ih hSame hVigil hTail).other hStep hLook hKept
          · exact
              (ih hWoken (s.vigil?_wake.trans hVigil)
                hTail).other hStep hLook hKept
      | true =>
          have hLt := (List.getElem?_eq_some_iff.mp hSeat).1
          rcases awake_of_look hStep hLook hSeat hUsed with
            ⟨w, rfl, hAfter⟩
          cases hVigil
          rw [← hAfter] at hStep
          exact
            .look hStep hLook hLt hAfter hTail
              (fun v' wakeAt hParked => ih hParked rfl hTail)

/- A waiter that takes its seat keeps the vigil it starts. -/
theorem keeps_of_sit
    {i : Nat}
    {deadline : Option Instant}
    {stall : Option Duration}
    {b b' : Bench}
    {as : List Action}
    {es : List Event}
    (hRun :
      b.run (.sit i deadline stall :: as) = some (b', es)) :
    Keeps i (.start deadline stall b.clock) b
      (.sit i deadline stall :: as) b' := by
  rcases run_cons hRun with
    ⟨b₁, es₁, es₂, hStep, hTail, rfl⟩
  have hSits := hStep
  simp only [step] at hSits
  split at hSits
  · rename_i hFresh
    have hAfter := Option.some.inj hSits
    rw [← hAfter] at hStep
    exact
      .look hStep (decide_eq_true rfl)
        (List.getElem?_eq_some_iff.mp hFresh).1 hAfter hTail
        (fun v' wakeAt hParked =>
          keeps_of_run hParked rfl hTail)
  · cases hSits

end Bench

------------------------------------------------------------
-- Whole Waits
------------------------------------------------------------

/-
  Whatever the deadline and the stall period of a wait, if it
  has them, and whatever its waiter finds each time it looks:
  the wait is settled at the first look that finds the cohort
  closed, or a permit, or the deadline reached, and so it is
  settled as soon as there is such a look.  It is interrupted,
  signaled, or out of time, the first of these that the look's
  finding allows, and out of time only with a deadline.  That
  look is the last, and without it the wait goes on.  It alone
  changes the cohort: it ends the registration, and takes a
  permit if the wait is signaled.  And the looks of a waiter
  on a bench, whatever the others do in between, are those of
  such a wait, after which its registration is not taken back
  once more.
-/
theorem first_decisive_look
    (deadline : Option Instant)
    (stall : Option Duration)
    (started : Instant)
    (ss : List Sighting)
    (looks : List Look)
    (hLooks :
      looks = (Vigil.start deadline stall started).keep ss) :
    (∀ (n : Nat) (o : Outcome),
      looks[n]? = some (.settle o) ↔
        (∃ s, ss[n]? = some s ∧ s.Decides deadline o) ∧
          ∀ k < n, ∀ s, ss[k]? = some s →
            ¬ s.Decisive deadline) ∧
    (∀ s ∈ ss,
      s.Decisive deadline → ∃ o, .settle o ∈ looks) ∧
    (deadline = none → .settle .timedOut ∉ looks) ∧
    (∀ n o,
      looks[n]? = some (.settle o) →
        looks.length = n + 1) ∧
    ((∀ o, .settle o ∉ looks) → looks.length = ss.length) ∧
    (∀ l ∈ looks, ∀ c : Cohort,
      l.leave c =
        { c with
          registered :=
            if l.outcome? = none then c.registered
            else c.registered - 1
          permits :=
            if l.outcome? = some .signaled then c.permits - 1
            else c.permits }) ∧
    (∀ (b b' : Bench) (i : Nat) (as : List Bench.Action)
        (es : List Bench.Event),
      b.run (.sit i deadline stall :: as) = some (b', es) →
        Bench.Keeps i (.start deadline stall b.clock) b
          (.sit i deadline stall :: as) b') := by
  subst hLooks
  have hSettles :=
    (Vigil.start deadline stall started).keep_settles_iff ss
  refine
    ⟨hSettles, ?_, ?_, ?_, Vigil.length_keep_of_unsettled,
      fun l _ c => l.leave_eq c, ?_⟩
  · intro s hMem hDecisive
    exact Vigil.keep_of_decisive hMem hDecisive
  · rintro rfl hMem
    rcases List.getElem?_of_mem hMem with ⟨n, hGet⟩
    rcases (hSettles n _).mp hGet with
      ⟨⟨s, _, hDecides⟩, _⟩
    rcases hDecides.2.2 with ⟨d, hNone, _⟩
    cases hNone
  · intro n o hSettle
    exact Vigil.length_keep_of_settle hSettle
  · intro b b' i as es hRun
    exact Bench.keeps_of_sit hRun

/-
  A wait that parks, warns of a stall and parks again, and
  then finds the cohort closed, with a permit, and its own
  deadline over.  On a bench, a waiter that is told of a permit
  finds it gone, parks again, and runs out of time.
-/
theorem first_decisive_look_third :
    ∃ looks looks' b b' es,
      looks =
        (Vigil.start (some ⟨5⟩) (some (.ofNanos 2)) ⟨0⟩).keep
          [⟨false, 0, ⟨0⟩⟩, ⟨false, 0, ⟨3⟩⟩, ⟨true, 1, ⟨9⟩⟩,
            ⟨false, 1, ⟨9⟩⟩] ∧
      looks[2]? = some (.settle .interrupted) ∧
      looks.length = 3 ∧
      looks' = (Vigil.start (some ⟨5⟩) none ⟨0⟩).keep [] ∧
      b = ⟨⟨0, 2, 0, false⟩, [.fresh, .fresh], 0, false, ⟨0⟩⟩ ∧
      Bench.run b
          [.sit 0 (some ⟨5⟩) none, .post, .notify (some 0),
            .sit 1 none none, .recheck 0, .tick (.ofNanos 7),
            .expire 0, .recheck 0] =
        some (b', es) ∧
      Bench.Keeps 0 (.start (some ⟨5⟩) none ⟨0⟩) b
        [.sit 0 (some ⟨5⟩) none, .post, .notify (some 0),
          .sit 1 none none, .recheck 0, .tick (.ofNanos 7),
          .expire 0, .recheck 0]
        b' ∧
      b'.seats[0]? = some (.settled .timedOut) := by
  have hRun :
      Bench.run
          ⟨⟨0, 2, 0, false⟩, [.fresh, .fresh], 0, false, ⟨0⟩⟩
          [.sit 0 (some ⟨5⟩) none, .post, .notify (some 0),
            .sit 1 none none, .recheck 0, .tick (.ofNanos 7),
            .expire 0, .recheck 0] =
        some
          (⟨⟨0, 0, 0, false⟩,
              [.settled .timedOut, .settled .signaled], 0,
              false, ⟨7⟩⟩,
            [.posted (.woken 1), .settled 1 .signaled,
              .settled 0 .timedOut]) := by
    decide
  rcases first_decisive_look (some ⟨5⟩) (some (.ofNanos 2))
      ⟨0⟩
      [⟨false, 0, ⟨0⟩⟩, ⟨false, 0, ⟨3⟩⟩, ⟨true, 1, ⟨9⟩⟩,
        ⟨false, 1, ⟨9⟩⟩]
      _ rfl with
    ⟨hSettles, _, _, hLength, _⟩
  rcases first_decisive_look (some ⟨5⟩) none ⟨0⟩ [] _ rfl with
    ⟨_, _, _, _, _, _, hKeeps⟩
  have hThird := (hSettles 2 .interrupted).mpr
    ⟨⟨_, rfl, rfl⟩, by decide⟩
  exact
    ⟨_, _, _, _, _, rfl, hThird, hLength 2 _ hThird, rfl, rfl,
      hRun, hKeeps _ _ 0 _ _ hRun, rfl⟩

end CondVar
