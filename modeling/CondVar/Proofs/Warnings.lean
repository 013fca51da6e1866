import CondVar.Proofs.FirstLook
import Mathlib.Data.List.Chain

/-
  How often a wait warns of a stall.

  A wait that parks is armed with the time of its next
  warning: one period after its latest warning, or after its
  start if there was none.  A look warns exactly if it finds
  nothing decisive when that time has come, and the wait is
  armed anew from the reading at which it has warned.  So
  warnings are one period apart at least, however late the
  looks are and however many there are.

  Main declarations:
    * `Vigil.park_cases`
    * `Vigil.warnings`
    * `Vigil.Armed`
    * `Vigil.Armed.stalled?_iff`
    * `Vigil.Armed.isChain_warnings`
    * `Bench.stallsOf_of_sit`
    * `stall_warnings_spaced`
-/

namespace CondVar

------------------------------------------------------------
-- Looks That Park
------------------------------------------------------------

namespace Vigil

/-
  A look that parks the waiter either leaves its vigil as it
  is or, once the next warning is due, warns and rearms it.
-/
theorem park_cases
    {v v' : Vigil}
    {s : Sighting}
    {wakeAt : Option Instant}
    {stalled : Option Duration}
    (hPark : v.look s = .park v' wakeAt stalled) :
    wakeAt = v'.wakeAt ∧
      ((v.due s.clock = false ∧ v' = v ∧ stalled = none) ∨
        (v.due s.clock = true ∧ v' = v.rearm s.clock ∧
          stalled = some (s.clock.since v.started))) := by
  unfold look at hPark
  split at hPark
  · cases hPark
  · split at hPark
    · cases hPark
    · split at hPark
      · cases hPark
      · split at hPark
        · rename_i hDue
          cases hPark
          exact ⟨rfl, Or.inr ⟨hDue, rfl, rfl⟩⟩
        · rename_i hEarly
          cases hPark
          exact
            ⟨rfl,
              Or.inl
                ⟨Bool.eq_false_iff.mpr hEarly, rfl, rfl⟩⟩

/- A warning is due once its time has come. -/
theorem due_iff
    (v : Vigil)
    (now : Instant) :
    v.due now = true ↔ ∃ w ∈ v.nextWarning, w ≤ now := by
  unfold due
  split
  · rename_i hNone
    simp [hNone]
  · rename_i w hSome
    simp [hSome]

------------------------------------------------------------
-- Warnings of a Wait
------------------------------------------------------------

/- The clock readings of a wait's looks that warn of a stall. -/
def warnings
    (v : Vigil)
    (ss : List Sighting) : List Instant :=
  ((v.keep ss).zip ss).filterMap
    (fun x => x.1.stalled?.map (fun _ => x.2.clock))

/- A wait that is settled at once does not warn. -/
theorem warnings_of_settle
    {v : Vigil}
    {s : Sighting}
    {o : Outcome}
    (hSettle : v.look s = .settle o)
    (ss : List Sighting) :
    v.warnings (s :: ss) = [] := by
  unfold warnings
  rw [keep_of_settle hSettle, List.zip_cons_cons,
    List.zip_nil_left]
  rfl

/- A wait that parks has warned or not, and goes on. -/
theorem warnings_of_park
    {v v' : Vigil}
    {s : Sighting}
    {wakeAt : Option Instant}
    {stalled : Option Duration}
    (hPark : v.look s = .park v' wakeAt stalled)
    (ss : List Sighting) :
    v.warnings (s :: ss) =
      (stalled.map (fun _ => s.clock)).toList ++
        v'.warnings ss := by
  unfold warnings
  rw [keep_of_park hPark, List.zip_cons_cons,
    List.filterMap_cons]
  cases stalled with
  | none => rfl
  | some d => rfl

/- What comes after the last look does not matter. -/
theorem warnings_take
    (v : Vigil)
    (ss : List Sighting) :
    v.warnings (ss.take (v.keep ss).length) =
      v.warnings ss := by
  induction ss generalizing v with
  | nil => rfl
  | cons s ss ih =>
      cases hLook : v.look s with
      | settle o =>
          rw [keep_of_settle hLook, List.length_singleton,
            List.take_succ_cons, warnings_of_settle hLook,
            warnings_of_settle hLook]
      | park v' wakeAt stalled =>
          rw [keep_of_park hLook, List.length_cons,
            List.take_succ_cons, warnings_of_park hLook,
            warnings_of_park hLook, ih v']

/- Warnings are given at readings of the clock. -/
theorem mem_clocks_of_mem_warnings
    {v : Vigil}
    {ss : List Sighting}
    {w : Instant}
    (hMem : w ∈ v.warnings ss) :
    w ∈ ss.map Sighting.clock := by
  rcases List.mem_filterMap.mp hMem with ⟨x, hZip, hSome⟩
  rcases Option.map_eq_some_iff.mp hSome with ⟨d, _, rfl⟩
  apply List.mem_map_of_mem
  exact (List.of_mem_zip hZip).2

------------------------------------------------------------
-- Armed Vigils
------------------------------------------------------------

/-
  A vigil warns next when one period has passed since a
  reading, if the clock gets there.
-/
structure Armed
    (v : Vigil)
    (p : Duration)
    (since : Instant) : Prop where
  stall : v.stall = some p
  next : v.nextWarning = since.after? p

/- A wait with a stall period is armed from its start. -/
theorem armed_start
    (deadline : Option Instant)
    (p : Duration)
    (started : Instant) :
    (start deadline (some p) started).Armed p started := by
  constructor
  · rfl
  · exact Option.bind_some p started.after?

namespace Armed

variable {v v' : Vigil}
variable {p : Duration}
variable {since : Instant}
variable {s : Sighting}
variable {wakeAt : Option Instant}
variable {stalled : Option Duration}

/- A warning is due when one period has passed. -/
theorem due_iff
    (hArmed : v.Armed p since)
    (now : Instant) :
    v.due now = true ↔ ∃ w ∈ since.after? p, w ≤ now := by
  rw [Vigil.due_iff, hArmed.next]

/- A look that warns comes one period after the last one. -/
theorem le_of_due
    {now : Instant}
    (hArmed : v.Armed p since)
    (hDue : v.due now = true) :
    since.nanos + p.toNanos ≤ now.nanos := by
  rcases (hArmed.due_iff now).mp hDue with ⟨w, hAfter, hLe⟩
  rw [← Instant.nanos_of_after? hAfter]
  exact hLe

/- After a warning, a wait is armed from its reading on. -/
theorem rearm
    (hArmed : v.Armed p since)
    (now : Instant) :
    (v.rearm now).Armed p now := by
  constructor
  · exact hArmed.stall
  · change v.stall.bind now.after? = now.after? p
    rw [hArmed.stall]
    exact Option.bind_some p now.after?

/-
  A wait that parks is armed from the reading at which it has
  just warned, or as it was.
-/
theorem park
    (hArmed : v.Armed p since)
    (hPark : v.look s = .park v' wakeAt stalled) :
    v'.Armed p (if stalled.isSome then s.clock else since) := by
  rcases park_cases hPark with
    ⟨_, ⟨_, rfl, rfl⟩ | ⟨_, rfl, rfl⟩⟩
  · exact hArmed
  · exact hArmed.rearm s.clock

/- The reading since which a wait is armed when it goes on. -/
theorem getLast_warnings_of_park
    (hPark : v.look s = .park v' wakeAt stalled)
    (ss : List Sighting) :
    (v.warnings (s :: ss)).getLast?.getD since =
      (v'.warnings ss).getLast?.getD
        (if stalled.isSome then s.clock else since) := by
  rw [warnings_of_park hPark]
  cases stalled with
  | none => rfl
  | some d =>
      cases hRest : (v'.warnings ss).getLast? with
      | none =>
          rw [List.getLast?_eq_none_iff.mp hRest]
          rfl
      | some w =>
          rw [List.getLast?_append, hRest]
          rfl

/-
  A look warns exactly if it finds nothing decisive one period
  after the latest warning, or after the start if there was
  none.  It says how long the wait has lasted.
-/
theorem stalled?_iff
    {ss : List Sighting}
    {n : Nat}
    {l : Look}
    (hArmed : v.Armed p since)
    (hLook : (v.keep ss)[n]? = some l) :
    ∃ x, ss[n]? = some x ∧
      ∀ d,
        l.stalled? = some d ↔
          d = x.clock.since v.started ∧
            ¬ x.Decisive v.deadline ∧
            ∃ w ∈
                Instant.after?
                  ((v.warnings (ss.take n)).getLast?.getD
                    since)
                  p,
              w ≤ x.clock := by
  induction ss generalizing v since n with
  | nil => cases hLook
  | cons x ss ih =>
      cases hFirst : v.look x with
      | settle o =>
          rw [keep_of_settle hFirst] at hLook
          cases n with
          | succ n => cases hLook
          | zero =>
              cases hLook
              refine ⟨x, rfl, ?_⟩
              intro d
              have hDecisive :=
                ((look_eq_settle_iff v x o).mp hFirst).decisive
              constructor
              · intro hNone
                cases hNone
              · rintro ⟨_, hNothing, _⟩
                exact absurd hDecisive hNothing
      | park v₁ wakeAt₁ stalled₁ =>
          rw [keep_of_park hFirst] at hLook
          cases n with
          | zero =>
              cases hLook
              refine ⟨x, rfl, ?_⟩
              intro d
              have hNothing := indecisive_of_park hFirst
              change stalled₁ = some d ↔
                _ ∧ _ ∧ ∃ w ∈ since.after? p, w ≤ x.clock
              rw [← hArmed.due_iff]
              rcases park_cases hFirst with
                ⟨_, ⟨hEarly, _, rfl⟩ | ⟨hDue, _, rfl⟩⟩
              · simp [hEarly]
              · simp [hDue, hNothing, eq_comm]
          | succ n =>
              have hKept := deadline_of_park hFirst
              have hStarted : v₁.started = v.started := by
                rcases park_cases hFirst with
                  ⟨_, ⟨_, rfl, _⟩ | ⟨_, rfl, _⟩⟩
                · rfl
                · rfl
              rw [List.getElem?_cons_succ] at hLook
              rcases ih (hArmed.park hFirst) hLook with
                ⟨y, hHere, hWarns⟩
              refine ⟨y, hHere, ?_⟩
              rw [List.take_succ_cons,
                getLast_warnings_of_park hFirst, ← hKept,
                ← hStarted]
              exact hWarns

/-
  The first warning comes one period after the start at the
  earliest, and each further one a period after the last.
-/
theorem isChain_warnings
    (hArmed : v.Armed p since)
    (ss : List Sighting) :
    List.IsChain
      (fun i j => i.nanos + p.toNanos ≤ j.nanos)
      (since :: v.warnings ss) := by
  induction ss generalizing v since with
  | nil => exact List.isChain_singleton since
  | cons s ss ih =>
      cases hLook : v.look s with
      | settle o =>
          rw [warnings_of_settle hLook]
          exact List.isChain_singleton since
      | park v' wakeAt stalled =>
          have hRest := ih (hArmed.park hLook)
          rw [warnings_of_park hLook]
          rcases park_cases hLook with
            ⟨_, ⟨_, _, rfl⟩ | ⟨hDue, _, rfl⟩⟩
          · exact hRest
          · exact
              List.isChain_cons_cons.mpr
                ⟨hArmed.le_of_due hDue, hRest⟩

/- A wait that is armed for no time at all does not warn. -/
theorem warnings_eq_nil
    (hArmed : v.Armed p since)
    (hNever : since.after? p = none)
    (ss : List Sighting) :
    v.warnings ss = [] := by
  induction ss generalizing v with
  | nil => rfl
  | cons s ss ih =>
      cases hLook : v.look s with
      | settle o => exact warnings_of_settle hLook ss
      | park v' wakeAt stalled =>
          have hEarly : v.due s.clock = false := by
            apply Bool.eq_false_iff.mpr
            rw [Ne, hArmed.due_iff, hNever]
            rintro ⟨w, hMem, _⟩
            cases hMem
          rw [warnings_of_park hLook]
          rcases park_cases hLook with
            ⟨_, ⟨_, rfl, rfl⟩ | ⟨hDue, _, _⟩⟩
          · exact ih hArmed
          · rw [hEarly] at hDue
            cases hDue

/- A warning after which the clock ends is the last one. -/
theorem length_warnings
    {ss : List Sighting}
    {k : Nat}
    {w : Instant}
    (hArmed : v.Armed p since)
    (hWarned : (v.warnings ss)[k]? = some w)
    (hNever : w.after? p = none) :
    (v.warnings ss).length = k + 1 := by
  induction ss generalizing v since k with
  | nil => cases hWarned
  | cons s ss ih =>
      cases hLook : v.look s with
      | settle o =>
          rw [warnings_of_settle hLook] at hWarned
          cases hWarned
      | park v' wakeAt stalled =>
          have hNext := hArmed.park hLook
          rw [warnings_of_park hLook] at hWarned ⊢
          cases stalled with
          | none => exact ih hNext hWarned
          | some d =>
              cases k with
              | zero =>
                  cases hWarned
                  rw [hNext.warnings_eq_nil hNever]
                  rfl
              | succ k =>
                  exact
                    congrArg (· + 1) (ih hNext hWarned)

end Armed

end Vigil

------------------------------------------------------------
-- Steps of One Period
------------------------------------------------------------

namespace Instant

/- As many periods have passed as there were steps of one. -/
theorem le_of_isChain
    {p : Duration}
    {since w : Instant}
    {ws : List Instant}
    {k : Nat}
    (hChain :
      List.IsChain
        (fun i j => i.nanos + p.toNanos ≤ j.nanos)
        (since :: ws))
    (hGet : ws[k]? = some w) :
    since.nanos + (k + 1) * p.toNanos ≤ w.nanos := by
  induction ws generalizing since k with
  | nil => cases hGet
  | cons x ws ih =>
      rcases List.isChain_cons_cons.mp hChain with
        ⟨hFirst, hRest⟩
      cases k with
      | zero =>
          cases hGet
          rw [Nat.zero_add, Nat.one_mul]
          exact hFirst
      | succ k =>
          calc since.nanos + (k + 1 + 1) * p.toNanos
              = since.nanos + p.toNanos +
                  (k + 1) * p.toNanos := by
                rw [Nat.succ_mul, Nat.add_assoc,
                  Nat.add_comm p.toNanos]
            _ ≤ x.nanos + (k + 1) * p.toNanos :=
                Nat.add_le_add_right hFirst _
            _ ≤ w.nanos := ih hRest hGet

end Instant

/-
  A wait whose clock never goes back has lasted for a period
  at least for each of its warnings.
-/
theorem Vigil.Armed.le_getLast
    {v : Vigil}
    {p : Duration}
    {since : Instant}
    {ss : List Sighting}
    {s : Sighting}
    (hArmed : v.Armed p since)
    (hForward :
      (since :: ss.map Sighting.clock).Pairwise (· ≤ ·))
    (hLast : ss.getLast? = some s) :
    since.nanos + (v.warnings ss).length * p.toNanos ≤
      s.clock.nanos := by
  rcases List.pairwise_cons.mp hForward with ⟨hStart, hOn⟩
  have hClock : s.clock ∈ ss.map Sighting.clock :=
    List.mem_map_of_mem (List.mem_of_getLast? hLast)
  -- No reading is later than the last one.
  have hUpTo : ∀ w ∈ ss.map Sighting.clock, w ≤ s.clock := by
    have hEnd :
        (ss.map Sighting.clock).getLast? = some s.clock := by
      rw [List.getLast?_map, hLast]
      rfl
    rcases List.getLast?_eq_some_iff.mp hEnd with
      ⟨before, hSplit⟩
    rw [hSplit] at hOn ⊢
    intro w hMem
    rcases List.mem_append.mp hMem with hBefore | hHere
    · exact
        (List.pairwise_append.mp hOn).2.2 w hBefore s.clock
          List.mem_cons_self
    · rw [List.mem_singleton.mp hHere]
      exact Nat.le_refl s.clock.nanos
  cases hCount : (v.warnings ss).length with
  | zero =>
      rw [Nat.zero_mul, Nat.add_zero]
      exact hStart s.clock hClock
  | succ k =>
      have hLt : k < (v.warnings ss).length := by
        rw [hCount]
        exact Nat.lt_succ_self k
      have hGet := List.getElem?_eq_getElem hLt
      calc since.nanos + (k + 1) * p.toNanos
          ≤ ((v.warnings ss)[k]).nanos :=
            Instant.le_of_isChain
              (hArmed.isChain_warnings ss) hGet
        _ ≤ s.clock.nanos :=
            hUpTo _
              (mem_clocks_of_mem_warnings
                (List.getElem_mem hLt))

------------------------------------------------------------
-- Warnings on a Bench
------------------------------------------------------------

namespace Bench

/- How long the wait of a seat has lasted when it warns. -/
def Event.stallOf?
    (i : Nat) : Event → Option Duration
| .stalled j d => if j = i then some d else none
| _ => none

/- What a seat's waiter reports when it warns. -/
def stallsOf
    (i : Nat)
    (es : List Event) : List Duration :=
  es.filterMap (Event.stallOf? i)

/- A waiter that looks reports what its look says. -/
theorem stallsOf_look
    (b : Bench)
    (i : Nat)
    (v : Vigil) :
    stallsOf i (b.look i v).2 =
      ((v.look (b.cohort.sighting b.clock)).stalled?).toList := by
  unfold look
  cases hLook : v.look (b.cohort.sighting b.clock) with
  | settle o => rfl
  | park v' wakeAt stalled =>
      cases stalled with
      | none => rfl
      | some d => simp [stallsOf, Event.stallOf?, Look.stalled?]

/- A look of another waiter is no report of this one. -/
theorem stallsOf_look_other
    {i j : Nat}
    (b : Bench)
    (v : Vigil)
    (hOther : j ≠ i) :
    stallsOf i (b.look j v).2 = [] := by
  unfold look
  cases hLook : v.look (b.cohort.sighting b.clock) with
  | settle o => rfl
  | park v' wakeAt stalled =>
      cases stalled with
      | none => rfl
      | some d => simp [stallsOf, Event.stallOf?, hOther]

/- A waiter reports nothing where it does not look. -/
theorem stallsOf_of_other
    {b b' : Bench}
    {a : Action}
    {es : List Event}
    {i : Nat}
    (hStep : b.step a = some (b', es))
    (hOther : a.isLookOf i = false) :
    stallsOf i es = [] := by
  have hLooks :
      ∀ {j : Nat} {v : Vigil},
        j ≠ i → some (b.look j v) = some (b', es) →
          stallsOf i es = [] := by
    intro j v hNe hLook
    have hNone := b.stallsOf_look_other v hNe
    rw [Option.some.inj hLook] at hNone
    exact hNone
  cases a with
  | sit j deadline stall =>
      simp only [step] at hStep
      split at hStep
      · exact hLooks (of_decide_eq_false hOther) hStep
      · cases hStep
  | recheck j =>
      simp only [step] at hStep
      split at hStep
      · exact hLooks (of_decide_eq_false hOther) hStep
      · cases hStep
  | withdraw j =>
      simp only [step] at hStep
      split at hStep
      · cases hStep
        rfl
      · cases hStep
  | expire j =>
      simp only [step] at hStep
      split at hStep
      · split at hStep
        · cases hStep
          rfl
        · cases hStep
      · cases hStep
  | notify target =>
      simp only [step] at hStep
      split at hStep
      · cases hStep
      · rcases Option.map_eq_some_iff.mp hStep with
          ⟨b₁, _, hEq⟩
        cases hEq
        rfl
  | rouse =>
      simp only [step] at hStep
      split at hStep
      · cases hStep
        rfl
      · cases hStep
  | tick d =>
      rcases Option.map_eq_some_iff.mp hStep with
        ⟨t, _, hEq⟩
      cases hEq
      rfl
  | enroll =>
      cases hStep
      rfl
  | post =>
      cases hStep
      rfl
  | close =>
      cases hStep
      rfl

/- A waiter that is settled reports no more. -/
theorem stallsOf_of_settled
    {b b' : Bench}
    {as : List Action}
    {es : List Event}
    {i : Nat}
    {o : Outcome}
    (hSeat : b.seats[i]? = some (.settled o))
    (hRun : b.run as = some (b', es)) :
    stallsOf i es = [] := by
  induction as generalizing b es with
  | nil =>
      cases hRun
      rfl
  | cons a as ih =>
      rcases run_cons hRun with
        ⟨b₁, es₁, es₂, hStep, hTail, rfl⟩
      rcases settled_of_step hStep hSeat with
        ⟨hOther, _, hStill⟩
      unfold stallsOf
      rw [List.filterMap_append]
      exact
        List.append_eq_nil_iff.mpr
          ⟨stallsOf_of_other hStep hOther, ih hStill hTail⟩

/-
  A waiter that looks reports what its look says, and from
  then on what the looks of the vigil say that it parks with.
-/
theorem stallsOf_of_look
    {b b₁ b' : Bench}
    {a : Action}
    {as : List Action}
    {es es' : List Event}
    {i : Nat}
    {v : Vigil}
    (hStep : b.step a = some (b₁, es))
    (hLook : a.isLookOf i = true)
    (hSeat : i < b.seats.length)
    (hAfter : b.look i v = (b₁, es))
    (hRun : b₁.run as = some (b', es'))
    (hOn :
      ∀ v' wakeAt,
        b₁.seats[i]? = some (.parked v' wakeAt) →
          stallsOf i es' =
            (v'.keep
              ((b₁.visits i as).map
                Visit.sighting)).filterMap Look.stalled?) :
    stallsOf i (es ++ es') =
      (v.keep
        ((b.visits i (a :: as)).map
          Visit.sighting)).filterMap Look.stalled? := by
  have hSays := b.stallsOf_look i v
  rw [hAfter] at hSays
  have hSplit :
      stallsOf i (es ++ es') =
        ((v.look
          (b.cohort.sighting b.clock)).stalled?).toList ++
            stallsOf i es' := by
    rw [← hSays]
    exact List.filterMap_append
  rw [hSplit, visits_of_look hStep hLook, List.map_cons]
  change _ =
    (v.keep (b.cohort.sighting b.clock :: _)).filterMap _
  unfold Bench.look at hAfter
  split at hAfter
  · rename_i o hSettle
    cases hAfter
    rw [stallsOf_of_settled (List.getElem?_set_self hSeat)
        hRun,
      Vigil.keep_of_settle hSettle, hSettle]
    rfl
  · rename_i v' wakeAt stalled hPark
    cases hAfter
    rw [hOn v' wakeAt (List.getElem?_set_self hSeat),
      Vigil.keep_of_park hPark, hPark]
    cases stalled with
    | none => rfl
    | some d => rfl

/- A waiter that has parked reports what its looks say. -/
theorem stallsOf_of_run
    {b b' : Bench}
    {as : List Action}
    {es : List Event}
    {i : Nat}
    {s : Seat}
    {v : Vigil}
    (hSeat : b.seats[i]? = some s)
    (hVigil : s.vigil? = some v)
    (hRun : b.run as = some (b', es)) :
    stallsOf i es =
      (v.keep
        ((b.visits i as).map Visit.sighting)).filterMap
          Look.stalled? := by
  induction as generalizing b s v es with
  | nil =>
      cases hRun
      rfl
  | cons a as ih =>
      rcases run_cons hRun with
        ⟨b₁, es₁, es₂, hStep, hTail, rfl⟩
      have hUsed : s ≠ .fresh := by
        rintro rfl
        cases hVigil
      cases hLook : a.isLookOf i with
      | false =>
          have hKept := ne_withdraw_of_step hStep hSeat hUsed
          have hQuiet := stallsOf_of_other hStep hLook
          unfold stallsOf at hQuiet ⊢
          rw [List.filterMap_append, hQuiet, List.nil_append,
            visits_of_other hStep hLook]
          rcases seat_of_step hStep hSeat hLook hKept with
            hSame | hWoken
          · exact ih hSame hVigil hTail
          · exact
              ih hWoken (s.vigil?_wake.trans hVigil) hTail
      | true =>
          have hLt := (List.getElem?_eq_some_iff.mp hSeat).1
          rcases awake_of_look hStep hLook hSeat hUsed with
            ⟨w, rfl, hAfter⟩
          cases hVigil
          apply stallsOf_of_look hStep hLook hLt hAfter hTail
          intro v' wakeAt hParked
          exact ih hParked rfl hTail

/- A waiter reports what the looks of its wait say. -/
theorem stallsOf_of_sit
    {b b' : Bench}
    {as : List Action}
    {es : List Event}
    {i : Nat}
    {deadline : Option Instant}
    {stall : Option Duration}
    (hRun :
      b.run (.sit i deadline stall :: as) = some (b', es)) :
    stallsOf i es =
      ((Vigil.start deadline stall b.clock).keep
        ((b.visits i (.sit i deadline stall :: as)).map
          Visit.sighting)).filterMap Look.stalled? := by
  rcases run_cons hRun with
    ⟨b₁, es₁, es₂, hStep, hTail, rfl⟩
  have hSits := hStep
  simp only [step] at hSits
  split at hSits
  · rename_i hFresh
    have hLt := (List.getElem?_eq_some_iff.mp hFresh).1
    have hAfter := Option.some.inj hSits
    apply stallsOf_of_look hStep (decide_eq_true rfl) hLt
      hAfter hTail
    intro v' wakeAt hParked
    exact stallsOf_of_run hParked rfl hTail
  · cases hSits

/- No step takes the clock back. -/
theorem Moves.clock_le
    {b b' : Bench}
    {es : List Event}
    (hMoves : b.Moves b' es) :
    b.clock ≤ b'.clock := by
  cases hMoves with
  | tick hLater => exact hLater
  | _ => exact Nat.le_refl b.clock.nanos

/- A waiter reads a clock that never goes back. -/
theorem clocks_forward
    {b b' : Bench}
    {as : List Action}
    {es : List Event}
    (hRun : b.run as = some (b', es))
    (i : Nat) :
    (b.clock :: (b.visits i as).map Visit.clock).Pairwise
      (· ≤ ·) := by
  induction as generalizing b es with
  | nil => exact List.pairwise_singleton _ b.clock
  | cons a as ih =>
      rcases run_cons hRun with
        ⟨b₁, es₁, es₂, hStep, hTail, rfl⟩
      have hLe := (moves_of_step hStep).clock_le
      have hRest := ih hTail
      have hFrom :
          (b.clock ::
              (b₁.visits i as).map Visit.clock).Pairwise
            (· ≤ ·) := by
        rcases List.pairwise_cons.mp hRest with
          ⟨hLater, hOn⟩
        apply List.pairwise_cons.mpr
        refine ⟨?_, hOn⟩
        intro t hMem
        exact Nat.le_trans hLe (hLater t hMem)
      cases hLook : a.isLookOf i with
      | false =>
          rw [visits_of_other hStep hLook]
          exact hFrom
      | true =>
          rw [visits_of_look hStep hLook]
          apply List.pairwise_cons.mpr
          refine ⟨?_, hFrom⟩
          intro t hMem
          rcases List.mem_cons.mp hMem with rfl | hMem
          · exact Nat.le_refl b.clock.nanos
          · exact (List.pairwise_cons.mp hFrom).1 t hMem

end Bench

------------------------------------------------------------
-- Whole Waits
------------------------------------------------------------

/-
  Whatever the deadline and the stall period of a wait, and
  whatever its waiter finds each time it looks.  A look warns
  exactly if it finds the cohort open, no permit and the
  deadline, if any, not reached, and one period has passed
  since the latest warning, or since the start if there was
  none; it says how long the wait has lasted.  So a look that
  ends the wait does not warn, and the first warning comes
  one period after the start at the earliest, and each further
  one a period after the last.  Where the clock does not go
  back, the last look comes as many periods after the start
  at least as there were warnings.  A warning after which the
  clock would end within one period is the last, and there is
  none if the clock would end within one period of the start.
  And a waiter on a bench, whatever the others do in between,
  reports what such looks say, at readings of a clock that
  does not go back.
-/
theorem stall_warnings_spaced
    (deadline : Option Instant)
    (p : Duration)
    (started : Instant)
    (ss : List Sighting)
    (v : Vigil)
    (hStart : v = .start deadline (some p) started) :
    (∀ n l,
      (v.keep ss)[n]? = some l →
        ∃ s, ss[n]? = some s ∧
          (∀ d,
            l.stalled? = some d ↔
              d = s.clock.since started ∧
                ¬ s.Decisive deadline ∧
                ∃ w ∈
                    Instant.after?
                      ((v.warnings (ss.take n)).getLast?.getD
                        started)
                      p,
                  w ≤ s.clock) ∧
          (∀ d,
            l.stalled? = some d →
              s.closed = false ∧ s.permits = 0 ∧
                (∀ t ∈ deadline, ¬ t ≤ s.clock) ∧
                l.outcome? = none)) ∧
    List.IsChain
      (fun i j => i.nanos + p.toNanos ≤ j.nanos)
      (started :: v.warnings ss) ∧
    (∀ k w,
      (v.warnings ss)[k]? = some w →
        started.nanos + (k + 1) * p.toNanos ≤ w.nanos) ∧
    ((started :: ss.map Sighting.clock).Pairwise (· ≤ ·) →
      ∀ s,
        (ss.take (v.keep ss).length).getLast? = some s →
          started.nanos +
              (v.warnings ss).length * p.toNanos ≤
            s.clock.nanos) ∧
    (started.after? p = none → v.warnings ss = []) ∧
    (∀ k w,
      (v.warnings ss)[k]? = some w →
        w.after? p = none →
          (v.warnings ss).length = k + 1) ∧
    (∀ (b b' : Bench) (i : Nat) (as : List Bench.Action)
        (es : List Bench.Event),
      b.run (.sit i deadline (some p) :: as) = some (b', es) →
        (b.clock ::
            (b.visits i (.sit i deadline (some p) :: as)).map
              Bench.Visit.clock).Pairwise (· ≤ ·) ∧
          Bench.stallsOf i es =
            ((Vigil.start deadline (some p) b.clock).keep
              ((b.visits i
                (.sit i deadline (some p) :: as)).map
                  Bench.Visit.sighting)).filterMap
                    Look.stalled?) := by
  subst hStart
  have hArmed := Vigil.armed_start deadline p started
  have hSpaced := hArmed.isChain_warnings ss
  refine
    ⟨?_, hSpaced, fun k w => Instant.le_of_isChain hSpaced, ?_,
      ?_, ?_, ?_⟩
  · intro n l hLook
    rcases hArmed.stalled?_iff hLook with ⟨s, hHere, hWarns⟩
    refine ⟨s, hHere, hWarns, ?_⟩
    intro d hStalled
    have hNothing := ((hWarns d).mp hStalled).2.1
    rcases not_or.mp hNothing with ⟨hOpen, hRest⟩
    rcases not_or.mp hRest with ⟨hNone, hEarly⟩
    refine
      ⟨Bool.eq_false_iff.mpr hOpen, Nat.eq_zero_of_not_pos hNone,
        ?_, ?_⟩
    · intro t hMem hLe
      exact hEarly ⟨t, hMem, hLe⟩
    · cases l with
      | settle o => cases hStalled
      | park v' wakeAt stalled => rfl
  · intro hForward s hLast
    rw [← Vigil.warnings_take]
    apply hArmed.le_getLast ?_ hLast
    apply List.Pairwise.sublist ?_ hForward
    apply List.Sublist.cons_cons
    exact (List.take_sublist _ ss).map Sighting.clock
  · intro hNever
    exact hArmed.warnings_eq_nil hNever ss
  · intro k w hWarned hNever
    exact hArmed.length_warnings hWarned hNever
  · intro b b' i as es hRun
    exact
      ⟨Bench.clocks_forward hRun i,
        Bench.stallsOf_of_sit hRun⟩

/-
  A wait that is looked after at 1, 3, 4, 6 and 9 ns, with a
  stall period of 2 ns, warns at 3 and 6 ns and is then
  interrupted.  On a bench, the waiter's second look warns.
-/
theorem stall_warnings_spaced_two_periods :
    ∃ v ss b b' es,
      v = Vigil.start (some ⟨20⟩) (some (.ofNanos 2)) ⟨0⟩ ∧
      ss =
        [⟨false, 0, ⟨1⟩⟩, ⟨false, 0, ⟨3⟩⟩, ⟨false, 0, ⟨4⟩⟩,
          ⟨false, 0, ⟨6⟩⟩, ⟨true, 0, ⟨9⟩⟩] ∧
      v.warnings ss = [⟨3⟩, ⟨6⟩] ∧
      v.warnings (ss.take 1) = [] ∧
      List.IsChain
        (fun i j =>
          i.nanos + Duration.toNanos (.ofNanos 2) ≤ j.nanos)
        (⟨0⟩ :: v.warnings ss) ∧
      (ss.take (v.keep ss).length).getLast? =
        some ⟨true, 0, ⟨9⟩⟩ ∧
      0 +
          (v.warnings ss).length *
            Duration.toNanos (.ofNanos 2) ≤ 9 ∧
      b = ⟨⟨0, 1, 0, false⟩, [.fresh], 0, false, ⟨0⟩⟩ ∧
      Bench.run b
          [.sit 0 (some ⟨20⟩) (some (.ofNanos 2)),
            .tick (.ofNanos 3), .expire 0, .recheck 0] =
        some (b', es) ∧
      Bench.stallsOf 0 es = [.ofNanos 3] ∧
      (b.clock ::
          (b.visits 0
            [.sit 0 (some ⟨20⟩) (some (.ofNanos 2)),
              .tick (.ofNanos 3), .expire 0, .recheck 0]).map
            Bench.Visit.clock).Pairwise (· ≤ ·) := by
  rcases stall_warnings_spaced (some ⟨20⟩) (.ofNanos 2) ⟨0⟩
      [⟨false, 0, ⟨1⟩⟩, ⟨false, 0, ⟨3⟩⟩, ⟨false, 0, ⟨4⟩⟩,
        ⟨false, 0, ⟨6⟩⟩, ⟨true, 0, ⟨9⟩⟩]
      _ rfl with
    ⟨_, hSpaced, _, hLong, _, _, hBench⟩
  have hRun :
      Bench.run
          ⟨⟨0, 1, 0, false⟩, [.fresh], 0, false, ⟨0⟩⟩
          [.sit 0 (some ⟨20⟩) (some (.ofNanos 2)),
            .tick (.ofNanos 3), .expire 0, .recheck 0] =
        some
          (⟨⟨0, 1, 0, false⟩,
              [.parked
                ⟨some ⟨20⟩, some (.ofNanos 2), ⟨0⟩, some ⟨5⟩⟩
                (some ⟨5⟩)],
              0, false, ⟨3⟩⟩,
            [.stalled 0 (.ofNanos 3)]) := by
    decide +kernel
  have hLast := hLong (by decide) ⟨true, 0, ⟨9⟩⟩ (by decide)
  exact
    ⟨_, _, _, _, _, rfl, rfl, by decide, by decide, hSpaced,
      by decide, hLast, rfl, hRun, by decide,
      (hBench _ _ 0 _ _ hRun).1⟩

end CondVar
