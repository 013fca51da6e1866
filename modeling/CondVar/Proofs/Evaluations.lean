import CondVar.Proofs.Accounts
import CondVar.Proofs.Budget
import CondVar.Proofs.Permits

/-
  When a call without a limit evaluates its condition.

  Such a call never runs out of time, so it blocks until it is
  signaled or interrupted.  It evaluates its condition once at
  first and once for each permit that it takes, with the lock
  and outside every cohort and the tally, and an interrupt
  ends it without another evaluation.

  Main declarations:
    * `Phase.Seeks`
    * `Machine.seeks_of_call`
    * `Machine.Handed`
    * `Machine.judging_of_judged`
    * `Machine.evaluations_follow_permits`
-/

namespace CondVar

variable {V : Type}

------------------------------------------------------------
-- Calls Without a Limit
------------------------------------------------------------

/- Whether an attempt is of a call for this condition alone. -/
def Attempt.Seeks
    (p : Predicate V)
    (a : Attempt V) : Prop :=
  a.condition = some p ∧ a.budget = none

/-
  Whether a thread may be in a phase while it waits for this
  condition without a limit, having handed over this lock.
-/
def Phase.Seeks
    (side : Side)
    (p : Predicate V) : Phase V → Prop
| .idle => True
| .judging side' a => side' = side ∧ a.Seeks p
| .entering side' a => side' = side ∧ a.Seeks p
| .ticketed a _ => side = .bound ∧ a.Seeks p
| .withdrawing _ _ => True
| .enrolled a _ => side = .bound ∧ a.Seeks p
| .departed a _ => side = .bound ∧ a.Seeks p
| .watching a _ v =>
    side = .bound ∧ a.Seeks p ∧ v.deadline = none
| .parked a _ v _ =>
    side = .bound ∧ a.Seeks p ∧ v.deadline = none
| .settled a _ _ o =>
    side = .bound ∧ a.Seeks p ∧ o ≠ .timedOut
| .returning a _ o left =>
    side = .bound ∧ a.Seeks p ∧ o ≠ .timedOut ∧ left = none
| .regained a _ o left =>
    side = .bound ∧ a.Seeks p ∧ o ≠ .timedOut ∧ left = none
| _ => False

/- A wait without a deadline does not run out of time. -/
theorem Vigil.not_timedOut_of_look
    {v : Vigil}
    {s : Sighting}
    {o : Outcome}
    (hDeadline : v.deadline = none)
    (hLook : v.look s = .settle o) :
    o ≠ .timedOut := by
  rintro rfl
  have hExpired := ((v.look_eq_timedOut_iff s).mp hLook).2.2
  unfold expired at hExpired
  rw [hDeadline] at hExpired
  cases hExpired

namespace Attempt.Seeks

variable {p : Predicate V}
variable {a : Attempt V}

/- A turn after an evaluation is one of the same call. -/
theorem judge
    (hSeeks : a.Seeks p)
    (v : V)
    (side : Side) :
    ((a.judge v).1.phase side).Seeks side p := by
  rw [judge_eq hSeeks.1]
  split
  · trivial
  · exact ⟨rfl, hSeeks⟩

/- So is a turn after blocking. -/
theorem resume
    (hSeeks : a.Seeks p)
    (o : Outcome) :
    ((a.resume o none).phase .bound).Seeks .bound p := by
  rw [resume_eq hSeeks.1]
  split
  · trivial
  · exact ⟨rfl, hSeeks.1, rfl⟩

end Attempt.Seeks

namespace Machine

/- A step of such a call leads to where the call may be. -/
theorem Moves.seeks
    {m rest : Machine V}
    {t : Nat}
    {ph ph' : Phase V}
    {facts : List Fact}
    {side : Side}
    {p : Predicate V}
    (hMoves : m.Moves t ph ph' facts rest)
    (hBusy : ph ≠ .idle)
    (hSeeks : ph.Seeks side p) :
    ph'.Seeks side p := by
  cases hMoves with
  | @judge side' a =>
      rcases hSeeks with ⟨rfl, hAttempt⟩
      exact hAttempt.judge _ _
  | enterForeign => trivial
  | enroll =>
      rcases hSeeks with ⟨rfl, hAttempt⟩
      exact ⟨rfl, hAttempt⟩
  | count hCounted => exact hSeeks
  | refuse hRefused => trivial
  | withdraw => trivial
  | depart => exact hSeeks
  | @watch a g =>
      rcases hSeeks with ⟨hSide, hAttempt⟩
      refine ⟨hSide, hAttempt, ?_⟩
      unfold start
      rw [hAttempt.2]
      rfl
  | settle hLook =>
      rcases hSeeks with ⟨hSide, hAttempt, hDeadline⟩
      exact
        ⟨hSide, hAttempt,
          Vigil.not_timedOut_of_look hDeadline hLook⟩
  | park hLook =>
      rcases hSeeks with ⟨hSide, hAttempt, hDeadline⟩
      exact
        ⟨hSide, hAttempt,
          (Vigil.deadline_of_park hLook).trans hDeadline⟩
  | expire hDue => exact hSeeks
  | @measure a g v o =>
      rcases hSeeks with ⟨hSide, hAttempt, hNot⟩
      refine ⟨hSide, hAttempt, hNot, ?_⟩
      unfold Attempt.left
      rw [hAttempt.2]
      rfl
  | regain hFree => exact hSeeks
  | resume hCounted =>
      rcases hSeeks with ⟨rfl, hAttempt, _, rfl⟩
      exact hAttempt.resume _
  | underflow hRefused => trivial
  | drop hDropped => cases hSeeks
  | post hOpen hLacks => cases hSeeks
  | announce hThere hParked => cases hSeeks
  | announceNobody hNone => cases hSeeks
  | takeLock hFree => cases hSeeks
  | close hOpen => cases hSeeks
  | closeAgain hClosed => cases hSeeks
  | rouse => cases hSeeks
  | renew => cases hSeeks
  | renewTaken => cases hSeeks
  | _ => exact absurd rfl hBusy

end Machine

namespace Phase

variable {side : Side}
variable {p : Predicate V}
variable {ph : Phase V}

/- A thread of such a call that is woken is still of it. -/
theorem Seeks.wake
    (hSeeks : ph.Seeks side p)
    (g : Nat) :
    (ph.wake g).Seeks side p :=
  (ph.apply_wake (Phase.Seeks side p)
    (fun _ _ _ _ => rfl) g).mpr hSeeks

/- Such a call is never told that its time ran out. -/
theorem Seeks.isLate_answer
    (hSeeks : ph.Seeks side p)
    (m : Machine V) :
    ∀ r ∈ (ph.answer? m).toList, r.isLate = false := by
  intro r hMem
  cases ph with
  | judging side' a =>
      rw [List.mem_singleton.mp hMem]
      rfl
  | settled a g v o =>
      rw [List.mem_singleton.mp hMem]
      exact decide_eq_false hSeeks.2.2
  | _ => cases hMem

end Phase

/-
  Wherever a thread gets with such a call, the call may be
  there, and it was never told that its time ran out.
-/
theorem Machine.seeks_of_call
    {m m' : Machine V}
    {t : Nat}
    {side : Side}
    {p : Predicate V}
    {ls : List (Label V)}
    {ns : List Note}
    (hInner :
      ∀ l ∈ ls, l.thread? = some t → l.request? = none)
    (hRun :
      m.run (.call t side (.waitWhile p) :: ls) =
        some (m', ns)) :
    ∃ ph,
      m'.threads[t]? = some ph ∧
        ph.Seeks side p ∧
        ∀ r ∈ m.answers t (.call t side (.waitWhile p) :: ls),
          r.isLate = false := by
  rcases run_of_call hRun with
    ⟨m₁, _, _, hPhase, hRest, hAnswers⟩
  have hNone :
      ∀ r ∈ ([] : List (Answer V)), r.isLate = false :=
    nofun
  rw [hAnswers]
  refine
    thread_run
      (P := fun ph rs _ =>
        ph.Seeks side p ∧ ∀ r ∈ rs, r.isLate = false)
      [] [] ?_ ?_ hPhase ⟨⟨rfl, rfl, rfl⟩, hNone⟩ hInner hRest
  · rintro m rest ph ph' facts rs fs hMoves hBusy
      ⟨hSeeks, hNone⟩
    refine ⟨hMoves.seeks hBusy hSeeks, ?_⟩
    intro r hMem
    rcases List.mem_append.mp hMem with hOld | hNew
    · exact hNone r hOld
    · exact hSeeks.isLate_answer m r hNew
  · rintro ph rs fs ⟨hSeeks, hNone⟩ g
    exact ⟨hSeeks.wake g, hNone⟩

/- A call that is never told so has not run out of time. -/
theorem Turn.map_isLate_of_follow?
    {y y' : Turn V}
    {rs : List (Answer V)}
    {xs : List Incident}
    (hFollow : y.follow? rs = some (xs, y')) :
    xs.map Incident.isLate = rs.map Answer.isLate := by
  induction rs generalizing y xs with
  | nil =>
      cases hFollow
      rfl
  | cons r rs ih =>
      rcases follow?_cons_iff.mp hFollow with
        ⟨x, y₁, xs₁, hNext, hRest, rfl⟩
      have hHead : x.isLate = r.isLate := by
        cases y with
        | finish e => cases hNext
        | judge a =>
            cases r with
            | value v =>
                cases hNext
                rfl
            | outcome o elapsed => cases hNext
        | block a =>
            cases r with
            | value v => cases hNext
            | outcome o elapsed =>
                cases hNext
                rfl
      rw [List.map_cons, List.map_cons, hHead, ih hRest]

------------------------------------------------------------
-- The Lock During a Call
------------------------------------------------------------

/- Whether a thread has handed over the lock that is not bound. -/
def Phase.usesForeign : Phase V → Bool
| .judging .foreign _ => true
| .entering .foreign _ => true
| _ => false

/- Waking has nothing to do with that. -/
theorem Phase.usesForeign_wake
    (ph : Phase V)
    (g : Nat) :
    (ph.wake g).usesForeign = ph.usesForeign :=
  ph.apply_wake usesForeign (fun _ _ _ _ => rfl) g

/- The lock that a call hands over is used by its turns alone. -/
theorem Turn.side_of_usesForeign
    {y : Turn V}
    {side : Side}
    (hUses : (y.phase side).usesForeign = true) :
    side = .foreign := by
  cases side with
  | foreign => rfl
  | bound =>
      cases y with
      | block a => cases hUses
      | judge a => cases hUses
      | finish e => cases hUses

namespace Machine

/-
  Whoever has handed over the lock that is not bound holds it.
-/
def Handed (m : Machine V) : Prop :=
  ∀ (t : Nat) ph,
    m.threads[t]? = some ph →
      ph.usesForeign = true → m.foreign.holder = some t

/-
  A thread that hands this lock over holds it, and no other
  thread gets or loses it by that.
-/
theorem Moves.foreign_spec
    {m rest : Machine V}
    {t : Nat}
    {ph ph' : Phase V}
    {facts : List Fact}
    (hMoves : m.Moves t ph ph' facts rest)
    (hHeld :
      ph.usesForeign = true → m.foreign.holder = some t) :
    (ph'.usesForeign = true → rest.foreign.holder = some t) ∧
      ∀ u,
        u ≠ t →
          m.foreign.holder = some u →
            rest.foreign.holder = some u := by
  have hKept :
      ∀ u,
        u ≠ t →
          m.foreign.holder = some u →
            m.foreign.holder = some u :=
    fun _ _ hOther => hOther
  cases hMoves with
  | @acquire side hFree =>
      refine ⟨nofun, ?_⟩
      cases side with
      | bound => exact hKept
      | foreign =>
          intro u _ hOther
          cases hFree.symm.trans hOther
  | @release side hHeld' =>
      refine ⟨nofun, ?_⟩
      cases side with
      | bound => exact hKept
      | foreign =>
          intro u hNot hOther
          have hOurs : m.foreign.holder = some t :=
            of_decide_eq_true hHeld'
          rw [hOurs] at hOther
          exact absurd (Option.some.inj hOther).symm hNot
  | @write side v hHeld' =>
      refine ⟨nofun, ?_⟩
      cases side with
      | bound => exact hKept
      | foreign => exact hKept
  | @call side c hHeld' =>
      refine ⟨?_, hKept⟩
      intro hUses
      have hSide := Turn.side_of_usesForeign hUses
      subst hSide
      exact of_decide_eq_true hHeld'
  | @judge side a =>
      cases side with
      | bound =>
          refine ⟨?_, hKept⟩
          intro hUses
          cases Turn.side_of_usesForeign hUses
      | foreign => exact ⟨fun _ => hHeld rfl, hKept⟩
  | resume hCounted =>
      refine ⟨?_, hKept⟩
      intro hUses
      cases Turn.side_of_usesForeign hUses
  | _ => exact ⟨nofun, hKept⟩

/- Every step leaves this lock with whoever handed it over. -/
theorem Handed.steps
    {m m' : Machine V}
    {ns : List Note}
    (hHanded : m.Handed)
    (hSteps : m.Steps m' ns) :
    m'.Handed := by
  intro u ph hPhase hUses
  cases hSteps with
  | join =>
      change (m.threads ++ [.idle])[u]? = some ph at hPhase
      by_cases hLt : u < m.threads.length
      · rw [List.getElem?_append_left hLt] at hPhase
        exact hHanded u ph hPhase hUses
      · rw [List.getElem?_append_right (Nat.le_of_not_lt hLt)]
          at hPhase
        have hMem := List.mem_of_getElem? hPhase
        cases List.mem_singleton.mp hMem
        cases hUses
  | tick hLater => exact hHanded u ph hPhase hUses
  | @move t ph₁ ph' facts rest hPhase₁ hMoves =>
      have hSpec := hMoves.foreign_spec (hHanded t ph₁ hPhase₁)
      by_cases hSame : u = t
      · subst hSame
        rw [hMoves.phase_self hPhase₁] at hPhase
        cases hPhase
        exact hSpec.1 hUses
      · rcases hMoves.phase_other hSame hPhase with
          ⟨ph₂, hBefore, rfl | ⟨g, rfl⟩⟩
        · exact hSpec.2 u hSame (hHanded u _ hBefore hUses)
        · rw [Phase.usesForeign_wake] at hUses
          exact hSpec.2 u hSame (hHanded u _ hBefore hUses)

/- Wherever a fresh machine gets, that is so. -/
theorem Reaches.handed
    {m : Machine V}
    {s : Settings}
    {value foreign : V}
    {ns : List Note}
    (hReaches : (fresh s value foreign).Reaches ns m) :
    m.Handed :=
  hReaches.invariant
    (P := fun _ m => m.Handed)
    (fun _ _ hPhase => nomatch hPhase)
    (fun hHanded hSteps => hHanded.steps hSteps)

/- A thread that evaluates its condition holds the lock. -/
theorem holds_of_judging
    {m : Machine V}
    {t : Nat}
    {side : Side}
    {a : Attempt V}
    (hLocked : m.Locked)
    (hHanded : m.Handed)
    (hPhase : m.threads[t]? = some (.judging side a)) :
    m.holds t side = true := by
  cases side with
  | bound =>
      exact
        decide_eq_true
          (hLocked t _ (standings_of_phase hPhase) rfl)
  | foreign =>
      exact decide_eq_true (hHanded t _ hPhase rfl)

------------------------------------------------------------
-- One Evaluation
------------------------------------------------------------

/- Only where a condition is evaluated is that told. -/
theorem Moves.judging_of_judged
    {m rest : Machine V}
    {t : Nat}
    {ph ph' : Phase V}
    {facts : List Fact}
    (hMoves : m.Moves t ph ph' facts rest)
    (hMem : Fact.judged ∈ facts) :
    ∃ side a,
      ph = .judging side a ∧
        rest =
          m.setValue side (a.judge (m.lock side).value).2 := by
  cases hMoves with
  | @judge side a => exact ⟨side, a, rfl, rfl⟩
  | resume hCounted =>
      rcases List.mem_cons.mp hMem with hHead | hTurn
      · cases hHead
      · rcases Turn.finished_of_mem_facts hTurn with ⟨e, hEnd⟩
        cases hEnd
  | @park a g v v' wakeAt stalled hLook =>
      cases stalled <;> simp at hMem
  | _ => simp at hMem

/-
  A step that evaluates the condition of a thread's call finds
  the thread doing so.  The lock stays with whom it was, and
  so do all that are registered and counted.
-/
theorem judging_of_judged
    {m m' : Machine V}
    {t : Nat}
    {l : Label V}
    {ns : List Note}
    (hStep : m.step l = some (m', ns))
    (hJudged : 0 < evaluationsOf t ns) :
    ∃ side a,
      m.threads[t]? = some (.judging side a) ∧
        (∀ u side', m'.holds u side' = m.holds u side') ∧
        m'.cohorts = m.cohorts ∧ m'.tally = m.tally := by
  rcases List.countP_pos_iff.mp hJudged with
    ⟨f, hMem, hFact⟩
  cases steps_of_step hStep with
  | join => cases hMem
  | tick hLater => cases hMem
  | @move u ph ph' facts rest hPhase hMoves =>
      by_cases hSame : u = t
      · subst hSame
        rw [factsOf_self] at hMem
        cases of_decide_eq_true hFact
        rcases hMoves.judging_of_judged hMem with
          ⟨side, a, rfl, rfl⟩
        refine ⟨side, a, hPhase, ?_, ?_, ?_⟩
        · intro w side'
          cases side <;> cases side' <;> rfl
        · cases side <;> rfl
        · cases side <;> rfl
      · rw [factsOf_other hSame] at hMem
        cases hMem

/- A step that tells of a permit taken takes one. -/
theorem Orderly.permit_taken
    {m m' : Machine V}
    {l : Label V}
    {ns : List Note}
    {n : Note}
    {g : Nat}
    (hOrderly : m.Orderly)
    (hStep : m.step l = some (m', ns))
    (hMem : n ∈ ns)
    (hTaken : n.fact = .settled g .signaled) :
    (m'.cohort g).permits + 1 = (m.cohort g).permits := by
  cases steps_of_step hStep with
  | join => cases hMem
  | tick hLater => cases hMem
  | move hPhase hMoves =>
      rcases List.mem_map.mp hMem with ⟨f, hFact, rfl⟩
      have hIs : f = .settled g .signaled := hTaken
      subst hIs
      cases hOrderly.trade hPhase hMoves g with
      | none hPermits hNone =>
          have hNot := hNone _ hFact
          rw [Fact.isOfPermit_eq_false_iff] at hNot
          exact absurd rfl hNot.2
      | leaves hOpen hLacks hPermits =>
          cases List.mem_singleton.mp hFact
      | takes hOpen hPermits => exact hPermits

------------------------------------------------------------
-- No Registration
------------------------------------------------------------

/-
  A thread that no cohort and no tally counts, and that has
  returned from all its waits.
-/
structure Unregistered
    (ns : List Note)
    (m : Machine V)
    (t : Nat) : Prop where
  uncounted :
    ∀ st,
      m.standings[t]? = some st →
        st.isCounted = false ∧ ∀ g, st.isRegistered g = false
  returned :
    ∀ x ∈ waits ns, x.thread = t → x.returned.isSome = true

/- A thread without a cohort is not registered anywhere. -/
theorem Sound.unregistered
    {m : Machine V}
    {ns : List Note}
    {t : Nat}
    {ph : Phase V}
    (hSound : Sound ns m)
    (hPhase : m.threads[t]? = some ph)
    (hFree : ph.standing.isFree = true) :
    Unregistered ns m t := by
  have hStanding := standings_of_phase hPhase
  constructor
  · intro st hThere
    cases hStanding.symm.trans hThere
    exact
      ⟨Standing.isCounted_of_isFree hFree,
        fun g => Standing.isRegistered_of_isFree g hFree⟩
  · exact
      hSound.ledger.returned_of_no_wait hStanding
        (Standing.wait?_of_isFree hFree)

end Machine

------------------------------------------------------------
-- Evaluations and Permits
------------------------------------------------------------

/- How a call without a limit ends. -/
theorem Turn.Accounted.finish_iff_of_unlimited
    {xs : List Incident}
    {y : Turn V}
    (hAccounted : Accounted none xs y)
    (e : Ending) :
    y = .finish e ↔
      (e = .cleared none ∧
        xs.getLast? = some (.judged none .clear)) ∨
      (e = .failed .interrupted ∧
        ∃ elapsed,
          xs.getLast? =
            some (.blocked none .interrupted elapsed)) ∨
      ∃ message,
        e = .aborted message ∧
          xs.getLast? =
            some (.judged none (.abort message)) := by
  rw [hAccounted.finish_iff_last]
  constructor
  · rintro ⟨b, hNone, hReason⟩
    have hUnlimited : b = none := by
      cases b with
      | none => rfl
      | some d => cases hNone
    subst hUnlimited
    rcases hReason with
      hClear | hInterrupted | ⟨_, _, d, hSame, _⟩ | hAborted
    · exact Or.inl hClear
    · exact Or.inr (Or.inl hInterrupted)
    · cases hSame
    · exact Or.inr (Or.inr hAborted)
  · intro hReason
    refine ⟨none, rfl, ?_⟩
    rcases hReason with hClear | hInterrupted | hAborted
    · exact Or.inl hClear
    · exact Or.inr (Or.inl hInterrupted)
    · exact Or.inr (Or.inr (Or.inr hAborted))

/- What comes of blocking ends a call in one of three ways. -/
theorem Turn.Blocks.ending
    {e : Ending}
    (hBlocks : (finish (V := V) e).Blocks) :
    (∃ o, e = .woken o) ∨ (∃ r, e = .timed r) ∨
      e = .failed .interrupted := by
  rcases hBlocks with ⟨a, hTurn⟩ | ⟨a, o, left, hTurn⟩
  · cases hTurn
  · unfold Attempt.resume at hTurn
    split at hTurn
    · split at hTurn
      · cases hTurn
        exact Or.inl ⟨_, rfl⟩
      · cases hTurn
        exact Or.inr (Or.inl ⟨_, rfl⟩)
    · split at hTurn
      · cases hTurn
        exact Or.inr (Or.inr rfl)
      · cases hTurn

/-
  A thread whose call is to end without its having done so has
  been interrupted, and wants the lock back or has got it.
-/
theorem Phase.Seeks.standing_of_finish
    {side : Side}
    {p : Predicate V}
    {ph : Phase V}
    {e : Ending}
    (hSeeks : ph.Seeks side p)
    (hTurn : ph.turn? = some (.finish e)) :
    ∃ g,
      ph.standing = .ended g .interrupted ∨
        ph.standing = .regained g .interrupted := by
  have hInterrupted :
      ∀ {a : Attempt V} {o left},
        a.Seeks p →
          some (a.resume o left) = some (.finish e) →
            o = .interrupted := by
    intro a o left hAttempt hResume
    rw [Attempt.resume_eq hAttempt.1] at hResume
    split at hResume
    · assumption
    · cases hResume
  cases ph with
  | returning a g o left =>
      rw [hInterrupted hSeeks.2.1 hTurn]
      exact ⟨g, Or.inl rfl⟩
  | regained a g o left =>
      rw [hInterrupted hSeeks.2.1 hTurn]
      exact ⟨g, Or.inr rfl⟩
  | _ => cases hTurn

/-
  Such a call that is to end has ended, unless it was
  interrupted.
-/
theorem Phase.Pursues.ended_or_interrupted
    {side : Side}
    {p : Predicate V}
    {ph : Phase V}
    {es : List Ending}
    {e : Ending}
    {xs : List Incident}
    (hPursues : ph.Pursues (.finish e) es)
    (hSeeks : ph.Seeks side p)
    (hAccounted :
      Turn.Accounted none xs (.finish (V := V) e)) :
    es = [e] ∨
      (e = .failed .interrupted ∧
        ((es = [] ∧
            ∃ g,
              ph.standing = .ended g .interrupted ∨
                ph.standing = .regained g .interrupted) ∨
          ∃ misuse, es = [.misused misuse])) := by
  rcases hPursues.of_finish with hOver | ⟨hBlocks, hWhere⟩
  · exact Or.inl hOver
  · refine Or.inr ⟨?_, ?_⟩
    · have hReason :=
        (hAccounted.finish_iff_of_unlimited e).mp rfl
      rcases hBlocks.ending with
        ⟨o, rfl⟩ | ⟨r, rfl⟩ | hInterrupted
      · rcases hReason with
          ⟨hEnd, _⟩ | ⟨hEnd, _⟩ | ⟨_, hEnd, _⟩ <;>
          cases hEnd
      · rcases hReason with
          ⟨hEnd, _⟩ | ⟨hEnd, _⟩ | ⟨_, hEnd, _⟩ <;>
          cases hEnd
      · exact hInterrupted
    · rcases hWhere with ⟨hTurn, hGoing⟩ | hMisused
      · exact Or.inl ⟨hGoing, hSeeks.standing_of_finish hTurn⟩
      · exact Or.inr hMisused

/- A thread that is counted takes a turn of its call. -/
theorem Phase.Pursues.turn?_of_isCounted
    {y : Turn V}
    {ph : Phase V}
    {es : List Ending}
    (hPursues : ph.Pursues y es)
    (hCounted : ph.standing.isCounted = true) :
    ph.turn? = some y := by
  apply (hPursues.turn?_eq ?_ ?_).1
  · rintro rfl
    cases hCounted
  · rintro g misuse rfl
    cases hCounted

/- A thread without an outcome is due no evaluation. -/
theorem Phase.due_of_waiting
    {y : Turn V}
    {ph : Phase V}
    {g : Nat}
    (hTurn : ph.turn? = some y)
    (hWaiting : ph.standing = .waiting g) :
    y.judges.toNat + ph.hasPermit.toNat = 0 := by
  cases ph with
  | departed a g' =>
      cases hTurn
      rfl
  | watching a g' v =>
      cases hTurn
      rfl
  | parked a g' v wakeAt =>
      cases hTurn
      rfl
  | judging side a => cases side <;> cases hWaiting
  | entering side a => cases side <;> cases hWaiting
  | _ => cases hWaiting

/- A thread with an outcome is due one if it was signaled. -/
theorem Phase.Seeks.due_of_told
    {side : Side}
    {p : Predicate V}
    {y : Turn V}
    {ph : Phase V}
    {g : Nat}
    {o : Outcome}
    (hSeeks : ph.Seeks side p)
    (hTurn : ph.turn? = some y)
    (hTold :
      ph.standing = .ended g o ∨ ph.standing = .regained g o) :
    y.judges.toNat + ph.hasPermit.toNat =
      (decide (o = .signaled)).toNat := by
  have hResumed :
      ∀ {a : Attempt V} {left},
        a.Seeks p → o ≠ .timedOut →
          some (a.resume o left) = some y →
            y.judges = decide (o = .signaled) := by
    intro a left hAttempt hNot hTurn
    rw [Attempt.resume_eq hAttempt.1] at hTurn
    cases o with
    | timedOut => exact absurd rfl hNot
    | signaled =>
        cases hTurn
        rfl
    | interrupted =>
        cases hTurn
        rfl
  cases ph with
  | settled a g' v o' =>
      rcases hTold with hThere | hThere
      · cases hThere
        cases hTurn
        exact Nat.zero_add _
      · cases hThere
  | returning a g' o' left =>
      rcases hTold with hThere | hThere
      · cases hThere
        rw [hResumed hSeeks.2.1 hSeeks.2.2.1 hTurn]
        rfl
      · cases hThere
  | regained a g' o' left =>
      rcases hTold with hThere | hThere
      · cases hThere
      · cases hThere
        rw [hResumed hSeeks.2.1 hSeeks.2.2.1 hTurn]
        rfl
  | judging side a =>
      rcases hTold with hThere | hThere <;>
        cases side <;> cases hThere
  | entering side a =>
      rcases hTold with hThere | hThere <;>
        cases side <;> cases hThere
  | _ => rcases hTold with hThere | hThere <;> cases hThere

/-
  A call has evaluated its condition once and once more for
  each permit taken, the last of them if it is not about to,
  and does not have that permit still.
-/
theorem Progress.evaluations
    {c : Call V}
    {side : Side}
    {rs : List (Answer V)}
    {facts : List Fact}
    {xs : List Incident}
    {ph : Phase V}
    {y : Turn V}
    (hProgress :
      Progress (c.begin.phase side) c.begin [] rs facts xs ph y)
    (hAccounted : Turn.Accounted c.limit xs y)
    (hNone : ∀ r ∈ rs, r.isLate = false) :
    facts.countP (· = .judged) + y.judges.toNat +
        ph.hasPermit.toNat =
      facts.countP Fact.takesPermit + 1 := by
  have hCounted := hAccounted.counted
  have hJudged := hProgress.judged
  have hTaken := hProgress.taken
  rw [Phase.hasPermit_turn] at hTaken
  have hNever : xs.countP Incident.isLate = 0 := by
    have hSame := Turn.map_isLate_of_follow? hProgress.follows
    have hCount :
        (xs.map Incident.isLate).countP id =
          (rs.map Answer.isLate).countP id :=
      congrArg (List.countP id) hSame
    rw [List.countP_map, List.countP_map] at hCount
    refine hCount.trans (List.countP_eq_zero.mpr ?_)
    intro r hMem hLate
    exact Bool.false_ne_true ((hNone r hMem).symm.trans hLate)
  rw [Bool.toNat_false] at hTaken
  omega

/-
  Any machine, any of its threads that has a lock and calls to
  wait for a condition, and any steps from then on in which
  the thread asks for nothing else.

  The call follows the answers that its thread gets.  Its
  evaluations say what the condition says of the values behind
  the lock, and the history tells of just these evaluations.
  The first incident that is a reason to end is the last.  The
  call is to end, as clear, if an evaluation says so; as
  interrupted, if blocking was; or broken off, if the
  condition breaks off; and for no other reason.  However the
  thread's call has ended, it was to end so, or there was
  misuse; and a call that is to end has ended, unless it was
  interrupted and wants the lock back, or was broken off then.

  When it is about to evaluate its condition, it has done so
  as often as it has taken a permit, of whichever cohort.  As
  long as it blocks without an outcome, and once it has ended
  otherwise than by misuse, it has done so once more; and also
  on its way back from blocking, unless it was signaled and so
  is to do so again.  Each of these permits was taken from its
  cohort.

  Its condition is only evaluated while the thread has the
  lock and no registration, and that changes neither.  When
  the call is over, broken off or not, the thread is outside
  and has no registration.
-/
theorem Machine.evaluations_follow_permits
    {s : Settings}
    {value foreign : V}
    {m₀ m : Machine V}
    {past ns : List Note}
    {t : Nat}
    {side : Side}
    {p : Predicate V}
    {ls : List (Label V)}
    (hReaches : (fresh s value foreign).Reaches past m₀)
    (hInner :
      ∀ l ∈ ls, l.thread? = some t → l.request? = none)
    (hRun :
      m₀.run (.call t side (.waitWhile p) :: ls) =
        some (m, ns)) :
    ∃ ph rs xs y,
      m.threads[t]? = some ph ∧
      rs = m₀.answers t (.call t side (.waitWhile p) :: ls) ∧
      (Call.waitWhile p).begin.follow? rs = some (xs, y) ∧
      xs.filterMap Incident.verdict? =
        p.verdicts [] (rs.filterMap Answer.value?) ∧
      evaluationsOf t ns = xs.countP Incident.isEvaluation ∧
      (∀ x ∈ xs.dropLast, x.ending? = none) ∧
      (∀ e,
        y = .finish e ↔
          (e = .cleared none ∧
            xs.getLast? = some (.judged none .clear)) ∨
          (e = .failed .interrupted ∧
            ∃ elapsed,
              xs.getLast? =
                some (.blocked none .interrupted elapsed)) ∨
          ∃ message,
            e = .aborted message ∧
              xs.getLast? =
                some (.judged none (.abort message))) ∧
      (∀ e ∈ endingsOf t ns,
        y = .finish e ∨ ∃ misuse, e = .misused misuse) ∧
      (∀ e,
        y = .finish e →
          endingsOf t ns = [e] ∨
            (e = .failed .interrupted ∧
              ((endingsOf t ns = [] ∧
                  ∃ g,
                    ph.standing = .ended g .interrupted ∨
                      ph.standing =
                        .regained g .interrupted) ∨
                ∃ misuse,
                  endingsOf t ns = [.misused misuse]))) ∧
      (∀ side' a,
        ph = .judging side' a →
          evaluationsOf t ns = permitsTakenBy t ns) ∧
      (∀ g,
        ph.standing = .waiting g →
          evaluationsOf t ns = permitsTakenBy t ns + 1) ∧
      (∀ g o,
        ph.standing = .ended g o ∨
            ph.standing = .regained g o →
          evaluationsOf t ns +
              (decide (o = .signaled)).toNat =
            permitsTakenBy t ns + 1) ∧
      (∀ e ∈ endingsOf t ns,
        ph = .idle ∧
          Unregistered (past ++ ns) m t ∧
          ((∀ misuse, e ≠ .misused misuse) →
            evaluationsOf t ns = permitsTakenBy t ns + 1)) ∧
      (∀ g,
        (m.cohort g).registered =
          m.standings.countP (Standing.isRegistered g)) ∧
      ∀ l m' ns',
        m.step l = some (m', ns') →
          (0 < evaluationsOf t ns' →
            (∃ a, ph = .judging side a) ∧
              m.holds t side = true ∧
              m'.holds t side = true ∧
              Unregistered (past ++ ns) m t ∧
              m'.cohorts = m.cohorts ∧ m'.tally = m.tally) ∧
          ∀ g time,
            ⟨t, time, .settled g .signaled⟩ ∈ ns' →
              (m'.cohort g).permits + 1 =
                (m.cohort g).permits := by
  have hReaches' := hReaches.of_run hRun
  have hSound := hReaches'.sound
  rcases progress_of_call hInner hRun with
    ⟨ph, hPhase, xs, y, hProgress⟩
  rcases seeks_of_call hInner hRun with
    ⟨ph', hPhase', hSeeks, hNone⟩
  cases hPhase.symm.trans hPhase'
  have hAccounted : Turn.Accounted none xs y :=
    .of_follow? (c := .waitWhile p) rfl hProgress.follows
  have hCount :
      evaluationsOf t ns + y.judges.toNat +
          ph.hasPermit.toNat =
        permitsTakenBy t ns + 1 :=
    hProgress.evaluations hAccounted hNone
  have hPursues : ph.Pursues y (endingsOf t ns) :=
    hProgress.pursues
  refine
    ⟨ph, _, xs, y, hPhase, rfl, hProgress.follows,
      Turn.verdicts_of_follow?
        (Turn.isOf_begin (c := .waitWhile p) rfl)
        hProgress.follows,
      hProgress.judged,
      fun x hMem => hAccounted.ending_of_mem_dropLast hMem,
      hAccounted.finish_iff_of_unlimited,
      fun e hMem => (hPursues.over hMem).2.2, ?_, ?_, ?_, ?_,
      ?_, hSound.census, ?_⟩
  · rintro e rfl
    exact hPursues.ended_or_interrupted hSeeks hAccounted
  · rintro side' a rfl
    cases (hPursues.turn?_eq nofun nofun).1
    exact Nat.add_right_cancel hCount
  · intro g hWaiting
    have hTurn : ph.turn? = some y := by
      apply hPursues.turn?_of_isCounted
      rw [hWaiting]
      rfl
    have hNothing := Phase.due_of_waiting hTurn hWaiting
    omega
  · intro g o hTold
    have hTurn : ph.turn? = some y := by
      apply hPursues.turn?_of_isCounted
      rcases hTold with hThere | hThere
      · rw [hThere]
        rfl
      · rw [hThere]
        rfl
    have hDue := hSeeks.due_of_told hTurn hTold
    omega
  · intro e hMem
    rcases hPursues.over hMem with ⟨rfl, _, hHow⟩
    refine ⟨rfl, hSound.unregistered hPhase rfl, ?_⟩
    intro hProper
    rcases hHow with rfl | ⟨misuse, hMisuse⟩
    · exact hCount
    · exact absurd hMisuse (hProper misuse)
  · intro l m' ns' hStep
    refine ⟨?_, ?_⟩
    · intro hJudged
      rcases judging_of_judged hStep hJudged with
        ⟨side', a, hThere, hHolds, hCohorts, hTally⟩
      cases hPhase.symm.trans hThere
      rcases hSeeks with ⟨rfl, _⟩
      have hHeld :=
        holds_of_judging hSound.orderly.locked
          hReaches'.handed hPhase
      have hFree :
          (Phase.judging side' a).standing.isFree = true := by
        cases side' <;> rfl
      exact
        ⟨⟨a, rfl⟩, hHeld, (hHolds t side').trans hHeld,
          hSound.unregistered hPhase hFree, hCohorts, hTally⟩
    · intro g time hMem
      exact hSound.orderly.permit_taken hStep hMem rfl

/-
  A thread waits for a value of one at least.  It parks, and
  then another sets the value and signals.  It has evaluated
  its condition twice and taken one permit when the call ends.
-/
theorem Machine.evaluations_follow_permits_one_signal :
    ∃ (m₀ m : Machine Int) (past ns : List Note)
        (ls : List (Label Int)),
      (fresh .standard 0 0).Reaches past m₀ ∧
      (∀ l ∈ ls, l.thread? = some 0 → l.request? = none) ∧
      m₀.run (.call 0 .bound (.waitWhile (.below 1)) :: ls) =
        some (m, ns) ∧
      endingsOf 0 ns = [.cleared none] ∧
      permitsTakenBy 0 ns = 1 ∧
      evaluationsOf 0 ns = permitsTakenBy 0 ns + 1 ∧
      Unregistered (past ++ ns) m 0 := by
  have hRuns :
      ∃ (m₀ m : Machine Int) (past ns : List Note),
        (fresh .standard 0 0).run
            [.join, .join, .acquire 0 .bound] =
          some (m₀, past) ∧
        m₀.run
            [.call 0 .bound (.waitWhile (.below 1)),
              .advance 0, .advance 0, .advance 0, .advance 0,
              .advance 0, .advance 0, .acquire 1 .bound,
              .write 1 .bound 1, .signal 1, .advance 1,
              .notify 1 (some 0), .release 1 .bound,
              .advance 0, .advance 0, .advance 0, .advance 0,
              .advance 0] =
          some (m, ns) ∧
        endingsOf 0 ns = [.cleared none] ∧
        permitsTakenBy 0 ns = 1 :=
    ⟨_, _, _, _, rfl, rfl, by decide, by decide⟩
  rcases hRuns with
    ⟨m₀, m, past, ns, hFirst, hRun, hEndings, hTaken⟩
  have hReaches := Reaches.of_run .refl hFirst
  have hInner :
      ∀ l ∈ ([.advance 0, .advance 0, .advance 0, .advance 0,
          .advance 0, .advance 0, .acquire 1 .bound,
          .write 1 .bound 1, .signal 1, .advance 1,
          .notify 1 (some 0), .release 1 .bound, .advance 0,
          .advance 0, .advance 0, .advance 0,
          .advance 0] : List (Label Int)),
        l.thread? = some 0 → l.request? = none := by
    decide
  rcases evaluations_follow_permits hReaches hInner hRun with
    ⟨ph, rs, xs, y, _, _, _, _, _, _, _, _, _, _, _, _, hOver,
      _⟩
  have hMem : Ending.cleared none ∈ endingsOf 0 ns := by
    rw [hEndings]
    exact List.mem_singleton_self _
  rcases hOver _ hMem with ⟨_, hNone, hOneMore⟩
  exact
    ⟨m₀, m, _, ns, _, hReaches, hInner, hRun, hEndings, hTaken,
      hOneMore nofun, hNone⟩

end CondVar
