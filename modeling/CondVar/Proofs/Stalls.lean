import CondVar.Log.Chronicle
import CondVar.Proofs.Standing
import CondVar.Proofs.Wakeful

/-
  Who warns of stalls, and what a warning changes.

  A look that warns of a stall finds nothing to end its wait.
  So it leaves everything that is shared as it is, and what
  the wait comes to depends on its other looks alone.  Only a
  call without a limit warns: its attempts have no budget, its
  vigils alone have a stall period.

  Main declarations:
    * `Vigil.outcomes_keep`
    * `Phase.Warns`
    * `Machine.Moves.warns_before`
    * `Program.Shows.unlimited_of_warns`
    * `Program.settings_indifferent`
-/

namespace CondVar

variable {V : Type}

------------------------------------------------------------
-- Looks That Decide Nothing
------------------------------------------------------------

namespace Vigil

/-
  Vigils with one deadline that find the same have the same
  outcome at the same look.
-/
theorem map_outcome_keep
    {v w : Vigil}
    (hDeadline : v.deadline = w.deadline)
    (ss : List Sighting) :
    (v.keep ss).map Look.outcome? =
      (w.keep ss).map Look.outcome? := by
  induction ss generalizing v w with
  | nil => rfl
  | cons s ss ih =>
      cases hLook : v.look s with
      | settle o =>
          have hLook' : w.look s = .settle o := by
            rw [look_eq_settle_iff] at hLook ⊢
            rw [← hDeadline]
            exact hLook
          rw [keep_of_settle hLook, keep_of_settle hLook']
      | park v' wakeAt stalled =>
          have hNothing := indecisive_of_park hLook
          rw [hDeadline] at hNothing
          rcases look_of_indecisive hNothing with
            ⟨w', wakeAt', stalled', hLook', hKept'⟩
          have hKept := deadline_of_park hLook
          rw [keep_of_park hLook, keep_of_park hLook',
            List.map_cons, List.map_cons,
            ih (hKept.trans (hDeadline.trans hKept'.symm))]
          rfl

/- Looks that find nothing decisive add no outcome. -/
theorem filterMap_outcome_keep
    (v : Vigil)
    (ss : List Sighting) :
    (v.keep ss).filterMap Look.outcome? =
      (v.keep (ss.filter
        (fun s => s.Decisive v.deadline))).filterMap
          Look.outcome? := by
  induction ss generalizing v with
  | nil => rfl
  | cons s ss ih =>
      by_cases hDecisive : s.Decisive v.deadline
      · rw [List.filter_cons_of_pos (by simpa using hDecisive)]
        cases hLook : v.look s with
        | settle o =>
            rw [keep_of_settle hLook, keep_of_settle hLook]
        | park v' wakeAt stalled =>
            exact absurd hDecisive (indecisive_of_park hLook)
      · rw [List.filter_cons_of_neg (by simpa using hDecisive)]
        rcases look_of_indecisive hDecisive with
          ⟨v', wakeAt, stalled, hLook, hDeadline⟩
        have hSame :=
          map_outcome_keep hDeadline
            (ss.filter (fun s => s.Decisive v.deadline))
        have hRest := ih v'
        rw [hDeadline] at hRest
        have hSame' := congrArg (List.filterMap id) hSame
        rw [List.filterMap_map, List.filterMap_map] at hSame'
        rw [keep_of_park hLook]
        exact hRest.trans hSame'

/-
  What a wait comes to depends only on the looks that find
  something decisive, and neither on the stall period nor on
  the looks that find nothing.
-/
theorem outcomes_keep
    {v w : Vigil}
    {ss ss' : List Sighting}
    (hDeadline : v.deadline = w.deadline)
    (hDecisive :
      ss.filter (fun s => s.Decisive v.deadline) =
        ss'.filter (fun s => s.Decisive v.deadline)) :
    (v.keep ss).filterMap Look.outcome? =
      (w.keep ss').filterMap Look.outcome? := by
  have hSame :=
    congrArg (List.filterMap id)
      (map_outcome_keep hDeadline
        (ss'.filter (fun s => s.Decisive v.deadline)))
  rw [List.filterMap_map, List.filterMap_map] at hSame
  rw [filterMap_outcome_keep v, hDecisive,
    filterMap_outcome_keep w, ← hDeadline]
  exact hSame

end Vigil

------------------------------------------------------------
-- Who May Warn
------------------------------------------------------------

/- Whether a vigil may come to warn of a stall. -/
def Vigil.Warns (v : Vigil) : Prop :=
  v.stall ≠ none ∨ v.nextWarning ≠ none

/- Whether a thread's call may come to warn of a stall. -/
def Phase.Warns : Phase V → Prop
| .judging _ a => a.budget = none
| .entering _ a => a.budget = none
| .ticketed a _ => a.budget = none
| .enrolled a _ => a.budget = none
| .departed a _ => a.budget = none
| .watching a _ v => a.budget = none ∨ v.Warns
| .parked a _ v _ => a.budget = none ∨ v.Warns
| .settled a _ _ _ => a.budget = none
| .returning _ _ _ left => left = none
| .regained _ _ _ left => left = none
| _ => False

namespace Vigil

/- A vigil that parks warns later only if it did before. -/
theorem warns_of_park
    {v v' : Vigil}
    {s : Sighting}
    {wakeAt : Option Instant}
    {stalled : Option Duration}
    (hPark : v.look s = .park v' wakeAt stalled)
    (hWarns : v'.Warns) :
    v.Warns := by
  unfold look at hPark
  split at hPark
  · cases hPark
  · split at hPark
    · cases hPark
    · split at hPark
      · cases hPark
      · split at hPark
        · cases hPark
          refine Or.inl ?_
          intro hNone
          rcases hWarns with hStall | hNext
          · exact hStall hNone
          · apply hNext
            unfold rearm
            rw [hNone]
            rfl
        · cases hPark
          exact hWarns

/- A look that warns is one of a vigil that may. -/
theorem warns_of_stalled
    {v v' : Vigil}
    {s : Sighting}
    {wakeAt : Option Instant}
    {d : Duration}
    (hPark : v.look s = .park v' wakeAt (some d)) :
    v.Warns := by
  unfold look at hPark
  split at hPark
  · cases hPark
  · split at hPark
    · cases hPark
    · split at hPark
      · cases hPark
      · split at hPark
        · rename_i hDue
          refine Or.inr ?_
          intro hNone
          unfold due at hDue
          rw [hNone] at hDue
          cases hDue
        · cases hPark

end Vigil

/- Only a wait without a limit begins a vigil that warns. -/
theorem Machine.unlimited_of_start
    {m : Machine V}
    {a : Attempt V}
    (hWarns : (m.start a).Warns) :
    a.budget = none := by
  unfold start at hWarns
  split at hWarns
  · assumption
  · rcases hWarns with hStall | hNext
    · exact absurd rfl hStall
    · exact absurd rfl hNext

/- An evaluation of the condition limits no call. -/
theorem Attempt.unlimited_of_judge
    {a : Attempt V}
    {v : V}
    {side : Side}
    (hWarns : ((a.judge v).1.phase side).Warns) :
    a.budget = none := by
  unfold judge at hWarns
  split at hWarns
  · exact hWarns
  · split at hWarns
    · cases hWarns
    · cases hWarns
    · split at hWarns
      · cases hWarns
      · exact hWarns

/- A call that goes on has no limit if it had none left. -/
theorem Attempt.unlimited_of_resume
    {a : Attempt V}
    {o : Outcome}
    {left : Option Duration}
    {side : Side}
    (hWarns : ((a.resume o left).phase side).Warns) :
    left = none := by
  unfold resume at hWarns
  split at hWarns
  · split at hWarns
    · cases hWarns
    · cases hWarns
  · split at hWarns
    · cases hWarns
    · exact hWarns

/- A call that may warn has no limit. -/
theorem Call.unlimited_of_begin
    {c : Call V}
    {side : Side}
    (hWarns : (c.begin.phase side).Warns) :
    c.limit = none := by
  unfold begin at hWarns
  split at hWarns
  · exact hWarns
  · exact hWarns

/- A waiter that wakes up warns only if it did before. -/
theorem Phase.warns_of_wake
    {g : Nat}
    {ph : Phase V}
    (hWarns : (ph.wake g).Warns) :
    ph.Warns :=
  (ph.apply_wake Warns (fun _ _ _ _ => rfl) g).mp hWarns

/-
  A thread that goes on with its call comes to warn of nothing
  that it did not before.
-/
theorem Machine.Moves.warns_before
    {m rest : Machine V}
    {t : Nat}
    {ph ph' : Phase V}
    {facts : List Fact}
    (hMoves : m.Moves t ph ph' facts rest)
    (hBusy : ph ≠ .idle)
    (hWarns : ph'.Warns) :
    ph.Warns := by
  cases hMoves with
  | call hHeld => exact absurd rfl hBusy
  | judge => exact Attempt.unlimited_of_judge hWarns
  | enroll => exact hWarns
  | count hCounted => exact hWarns
  | depart => exact hWarns
  | watch =>
      rcases hWarns with hUnlimited | hVigil
      · exact hUnlimited
      · exact unlimited_of_start hVigil
  | settle hLook => exact Or.inl hWarns
  | park hLook =>
      exact hWarns.imp_right (Vigil.warns_of_park hLook)
  | expire hDue => exact hWarns
  | measure => exact Option.map_eq_none_iff.mp hWarns
  | regain hFree => exact hWarns
  | resume hCounted =>
      exact Attempt.unlimited_of_resume hWarns
  | _ => cases hWarns

/-
  Once a thread is in a new phase, one that may warn is it, or
  is another that could warn before.
-/
theorem Machine.warns_of_setPhase
    {m : Machine V}
    {t u : Nat}
    {ph ph' : Phase V}
    (hThere : (m.setPhase u ph).threads[t]? = some ph')
    (hWarns : ph'.Warns) :
    (t = u ∧ ph' = ph) ∨
      t ≠ u ∧ ∃ ph, m.threads[t]? = some ph ∧ ph.Warns := by
  rcases getElem?_set_cases hThere with hSelf | ⟨hOther, hSame⟩
  · exact Or.inl hSelf
  · exact Or.inr ⟨hOther, ph', hSame, hWarns⟩

/-
  When a thread goes on with its call, who may warn after that
  could do so before.
-/
theorem Machine.warns_of_goes
    {m m' : Machine V}
    {l : Label V}
    {ns : List Note}
    {t u : Nat}
    {ph' : Phase V}
    (hGoes : Goes u l)
    (hStep : m.step l = some (m', ns))
    (hThere : m'.threads[t]? = some ph')
    (hWarns : ph'.Warns) :
    ∃ ph, m.threads[t]? = some ph ∧ ph.Warns := by
  rcases moves_of_goes hGoes hStep with
    ⟨ph₁, ph₂, facts, rest, hPhase, hBusy, hMoves, rfl, _⟩
  by_cases hSelf : t = u
  · subst hSelf
    rw [hMoves.phase_self hPhase] at hThere
    cases hThere
    exact ⟨ph₁, hPhase, hMoves.warns_before hBusy hWarns⟩
  · rcases hMoves.phase_other hSelf hThere with
      ⟨ph, hBefore, rfl | ⟨g, rfl⟩⟩
    · exact ⟨_, hBefore, hWarns⟩
    · exact ⟨_, hBefore, Phase.warns_of_wake hWarns⟩

/-
  A thread that may warn either has asked just now for a wait
  without a limit, or could warn before and has asked for no
  other.
-/
theorem Machine.warns_of_step
    {m m' : Machine V}
    {l : Label V}
    {ns : List Note}
    {t : Nat}
    {ph' : Phase V}
    (hStep : m.step l = some (m', ns))
    (hThere : m'.threads[t]? = some ph')
    (hWarns : ph'.Warns) :
    (∃ c, l.callOf? t = some c ∧ c.limit = none) ∨
      (l.callOf? t = none ∧
        ∃ ph, m.threads[t]? = some ph ∧ ph.Warns) := by
  have hQuiet :
      ∀ {u : Nat} {ph : Phase V},
        m' = m.setPhase u ph → ¬ ph.Warns →
        ∃ ph, m.threads[t]? = some ph ∧ ph.Warns := by
    rintro u ph rfl hNever
    rcases warns_of_setPhase hThere hWarns with
      ⟨_, rfl⟩ | ⟨_, hBefore⟩
    · exact absurd hWarns hNever
    · exact hBefore
  cases l with
  | join =>
      cases hStep
      change (m.threads ++ [.idle])[t]? = _ at hThere
      refine Or.inr ⟨rfl, ph', ?_, hWarns⟩
      by_cases hLt : t < m.threads.length
      · rw [List.getElem?_append_left hLt] at hThere
        exact hThere
      · rw [List.getElem?_append_right (Nat.le_of_not_lt hLt)]
          at hThere
        have hMem := List.mem_of_getElem? hThere
        cases List.mem_singleton.mp hMem
        cases hWarns
  | tick d =>
      rcases tick_of_step hStep with ⟨now, _, rfl, _⟩
      exact Or.inr ⟨rfl, ph', hThere, hWarns⟩
  | acquire u side =>
      rcases acquire_of_step hStep with ⟨_, _, rfl, _⟩
      rw [threads_setHolder] at hThere
      exact Or.inr ⟨rfl, ph', hThere, hWarns⟩
  | release u side =>
      rcases release_of_step hStep with ⟨_, _, rfl, _⟩
      rw [threads_setHolder] at hThere
      exact Or.inr ⟨rfl, ph', hThere, hWarns⟩
  | write u side v =>
      rcases write_of_step hStep with ⟨_, _, rfl, _⟩
      rw [threads_setValue] at hThere
      exact Or.inr ⟨rfl, ph', hThere, hWarns⟩
  | call u side c =>
      rcases call_of_step hStep with ⟨_, _, rfl, _⟩
      rcases warns_of_setPhase hThere hWarns with
        ⟨rfl, rfl⟩ | ⟨hOther, hBefore⟩
      · exact
          Or.inl
            ⟨c, if_pos rfl, Call.unlimited_of_begin hWarns⟩
      · exact Or.inr ⟨if_neg (Ne.symm hOther), hBefore⟩
  | signal u =>
      rcases signal_of_step hStep with ⟨_, hMove, _⟩
      exact Or.inr ⟨rfl, hQuiet hMove id⟩
  | interrupt u =>
      rcases interrupt_of_step hStep with ⟨_, hMove, _⟩
      exact Or.inr ⟨rfl, hQuiet hMove id⟩
  | interruptHeld u side =>
      cases side with
      | bound =>
          rcases interruptHeld_of_step hStep with
            ⟨_, _, hMove, _⟩
          exact Or.inr ⟨rfl, hQuiet hMove id⟩
      | foreign =>
          rcases interruptForeign_of_step hStep with
            ⟨_, _, rfl, _⟩
          exact Or.inr ⟨rfl, ph', hThere, hWarns⟩
  | advance u =>
      exact
        Or.inr ⟨rfl, warns_of_goes .advance hStep hThere hWarns⟩
  | notify u target =>
      exact
        Or.inr ⟨rfl, warns_of_goes .notify hStep hThere hWarns⟩
  | expire u =>
      exact
        Or.inr ⟨rfl, warns_of_goes .expire hStep hThere hWarns⟩

------------------------------------------------------------
-- Warnings in a History
------------------------------------------------------------

/- What asks for a wait is a request. -/
theorem Label.callOf?_of_inner
    {l : Label V}
    (hInner : l.request? = none)
    (t : Nat) :
    l.callOf? t = none := by
  cases l with
  | call u side c => cases hInner
  | _ => rfl

/- The wait asked for by a request is asked for by its label. -/
theorem Label.callOf?_request?
    (l : Label V)
    (t : Nat) :
    l.request?.bind (Label.callOf? t) = l.callOf? t := by
  cases l <;> rfl

/- One more moment may ask for one more wait. -/
theorem lastCall_append
    (t : Nat)
    (h : List (Moment V))
    (x : Moment V) :
    lastCall t (h ++ [x]) =
      (x.request.bind (Label.callOf? t)).or (lastCall t h) := by
  unfold lastCall
  rw [List.filterMap_append, List.getLast?_append]
  cases hCall : x.request.bind (Label.callOf? t) <;>
    simp [hCall]

/-
  A thread may warn only if the wait that it has asked for
  last has no limit.
-/
theorem Program.Shows.unlimited_of_warns
    {p : Program V}
    {s : Settings}
    {value foreign : V}
    {m : Machine V}
    {h : List (Moment V)}
    {t : Nat}
    {ph : Phase V}
    (hShows : p.Shows (.fresh s value foreign) h m)
    (hPhase : m.threads[t]? = some ph)
    (hWarns : ph.Warns) :
    ∃ c, lastCall t h = some c ∧ c.limit = none := by
  induction hShows generalizing t ph with
  | start => cases hPhase
  | silent _ hStep hSilent ih =>
      rcases Machine.warns_of_step hStep hPhase hWarns with
        ⟨c, hCall, _⟩ | ⟨_, ph', hBefore, hWarns'⟩
      · rw [Label.callOf?_of_inner hSilent.1] at hCall
        cases hCall
      · exact ih hBefore hWarns'
  | @seen m' m'' h l ns _ hStep _ _ ih =>
      rw [lastCall_append]
      change
        ∃ c,
          (l.request?.bind (Label.callOf? t)).or
              (lastCall t h) = some c ∧ _
      rw [l.callOf?_request?]
      rcases Machine.warns_of_step hStep hPhase hWarns with
        ⟨c, hCall, hLimit⟩ | ⟨hNone, ph', hBefore, hWarns'⟩
      · rw [hCall]
        exact ⟨c, rfl, hLimit⟩
      · rw [hNone]
        exact ih hBefore hWarns'

/- Only a warning of a stall is logged as a warning. -/
theorem Fact.isStall_of_warn
    {f : Fact}
    {label : String}
    {e : Event}
    (hEvent : f.event? label = some e)
    (hWarn : e.level = .warn) :
    f.isStall = true := by
  cases f with
  | stalled epoch blocked => rfl
  | returned epoch o left =>
      cases left <;> cases hEvent <;> cases hWarn
  | _ => cases hEvent <;> cases hWarn

/- The facts of a turn are of a call that ends, if any. -/
theorem Turn.not_isStall
    {next : Turn V}
    {f f' : Fact}
    (hMem : f' ∈ f :: next.facts)
    (hFirst : f.isStall = false) :
    f'.isStall = false := by
  rcases List.mem_cons.mp hMem with rfl | hTurn
  · exact hFirst
  · rcases Turn.finished_of_mem_facts hTurn with ⟨e, rfl⟩
    rfl

/-
  A move that warns of a stall is a waiter's that looks and
  parks.  It tells nothing else but that.
-/
theorem Machine.Moves.park_of_stall
    {m rest : Machine V}
    {t : Nat}
    {ph ph' : Phase V}
    {facts : List Fact}
    {f : Fact}
    (hMoves : m.Moves t ph ph' facts rest)
    (hMem : f ∈ facts)
    (hStall : f.isStall = true) :
    facts.filter Fact.isTold = [] ∧ rest = m ∧
      ∃ a g v v' wakeAt d,
        ph = .watching a g v ∧
          v.look ((m.cohort g).sighting m.clock) =
            .park v' wakeAt (some d) ∧
          ph' = .parked a g v' wakeAt := by
  cases hMoves with
  | judge =>
      rw [Turn.not_isStall hMem rfl] at hStall
      cases hStall
  | resume hCounted =>
      rw [Turn.not_isStall hMem rfl] at hStall
      cases hStall
  | @park a g v v' wakeAt stalled hLook =>
      cases stalled with
      | none =>
          cases List.mem_singleton.mp hMem
          cases hStall
      | some d =>
          exact
            ⟨rfl, rfl, a, g, v, v', wakeAt, d, rfl, hLook, rfl⟩
  | _ =>
      exact absurd hStall (List.any_eq_false.mp rfl f hMem)

/- Nobody warns of a stall by asking for anything. -/
theorem Machine.not_isStall_of_request
    {m m' : Machine V}
    {l : Label V}
    {ns : List Note}
    {n : Note}
    (hRequest : l.request? ≠ none)
    (hStep : m.step l = some (m', ns))
    (hMem : n ∈ ns) :
    n.fact.isStall = false := by
  have hNone :
      ns = [] → n.fact.isStall = false := by
    rintro rfl
    cases hMem
  have hOne :
      ∀ {t : Nat} {time : Instant} {f : Fact},
        ns = [f].map (Note.mk t time) → f.isStall = false →
          n.fact.isStall = false := by
    rintro t time f rfl hNot
    cases List.mem_singleton.mp hMem
    exact hNot
  cases l with
  | join =>
      cases hStep
      exact hNone rfl
  | tick d =>
      rcases tick_of_step hStep with ⟨_, _, _, hNotes⟩
      exact hNone hNotes
  | acquire u side =>
      rcases acquire_of_step hStep with ⟨_, _, _, hNotes⟩
      exact hNone hNotes
  | release u side =>
      rcases release_of_step hStep with ⟨_, _, _, hNotes⟩
      exact hNone hNotes
  | write u side v =>
      rcases write_of_step hStep with ⟨_, _, _, hNotes⟩
      exact hOne hNotes rfl
  | call u side c =>
      rcases call_of_step hStep with ⟨_, _, _, hNotes⟩
      exact hNone hNotes
  | signal u =>
      rcases signal_of_step hStep with ⟨_, _, hNotes⟩
      exact hNone hNotes
  | interrupt u =>
      rcases interrupt_of_step hStep with ⟨_, _, hNotes⟩
      exact hNone hNotes
  | interruptHeld u side =>
      cases side with
      | bound =>
          rcases interruptHeld_of_step hStep with
            ⟨_, _, _, hNotes⟩
          exact hNone hNotes
      | foreign =>
          rcases interruptForeign_of_step hStep with
            ⟨_, _, _, hNotes⟩
          exact hOne hNotes rfl
  | advance u => exact absurd rfl hRequest
  | notify u target => exact absurd rfl hRequest
  | expire u => exact absurd rfl hRequest

/- What is no request is a thread's going on with its call. -/
theorem Machine.goes_of_inner
    {l : Label V}
    (hInner : l.request? = none) :
    ∃ t, Goes t l := by
  cases l with
  | advance t => exact ⟨t, .advance⟩
  | notify t target => exact ⟨t, .notify⟩
  | expire t => exact ⟨t, .expire⟩
  | _ => cases hInner

/-
  A step that warns of a stall is a look of the waiter that it
  warns of, which parks.  Nothing else comes of it.
-/
theorem Machine.park_of_stall
    {m m' : Machine V}
    {l : Label V}
    {ns : List Note}
    {n : Note}
    (hStep : m.step l = some (m', ns))
    (hMem : n ∈ ns)
    (hStall : n.fact.isStall = true) :
    m.Silent m' l ns ∧
      ∃ a g v v' wakeAt d,
        m.threads[n.thread]? = some (.watching a g v) ∧
          v.look ((m.cohort g).sighting m.clock) =
            .park v' wakeAt (some d) ∧
          m' = m.setPhase n.thread (.parked a g v' wakeAt) := by
  by_cases hInner : l.request? = none
  · rcases goes_of_inner hInner with ⟨t, hGoes⟩
    rcases moves_of_goes hGoes hStep with
      ⟨ph, ph', facts, rest, hPhase, _, hMoves, rfl, rfl⟩
    rcases List.mem_map.mp hMem with ⟨f, hFact, rfl⟩
    rcases hMoves.park_of_stall hFact hStall with
      ⟨hNone, rfl, a, g, v, v', wakeAt, d, rfl, hLook, rfl⟩
    have hUntold :
        (facts.map (Note.mk t rest.clock)).filter
            Note.isTold =
          [] := by
      rw [List.filter_map]
      exact congrArg (List.map _) hNone
    exact
      ⟨⟨hInner, hUntold, rfl⟩, a, g, v, v', wakeAt, d, hPhase,
        hLook, rfl⟩
  · rw [not_isStall_of_request hInner hStep hMem] at hStall
    cases hStall

------------------------------------------------------------
-- Settings
------------------------------------------------------------

/-
  Whatever the settings, the same histories are possible for
  every program: of the clients' requests, of what becomes of
  their calls, and of the locks, the cohorts, the count of
  waiters and the clock.  A step whose log has a warning is
  the look of a waiter that parks again.  Nothing is seen of
  it, the waiter comes to what it would have come to with the
  vigil it had, and the wait that its thread has asked for
  has no limit.  And the looks of a wait have the same
  outcome, the first of which is the wait's, with any stall
  period.  Looks that find nothing decisive, such as those
  that warn, may be put in or left out: they have no outcome
  and leave the cohort as it is.
-/
theorem Program.settings_indifferent
    (p : Program V)
    (s s' : Settings)
    (value foreign : V) :
    p.histories s value foreign =
      p.histories s' value foreign ∧
    (∀ (h : List (Moment V)) (m m' : Machine V) (l : Label V)
        (ns : List Note) (n : Note) (label : String)
        (e : Event),
      p.Shows (.fresh s value foreign) h m →
      m.step l = some (m', ns) →
      n ∈ ns →
      n.fact.event? label = some e →
      e.level = .warn →
        m.Silent m' l ns ∧
        (∃ a g v v' wakeAt,
          m.threads[n.thread]? = some (.watching a g v) ∧
            m' = m.setPhase n.thread (.parked a g v' wakeAt) ∧
            ∀ ss,
              (v'.keep ss).map Look.outcome? =
                (v.keep ss).map Look.outcome?) ∧
        ∃ c, lastCall n.thread h = some c ∧ c.limit = none) ∧
    (∀ deadline stall stall' started ss,
      ((Vigil.start deadline stall started).keep ss).map
          Look.outcome? =
        ((Vigil.start deadline stall' started).keep ss).map
          Look.outcome?) ∧
    (∀ deadline stall stall' started ss ss',
      ss.filter (fun x => x.Decisive deadline) =
        ss'.filter (fun x => x.Decisive deadline) →
      ((Vigil.start deadline stall started).keep ss).filterMap
          Look.outcome? =
        ((Vigil.start deadline stall' started).keep
            ss').filterMap Look.outcome?) ∧
    (∀ (v : Vigil) (x : Sighting) (c : Cohort),
      ¬ x.Decisive v.deadline ∨
          (v.look x).stalled? ≠ none →
        (v.look x).outcome? = none ∧
          (v.look x).leave c = c) := by
  refine ⟨?_, ?_, ?_, ?_, ?_⟩
  · apply Set.ext
    intro h
    exact
      ⟨fun hHere => p.histories_subset s s' value foreign hHere,
        fun hThere =>
          p.histories_subset s' s value foreign hThere⟩
  · intro h m m' l ns n label e hShows hStep hMem hEvent hWarn
    have hStall := Fact.isStall_of_warn hEvent hWarn
    rcases Machine.park_of_stall hStep hMem hStall with
      ⟨hSilent, a, g, v, v', wakeAt, d, hPhase, hLook, rfl⟩
    have hWarns : (Phase.watching a g v).Warns :=
      Or.inr (Vigil.warns_of_stalled hLook)
    exact
      ⟨hSilent,
        ⟨a, g, v, v', wakeAt, hPhase, rfl,
          Vigil.map_outcome_keep
            (Vigil.deadline_of_park hLook)⟩,
        hShows.unlimited_of_warns hPhase hWarns⟩
  · intro deadline stall stall' started ss
    apply Vigil.map_outcome_keep
    rfl
  · intro deadline stall stall' started ss ss' hDecisive
    apply Vigil.outcomes_keep
    · rfl
    · exact hDecisive
  · intro v x c hNothing
    have hPark : (v.look x).outcome? = none := by
      rcases hNothing with hIndecisive | hStalled
      · rcases Vigil.look_of_indecisive hIndecisive with
          ⟨v', wakeAt, stalled, hLook, _⟩
        rw [hLook]
        rfl
      · cases hLook : v.look x with
        | settle o =>
            rw [hLook] at hStalled
            exact absurd rfl hStalled
        | park v' wakeAt stalled => rfl
    refine ⟨hPark, ?_⟩
    rw [Look.leave_eq, hPark]
    rfl

/-
  A waiter that begins a wait without a limit, and warns of a
  stall after five nanoseconds.  What was seen until then is
  possible without warnings, too.
-/
theorem Program.settings_indifferent_one_stall :
    ∃ (h : List (Moment Nat)) (m m' : Machine Nat)
        (ns : List Note),
      Program.Shows (fun _ _ => True)
        (.fresh ⟨"queue", some (.ofNanos 1)⟩ 0 0) h m ∧
      h.flatMap Moment.told =
        [⟨0, ⟨0⟩, .registered 0⟩, ⟨0, ⟨0⟩, .departed 0⟩] ∧
      m.step (.advance 0) = some (m', ns) ∧
      ns =
        [⟨0, ⟨5⟩, .stalled 0 (.ofNanos 5)⟩,
          ⟨0, ⟨5⟩, .parked 0 (some ⟨6⟩)⟩] ∧
      h ∈ Program.histories (fun _ _ => True) .standard 0 0 ∧
      m.Silent m' (.advance 0) ns ∧
      ∃ c, lastCall 0 h = some c ∧ c.limit = none := by
  have hRuns :
      ∃ (m m' : Machine Nat) (ns : List Note),
        (Machine.fresh ⟨"queue", some (.ofNanos 1)⟩ 0 0).run
            [.join, .acquire 0 .bound, .call 0 .bound .wait,
              .advance 0, .advance 0, .advance 0, .advance 0,
              .tick (.ofNanos 5)] =
          some
            (m,
              [⟨0, ⟨0⟩, .registered 0⟩,
                ⟨0, ⟨0⟩, .departed 0⟩]) ∧
        m.step (.advance 0) = some (m', ns) ∧
        ns =
          [⟨0, ⟨5⟩, .stalled 0 (.ofNanos 5)⟩,
            ⟨0, ⟨5⟩, .parked 0 (some ⟨6⟩)⟩] :=
    ⟨_, _, _, rfl, rfl, by decide⟩
  rcases hRuns with ⟨m, m', ns, hRun, hStep, hNotes⟩
  rcases Program.Shows.of_run
      (p := fun _ _ => True) (fun _ _ => trivial) .start
      hRun with
    ⟨h, hShows, _, hTold⟩
  rcases settings_indifferent (fun _ _ => True)
      ⟨"queue", some (.ofNanos 1)⟩ .standard 0 0 with
    ⟨hSame, hWarning, _⟩
  have hStall : ⟨0, ⟨5⟩, .stalled 0 (.ofNanos 5)⟩ ∈ ns := by
    rw [hNotes]
    exact List.mem_cons_self
  rcases hWarning h m m' (.advance 0) ns _ "queue" _ hShows
      hStep hStall rfl rfl with
    ⟨hSilent, _, hCall⟩
  refine
    ⟨h, m, m', ns, hShows, hTold, hStep, hNotes, ?_, hSilent,
      hCall⟩
  rw [← hSame]
  exact ⟨m, hShows⟩

end CondVar
