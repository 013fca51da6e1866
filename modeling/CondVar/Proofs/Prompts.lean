import CondVar.Proofs.Permits
import Mathlib.Logic.Function.Basic
import Mathlib.Tactic.Choose

/-
  Which signal a wait is settled by.

  Every permit that is taken was left by a signal before, and
  no two waits take the same one.  When nobody waits, the
  current cohort has no permits, so that whoever waits after
  that is signaled only by a signal that is still to come.

  Main declarations:
    * `Machine.Credited`
    * `Minted`
    * `Machine.Traced`
    * `Prompted`
    * `Machine.Ledger.prompted`
    * `Machine.Reaches.traced`
-/

namespace CondVar

------------------------------------------------------------
-- Signaled Waits
------------------------------------------------------------

namespace Wait

/- Whether a wait on an epoch has returned as signaled. -/
def wasSignaled
    (x : Wait)
    (e : Nat) : Bool :=
  x.epoch = e ∧ x.returned = some .signaled

/- Where a wait was settled, in the history. -/
def place (x : Wait) : Nat :=
  (x.settled.map Prod.fst).getD 0

/- A settled wait was settled where its record says. -/
theorem place_of_settled
    {x : Wait}
    {i : Nat}
    {o : Outcome}
    (hSettled : x.settled = some (i, o)) :
    x.place = i := by
  unfold place
  rw [hSettled]
  rfl

end Wait

namespace Standing

/-
  Whether a thread is settled as signaled by a cohort, and
  has not returned yet.
-/
def isGranted
    (g : Nat)
    (s : Standing) : Bool :=
  s.wait? = some (g, some .signaled)

/- A thread without a cohort is not signaled. -/
theorem isGranted_of_isFree
    (g : Nat)
    {s : Standing}
    (hFree : s.isFree = true) :
    s.isGranted g = false := by
  unfold isGranted
  rw [wait?_of_isFree hFree]
  rfl

end Standing

namespace Fact

/- What is not about a wait tells of no permit taken. -/
theorem isTaken_of_quiet
    {f : Fact}
    (g : Nat)
    (hQuiet : f.isOfWait = false) :
    f.isTaken g = false := by
  cases f with
  | settled e o => cases hQuiet
  | _ => rfl

/- Facts that are not about a wait take no permit. -/
theorem countP_isTaken_of_quiet
    {facts : List Fact}
    (hQuiet : ∀ f ∈ facts, f.isOfWait = false)
    (g : Nat) :
    facts.countP (·.isTaken g) = 0 := by
  apply List.countP_eq_zero.mpr
  intro f hMem
  exact
    Bool.eq_false_iff.mp (isTaken_of_quiet g (hQuiet f hMem))

end Fact

namespace Machine

variable {V : Type}

/-
  `returned`: whoever took a permit has returned as signaled
  or is on the way.  `distinct`: no two waits were settled in
  the same place of the history.
-/
structure Credited
    (ns : List Note)
    (m : Machine V) : Prop where
  returned :
    ∀ g,
      permitsTaken ns g =
        (waits ns).countP (·.wasSignaled g) +
          m.standings.countP (Standing.isGranted g)
  distinct :
    ∀ x ∈ waits ns, ∀ y ∈ waits ns, ∀ i o o',
      x.settled = some (i, o) →
        y.settled = some (i, o') → x = y

/- No wait has been settled before the first step. -/
theorem credited_fresh
    (s : Settings)
    (value : V)
    (foreign : V) :
    Credited [] (fresh s value foreign) where
  returned := fun _ => rfl
  distinct := fun _ hMem => nomatch hMem

/- A move that is nothing to the waits keeps their credits. -/
theorem Credited.goes
    {m rest : Machine V}
    {past : List Note}
    {t : Nat}
    {ph ph' : Phase V}
    {facts : List Fact}
    (hCredited : Credited past m)
    (hPhase : m.threads[t]? = some ph)
    (hMoves : m.Moves t ph ph' facts rest)
    (hWait : ph'.standing.wait? = ph.standing.wait?)
    (hQuiet : ∀ f ∈ facts, f.isOfWait = false) :
    Credited (past ++ facts.map (Note.mk t m.clock))
      (rest.setPhase t ph') := by
  have hWaits := waits_append_quiet past t m.clock hQuiet
  constructor
  · intro g
    have hCount :=
      hMoves.countP_standings hPhase (Standing.isGranted g)
    have hSame :
        ph'.standing.isGranted g = ph.standing.isGranted g := by
      unfold Standing.isGranted
      rw [hWait]
    rw [hSame] at hCount
    rw [hWaits, permitsTaken_append,
      Fact.countP_isTaken_of_quiet hQuiet,
      Nat.add_right_cancel hCount]
    exact hCredited.returned g
  · rw [hWaits]
    exact hCredited.distinct

/- The beginning of a wait keeps all credits. -/
theorem Credited.begins
    {m rest : Machine V}
    {past : List Note}
    {t g : Nat}
    {ph ph' : Phase V}
    (hCredited : Credited past m)
    (hPhase : m.threads[t]? = some ph)
    (hMoves : m.Moves t ph ph' [.registered g] rest)
    (hDoor : ph.standing = .door g)
    (hEnrolled : ph'.standing = .enrolled g) :
    Credited
      (past ++ [Fact.registered g].map (Note.mk t m.clock))
      (rest.setPhase t ph') := by
  have hWaits := waits_append_registered past t m.clock g
  constructor
  · intro h
    have hCount :=
      hMoves.countP_standings hPhase (Standing.isGranted h)
    have hNot : Standing.isGranted h (.door g) = false := rfl
    have hNot' :
        Standing.isGranted h (.enrolled g) = false := by
      simp [Standing.isGranted, Standing.wait?]
    have hNew :
        [Wait.fresh t g past.length].countP
            (·.wasSignaled h) =
          0 := by
      simp [Wait.wasSignaled, Wait.fresh]
    rw [hDoor, hEnrolled, hNot, hNot'] at hCount
    rw [hWaits, permitsTaken_append, List.countP_append,
      hNew, Nat.add_right_cancel hCount]
    exact hCredited.returned h
  · rw [hWaits]
    intro x hX y hY i o o' hSettled hSettled'
    rcases List.mem_append.mp hX with hOldX | hNewX
    · rcases List.mem_append.mp hY with hOldY | hNewY
      · exact
          hCredited.distinct x hOldX y hOldY i o o' hSettled
            hSettled'
      · rw [List.mem_singleton.mp hNewY] at hSettled'
        cases hSettled'
    · rw [List.mem_singleton.mp hNewX] at hSettled
      cases hSettled

/- The settling of a wait keeps the credits of all others. -/
theorem Credited.settles
    {m rest : Machine V}
    {past : List Note}
    {t g : Nat}
    {ph ph' : Phase V}
    {o : Outcome}
    (hCredited : Credited past m)
    (hLedger : Ledger past m)
    (hPhase : m.threads[t]? = some ph)
    (hMoves : m.Moves t ph ph' [.settled g o] rest)
    (hWaiting : ph.standing = .waiting g)
    (hEnded : ph'.standing = .ended g o) :
    Credited
      (past ++ [Fact.settled g o].map (Note.mk t m.clock))
      (rest.setPhase t ph') := by
  rcases hLedger.heeds_settled hPhase hWaiting o with
    ⟨l, x, r, hBefore, hAfter, _, _, _, _⟩
  constructor
  · intro h
    have hCount :=
      hMoves.countP_standings hPhase (Standing.isGranted h)
    have hWaits :=
      countP_middle_add (·.wasSignaled h) l r x
        { x with settled := some (past.length, o) }
    have hNot :
        Standing.isGranted h (.waiting g) = false := by
      simp [Standing.isGranted, Standing.wait?]
    have hGrants :
        Standing.isGranted h (.ended g o) =
          (Fact.settled g o).isTaken h := by
      simp [Standing.isGranted, Standing.wait?, Fact.isTaken]
    have hReturned := hCredited.returned h
    rw [hWaiting, hEnded, hNot, hGrants] at hCount
    rw [hBefore] at hReturned
    rw [hAfter, permitsTaken_append, countP_one,
      Nat.add_right_cancel hWaits, hReturned, Nat.add_assoc,
      ← hCount]
    rfl
  · -- The new place is later than all that were told before.
    rw [hAfter]
    have hTold :
        ∀ y ∈ waits past, ∀ i o,
          y.settled = some (i, o) → i < past.length :=
      fun y hMem i o hSettled =>
        (hLedger.settled y hMem i o hSettled).2.lt_length
    intro y hY z hZ i o₁ o₂ hSettled hSettled'
    rw [hBefore] at hTold
    rcases mem_or_eq_of_mem_replace (x := x) hY with
      hOldY | rfl
    · rcases mem_or_eq_of_mem_replace (x := x) hZ with
        hOldZ | rfl
      · rw [← hBefore] at hOldY hOldZ
        exact
          hCredited.distinct y hOldY z hOldZ i o₁ o₂ hSettled
            hSettled'
      · cases hSettled'
        exact
          absurd (hTold y hOldY _ _ hSettled)
            (Nat.lt_irrefl _)
    · rcases mem_or_eq_of_mem_replace (x := x) hZ with
        hOldZ | rfl
      · cases hSettled
        exact
          absurd (hTold z hOldZ _ _ hSettled')
            (Nat.lt_irrefl _)
      · rfl

/- The return from a wait keeps the credits of all waits. -/
theorem Credited.ends
    {m rest : Machine V}
    {past : List Note}
    {t g : Nat}
    {ph ph' : Phase V}
    {o : Outcome}
    {left : Option Duration}
    {facts : List Fact}
    (hCredited : Credited past m)
    (hLedger : Ledger past m)
    (hPhase : m.threads[t]? = some ph)
    (hMoves :
      m.Moves t ph ph' (.returned g o left :: facts) rest)
    (hRegained : ph.standing = .regained g o)
    (hFree : ph'.standing.isFree = true)
    (hQuiet : ∀ f ∈ facts, f.isOfWait = false) :
    Credited
      (past ++
        (Fact.returned g o left :: facts).map
          (Note.mk t m.clock))
      (rest.setPhase t ph') := by
  rcases
      hLedger.heeds_returned hPhase hRegained left hQuiet with
    ⟨l, x, r, hBefore, hAfter, hOpen, hStatus, hLeft, hRight⟩
  have hGoing : x.returned = none := (of_decide_eq_true hOpen).2
  have hEpoch : x.epoch = g := congrArg Prod.fst hStatus
  have hThis : x ∈ waits past := by
    rw [hBefore]
    exact List.mem_append_right _ List.mem_cons_self
  constructor
  · intro h
    have hCount :=
      hMoves.countP_standings hPhase (Standing.isGranted h)
    have hWaits :=
      countP_middle_add (·.wasSignaled h) l r x
        { x with returned := some o }
    have hNot : x.wasSignaled h = false := by
      simp [Wait.wasSignaled, hGoing]
    have hCredit :
        Wait.wasSignaled { x with returned := some o } h =
          Standing.isGranted h (.regained g o) := by
      simp [Wait.wasSignaled, Standing.isGranted,
        Standing.wait?, hEpoch]
    have hReturned := hCredited.returned h
    have hNone : (Fact.returned g o left).isTaken h = false :=
      rfl
    rw [hRegained, Standing.isGranted_of_isFree h hFree]
      at hCount
    rw [hNot, hCredit] at hWaits
    rw [hBefore] at hReturned
    rw [hAfter, permitsTaken_append, List.countP_cons, hNone,
      Fact.countP_isTaken_of_quiet hQuiet]
    simp only [Bool.toNat_false, Bool.false_eq_true, if_false]
      at hWaits hCount ⊢
    omega
  · -- All other waits are not the one that is over now.
    have hOther :
        ∀ y ∈ l ++ { x with returned := some o } :: r,
          (y ∈ waits past ∧ y ≠ x) ∨
            y = { x with returned := some o } := by
      have hNot :
          ∀ y, y.isOpen t = false → y ≠ x := by
        rintro y hClosed rfl
        rw [hOpen] at hClosed
        cases hClosed
      intro y hMem
      rw [hBefore]
      rcases List.mem_append.mp hMem with hL | hMem
      · exact
          Or.inl
            ⟨List.mem_append_left _ hL, hNot y (hLeft y hL)⟩
      · rcases List.mem_cons.mp hMem with rfl | hR
        · exact Or.inr rfl
        · exact
            Or.inl
              ⟨List.mem_append_right _
                (List.mem_cons_of_mem _ hR),
                hNot y (hRight y hR)⟩
    have hDistinct := hCredited.distinct
    rw [hAfter]
    intro y hY z hZ i o₁ o₂ hSettled hSettled'
    rcases hOther y hY with ⟨hOldY, hNotY⟩ | rfl
    · rcases hOther z hZ with ⟨hOldZ, hNotZ⟩ | rfl
      · exact hDistinct y hOldY z hOldZ i o₁ o₂ hSettled hSettled'
      · exact
          absurd
            (hDistinct y hOldY x hThis i o₁ o₂ hSettled
              hSettled')
            hNotY
    · rcases hOther z hZ with ⟨hOldZ, hNotZ⟩ | rfl
      · exact
          absurd
            (hDistinct z hOldZ x hThis i o₂ o₁ hSettled'
              hSettled)
            hNotZ
      · rfl

/- Every step of an orderly machine keeps all credits. -/
theorem Credited.steps
    {m m' : Machine V}
    {past ns : List Note}
    (hCredited : Credited past m)
    (hOrderly : m.Orderly)
    (hLedger : Ledger past m)
    (hSteps : m.Steps m' ns) :
    Credited (past ++ ns) m' := by
  cases hSteps with
  | join =>
      rw [List.append_nil]
      refine ⟨?_, hCredited.distinct⟩
      intro g
      rw [standings_join, List.countP_append]
      exact hCredited.returned g
  | tick hLater =>
      rw [List.append_nil]
      exact ⟨hCredited.returned, hCredited.distinct⟩
  | @move t ph ph' facts rest hPhase hMoves =>
      have hCourse := hOrderly.course hPhase hMoves
      generalize hBefore : ph.standing = s at hCourse
      generalize hAfter : ph'.standing = s' at hCourse
      cases hCourse with
      | goes hWait hQuiet =>
          subst hBefore hAfter
          exact hCredited.goes hPhase hMoves hWait hQuiet
      | begins =>
          exact
            hCredited.begins hPhase hMoves hBefore hAfter
      | settles hLooked =>
          exact
            hCredited.settles hLedger hPhase hMoves hBefore
              hAfter
      | ends hFree hQuiet =>
          subst hAfter
          exact
            hCredited.ends hLedger hPhase hMoves hBefore hFree
              hQuiet

/- Wherever a fresh machine gets, permits are accounted for. -/
theorem Reaches.credited
    {m : Machine V}
    {s : Settings}
    {value foreign : V}
    {ns : List Note}
    (hReaches : (fresh s value foreign).Reaches ns m) :
    Credited ns m := by
  have hKept : Sound ns m ∧ Credited ns m :=
    hReaches.invariant
      (P := fun ns m => Sound ns m ∧ Credited ns m)
      ⟨sound_fresh s value foreign,
        credited_fresh s value foreign⟩
      (fun hBefore hSteps =>
        ⟨hBefore.1.steps hSteps,
          hBefore.2.steps hBefore.1.orderly hBefore.1.ledger
            hSteps⟩)
  exact hKept.2

end Machine

------------------------------------------------------------
-- Where Permits Come From
------------------------------------------------------------

/- A signal left a permit with a cohort in this place. -/
def LeftAt
    (ns : List Note)
    (g : Nat)
    (j : Nat) : Prop :=
  ∃ t, Told ns j t (.posted g (.woken 1))

/- A wait took a permit of a cohort in this place. -/
def TakenAt
    (ns : List Note)
    (g : Nat)
    (i : Nat) : Prop :=
  ∃ t, Told ns i t (.settled g .signaled)

/-
  From place `k` of a history on, the permits of a cohort
  come from posts: `origin` tells by which post the permit
  that was taken in a place was left, and `spare` are the
  posts whose permits are still there.
-/
structure Minted
    (ns : List Note)
    (k : Nat)
    (g : Nat)
    (origin : Nat → Nat)
    (spare : List Nat) : Prop where
  left : ∀ j ∈ spare, k ≤ j ∧ LeftAt ns g j
  distinct : spare.Nodup
  taken :
    ∀ i,
      k ≤ i →
        TakenAt ns g i →
          k ≤ origin i ∧ origin i < i ∧
            LeftAt ns g (origin i) ∧ origin i ∉ spare
  own :
    ∀ i j,
      k ≤ i →
        k ≤ j →
          TakenAt ns g i →
            TakenAt ns g j → origin i = origin j → i = j

namespace Minted

variable {past : List Note}
variable {k g : Nat}
variable {origin : Nat → Nat}
variable {spare : List Nat}

/- Nothing has been taken from the end of a history on. -/
theorem start
    (past : List Note)
    (g : Nat) :
    Minted past past.length g id [] where
  left := fun _ hMem => nomatch hMem
  distinct := List.nodup_nil
  taken := by
    rintro i hLe ⟨t, hTold⟩
    exact absurd hTold.lt_length (Nat.not_lt_of_le hLe)
  own := by
    rintro i j hLe _ ⟨t, hTold⟩
    exact absurd hTold.lt_length (Nat.not_lt_of_le hLe)

/- Facts that tell of no permit leave all permits. -/
theorem quiet
    (hMinted : Minted past k g origin spare)
    {facts : List Fact}
    (hFacts : ∀ f ∈ facts, f.isOfPermit g = false)
    (t : Nat)
    (time : Instant) :
    Minted (past ++ facts.map (Note.mk t time)) k g origin
      spare := by
  have hNot : ∀ f, f.isOfPermit g = true → f ∉ facts := by
    intro f hIs hMem
    rw [hFacts f hMem] at hIs
    cases hIs
  have hLeft :
      ∀ j,
        LeftAt (past ++ facts.map (Note.mk t time)) g j ↔
          LeftAt past g j :=
    fun j =>
      exists_congr
        (fun u =>
          told_append_of_not_mem
            (hNot _ (Fact.isOfPermit_iff.mpr (Or.inl rfl))))
  have hTaken :
      ∀ i,
        TakenAt (past ++ facts.map (Note.mk t time)) g i ↔
          TakenAt past g i :=
    fun i =>
      exists_congr
        (fun u =>
          told_append_of_not_mem
            (hNot _ (Fact.isOfPermit_iff.mpr (Or.inr rfl))))
  constructor
  · simp only [hLeft]
    exact hMinted.left
  · exact hMinted.distinct
  · simp only [hLeft, hTaken]
    exact hMinted.taken
  · simp only [hTaken]
    exact hMinted.own

/- A post that is received adds a permit to spare. -/
theorem leaves
    (hMinted : Minted past k g origin spare)
    (hLe : k ≤ past.length)
    (t : Nat)
    (time : Instant) :
    Minted
      (past ++ [Fact.posted g (.woken 1)].map (Note.mk t time))
      k g origin (past.length :: spare) := by
  have hOld :
      ∀ {j}, LeftAt past g j →
        LeftAt
          (past ++
            [Fact.posted g (.woken 1)].map (Note.mk t time))
          g j := by
    rintro j ⟨u, hTold⟩
    exact ⟨u, hTold.append _⟩
  have hTaken :
      ∀ i,
        TakenAt
            (past ++
              [Fact.posted g (.woken 1)].map (Note.mk t time))
            g i ↔
          TakenAt past g i :=
    fun i =>
      exists_congr (fun u => told_append_of_not_mem (by simp))
  have hBefore : ∀ {j}, LeftAt past g j → j < past.length := by
    rintro j ⟨u, hTold⟩
    exact hTold.lt_length
  constructor
  · intro j hMem
    rcases List.mem_cons.mp hMem with rfl | hSpare
    · refine ⟨hLe, t, ?_⟩
      exact
        told_append_singleton_iff.mpr
          (Or.inr ⟨rfl, rfl, rfl⟩)
    · rcases hMinted.left j hSpare with ⟨hSince, hLeft⟩
      exact ⟨hSince, hOld hLeft⟩
  · apply List.nodup_cons.mpr
    refine ⟨?_, hMinted.distinct⟩
    intro hMem
    exact
      Nat.lt_irrefl _ (hBefore (hMinted.left _ hMem).2)
  · intro i hSince hTold
    rcases hMinted.taken i hSince ((hTaken i).mp hTold) with
      ⟨hFrom, hLt, hLeft, hNot⟩
    refine ⟨hFrom, hLt, hOld hLeft, ?_⟩
    intro hMem
    rcases List.mem_cons.mp hMem with hSame | hSpare
    · exact Nat.ne_of_lt (hBefore hLeft) hSame
    · exact hNot hSpare
  · simp only [hTaken]
    exact hMinted.own

/- A wait that is signaled takes one of the permits to spare. -/
theorem takes
    {j : Nat}
    (hMinted : Minted past k g origin (j :: spare))
    (t : Nat)
    (time : Instant) :
    Minted
      (past ++ [Fact.settled g .signaled].map (Note.mk t time))
      k g (Function.update origin past.length j) spare := by
  have hLeft :
      ∀ i,
        LeftAt
            (past ++
              [Fact.settled g .signaled].map
                (Note.mk t time))
            g i ↔
          LeftAt past g i :=
    fun i =>
      exists_congr (fun u => told_append_of_not_mem (by simp))
  have hTaken :
      ∀ {i},
        TakenAt
            (past ++
              [Fact.settled g .signaled].map
                (Note.mk t time))
            g i →
          (TakenAt past g i ∧ i ≠ past.length) ∨
            i = past.length := by
    rintro i ⟨u, hTold⟩
    rcases told_append_singleton_iff.mp hTold with
      hOld | ⟨_, _, hPlace⟩
    · exact Or.inl ⟨⟨u, hOld⟩, Nat.ne_of_lt hOld.lt_length⟩
    · exact Or.inr hPlace
  rcases hMinted.left j List.mem_cons_self with
    ⟨hFrom, hFirst⟩
  have hNodup := List.nodup_cons.mp hMinted.distinct
  constructor
  · simp only [hLeft]
    intro i hMem
    exact hMinted.left i (List.mem_cons_of_mem _ hMem)
  · exact hNodup.2
  · simp only [hLeft]
    intro i hSince hTold
    rcases hTaken hTold with ⟨hOld, hNe⟩ | rfl
    · rw [Function.update_of_ne hNe]
      rcases hMinted.taken i hSince hOld with
        ⟨hFrom', hLt, hThere, hNot⟩
      exact
        ⟨hFrom', hLt, hThere,
          fun hMem => hNot (List.mem_cons_of_mem _ hMem)⟩
    · rw [Function.update_self]
      rcases hFirst with ⟨u, hPosted⟩
      exact
        ⟨hFrom, hPosted.lt_length, ⟨u, hPosted⟩, hNodup.1⟩
  · -- What was taken before did not come from this post.
    have hFresh :
        ∀ {i}, k ≤ i → TakenAt past g i → origin i ≠ j := by
      rintro i hSince hOld rfl
      exact
        (hMinted.taken i hSince hOld).2.2.2 List.mem_cons_self
    intro i i' hSince hSince' hTold hTold' hSame
    rcases hTaken hTold with ⟨hOld, hNe⟩ | rfl
    · rw [Function.update_of_ne hNe] at hSame
      rcases hTaken hTold' with ⟨hOld', hNe'⟩ | rfl
      · rw [Function.update_of_ne hNe'] at hSame
        exact hMinted.own i i' hSince hSince' hOld hOld' hSame
      · rw [Function.update_self] at hSame
        exact absurd hSame (hFresh hSince hOld)
    · rw [Function.update_self] at hSame
      rcases hTaken hTold' with ⟨hOld', hNe'⟩ | rfl
      · rw [Function.update_of_ne hNe'] at hSame
        exact absurd hSame.symm (hFresh hSince' hOld')
      · rfl

end Minted

/-
  From a place of the history on, every permit of a cohort
  that is taken was left after that place, and each by a post
  of its own.
-/
def PromptedOn
    (ns : List Note)
    (k : Nat)
    (g : Nat) : Prop :=
  ∃ origin : Nat → Nat,
    (∀ i,
      k ≤ i →
        TakenAt ns g i →
          k ≤ origin i ∧ origin i < i ∧
            LeftAt ns g (origin i)) ∧
    ∀ i j,
      k ≤ i →
        k ≤ j →
          TakenAt ns g i →
            TakenAt ns g j → origin i = origin j → i = j

/- Permits that come from posts are prompted by these. -/
theorem Minted.promptedOn
    {ns : List Note}
    {k g : Nat}
    {origin : Nat → Nat}
    {spare : List Nat}
    (hMinted : Minted ns k g origin spare) :
    PromptedOn ns k g := by
  refine ⟨origin, ?_, hMinted.own⟩
  intro i hSince hTaken
  rcases hMinted.taken i hSince hTaken with
    ⟨hFrom, hLt, hLeft, _⟩
  exact ⟨hFrom, hLt, hLeft⟩

/- Where nothing is taken, nothing needs a post. -/
theorem promptedOn_of_none
    {ns : List Note}
    {k g : Nat}
    (hNone : ∀ i, k ≤ i → ¬ TakenAt ns g i) :
    PromptedOn ns k g := by
  refine ⟨id, ?_, ?_⟩
  · intro i hSince hTaken
    exact absurd hTaken (hNone i hSince)
  · intro i j hSince _ hTaken
    exact absurd hTaken (hNone i hSince)

/-
  From a place of the history on, every wait that is settled
  as signaled has its own signal that was received after that
  place and before, on the same epoch.
-/
def Prompted
    (ns : List Note)
    (k : Nat) : Prop :=
  ∃ origin : Wait → Nat,
    (∀ x ∈ waits ns, ∀ i,
      x.settled = some (i, .signaled) →
        k ≤ i →
          k ≤ origin x ∧ origin x < i ∧
            LeftAt ns x.epoch (origin x)) ∧
    ∀ x ∈ waits ns, ∀ y ∈ waits ns, ∀ i j,
      x.settled = some (i, .signaled) →
        y.settled = some (j, .signaled) →
          k ≤ i →
            k ≤ j → origin x = origin y → x = y

namespace Machine

variable {V : Type}

/- Waits are prompted if the permits of all cohorts are. -/
theorem Ledger.prompted
    {m : Machine V}
    {ns : List Note}
    {k : Nat}
    (hLedger : Ledger ns m)
    (hCredited : Credited ns m)
    (hAll : ∀ g, PromptedOn ns k g) :
    Prompted ns k := by
  choose origin hPosted hOwn using hAll
  have hTaken :
      ∀ x ∈ waits ns, ∀ i,
        x.settled = some (i, .signaled) →
          TakenAt ns x.epoch i :=
    fun x hMem i hSettled =>
      ⟨x.thread, (hLedger.settled x hMem i _ hSettled).2⟩
  refine ⟨fun x => origin x.epoch x.place, ?_, ?_⟩
  · intro x hMem i hSettled hSince
    have hOn :=
      hPosted x.epoch i hSince (hTaken x hMem i hSettled)
    rw [← Wait.place_of_settled hSettled] at hOn ⊢
    exact hOn
  · intro x hX y hY i j hSettledX hSettledY hSinceX hSinceY
      hSame
    have hTakenX := hTaken x hX i hSettledX
    have hTakenY := hTaken y hY j hSettledY
    change origin x.epoch x.place = origin y.epoch y.place
      at hSame
    rw [Wait.place_of_settled hSettledX,
      Wait.place_of_settled hSettledY] at hSame
    -- One post is on one epoch.
    have hEpoch : x.epoch = y.epoch := by
      rcases (hPosted x.epoch i hSinceX hTakenX).2.2 with
        ⟨u, hToldX⟩
      rcases (hPosted y.epoch j hSinceY hTakenY).2.2 with
        ⟨w, hToldY⟩
      rw [hSame] at hToldX
      exact (Fact.posted.inj (hToldX.unique hToldY).2).1
    rw [← hEpoch] at hSame hTakenY
    have hOne :=
      hOwn x.epoch i j hSinceX hSinceY hTakenX hTakenY hSame
    subst hOne
    exact hCredited.distinct x hX y hY i _ _ hSettledX hSettledY

/-
  A cohort has as many permits as there are posts, from a
  place of the history on, whose permits nobody took.
-/
def Traced
    (ns : List Note)
    (k : Nat)
    (g : Nat)
    (m : Machine V) : Prop :=
  ∃ origin spare,
    Minted ns k g origin spare ∧
      spare.length = (m.cohort g).permits

/- Every step of an orderly machine keeps permits traced. -/
theorem Traced.steps
    {m m' : Machine V}
    {past ns : List Note}
    {k g : Nat}
    (hTraced : Traced past k g m)
    (hLe : k ≤ past.length)
    (hOrderly : m.Orderly)
    (hSteps : m.Steps m' ns) :
    Traced (past ++ ns) k g m' := by
  rcases hTraced with ⟨origin, spare, hMinted, hLength⟩
  cases hSteps with
  | join =>
      rw [List.append_nil]
      exact ⟨origin, spare, hMinted, hLength⟩
  | tick hLater =>
      rw [List.append_nil]
      exact ⟨origin, spare, hMinted, hLength⟩
  | @move t ph ph' facts rest hPhase hMoves =>
      cases hOrderly.trade hPhase hMoves g with
      | none hPermits hFacts =>
          exact
            ⟨origin, spare, hMinted.quiet hFacts t m.clock,
              hLength.trans hPermits.symm⟩
      | leaves hOpen hLacks hPermits =>
          refine
            ⟨origin, _, hMinted.leaves hLe t m.clock, ?_⟩
          rw [List.length_cons, hLength]
          exact hPermits.symm
      | takes hOpen hPermits =>
          cases spare with
          | nil =>
              rw [← hLength] at hPermits
              cases hPermits
          | cons j spare =>
              refine
                ⟨_, spare, hMinted.takes t m.clock, ?_⟩
              rw [List.length_cons] at hLength
              exact
                Nat.add_right_cancel
                  (hLength.trans hPermits.symm)

/- Permits that come later are traced from then on. -/
theorem Reaches.traced
    {m m' : Machine V}
    {past ns : List Note}
    {g : Nat}
    (hReaches : m.Reaches ns m')
    (hOrderly : m.Orderly)
    (hNone : (m.cohort g).permits = 0) :
    Traced (past ++ ns) past.length g m' := by
  have hFirst : Traced (past ++ []) past.length g m := by
    rw [List.append_nil]
    exact ⟨id, [], .start past g, hNone.symm⟩
  apply
    hReaches.invariant_of_orderly
      (P := fun ns m =>
        Traced (past ++ ns) past.length g m)
      hOrderly hFirst
  intro m₁ m₂ ns₁ ns₂ hOrderly₁ hBefore hSteps
  rw [← List.append_assoc]
  apply hBefore.steps ?_ hOrderly₁ hSteps
  rw [List.length_append]
  exact Nat.le_add_right _ _

/- A closed cohort stays closed, and no permit is taken. -/
theorem Reaches.none_taken
    {m m' : Machine V}
    {past ns : List Note}
    {g : Nat}
    (hReaches : m.Reaches ns m')
    (hOrderly : m.Orderly)
    (hClosed : (m.cohort g).closed = true) :
    ∀ i, past.length ≤ i → ¬ TakenAt (past ++ ns) g i := by
  have hFirst :
      ∀ i,
        past.length ≤ i → ¬ TakenAt (past ++ []) g i := by
    rintro i hSince ⟨t, hTold⟩
    rw [List.append_nil] at hTold
    exact Nat.not_lt_of_le hSince hTold.lt_length
  have hKept :
      (m'.cohort g).closed = true ∧
        ∀ i,
          past.length ≤ i → ¬ TakenAt (past ++ ns) g i := by
    refine
      hReaches.invariant_of_orderly
        (P := fun ns m =>
          (m.cohort g).closed = true ∧
            ∀ i,
              past.length ≤ i →
                ¬ TakenAt (past ++ ns) g i)
        hOrderly ⟨hClosed, hFirst⟩ ?_
    rintro m₁ m₂ ns₁ ns₂ hOrderly₁ ⟨hClosed₁, hNone₁⟩ hSteps
    rw [← List.append_assoc]
    cases hSteps with
    | join =>
        rw [List.append_nil]
        exact ⟨hClosed₁, hNone₁⟩
    | tick hLater =>
        rw [List.append_nil]
        exact ⟨hClosed₁, hNone₁⟩
    | @move t ph ph' facts rest hPhase hMoves =>
        refine
          ⟨(hOrderly₁.closed_moves_iff hPhase hMoves g).mpr
            (Or.inl hClosed₁), ?_⟩
        have hQuiet : Fact.settled g .signaled ∉ facts := by
          intro hMem
          cases hOrderly₁.trade hPhase hMoves g with
          | none hPermits hFacts =>
              have hTells := hFacts _ hMem
              simp at hTells
          | leaves hOpen hLacks hPermits =>
              cases hClosed₁.symm.trans hOpen
          | takes hOpen hPermits =>
              cases hClosed₁.symm.trans hOpen
        rintro i hSince ⟨u, hTold⟩
        exact
          hNone₁ i hSince
            ⟨u, (told_append_of_not_mem hQuiet).mp hTold⟩
  exact hKept.2

end Machine

end CondVar
