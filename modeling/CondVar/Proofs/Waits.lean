import CondVar.History

/-
  The waits that a history tells of.

  A wait begins in a history when its thread registers.  It
  is settled when its thread gets its outcome, and it is over
  when its thread returns with it.  A thread has one wait at
  a time, so its notes are about the one that is not over.
  Each note is known by its place in the history, and what
  comes before what is said by these places.

  Main declarations:
    * `Told`
    * `Wait`
    * `waits`
    * `waits_append_quiet`
    * `waits_append_cons`
-/

namespace CondVar

------------------------------------------------------------
-- Places in a History
------------------------------------------------------------

/- A history tells a fact of a thread at a place. -/
def Told
    (ns : List Note)
    (i : Nat)
    (t : Nat)
    (f : Fact) : Prop :=
  ∃ time, ns[i]? = some ⟨t, time, f⟩

/- What is told, is told at a place within the history. -/
theorem Told.lt_length
    {ns : List Note}
    {i t : Nat}
    {f : Fact}
    (hTold : Told ns i t f) :
    i < ns.length := by
  rcases hTold with ⟨time, hGet⟩
  rcases List.getElem?_eq_some_iff.mp hGet with ⟨hLt, _⟩
  exact hLt

/- One place tells one fact. -/
theorem Told.unique
    {ns : List Note}
    {i t u : Nat}
    {f f' : Fact}
    (hTold : Told ns i t f)
    (hTold' : Told ns i u f') :
    t = u ∧ f = f' := by
  rcases hTold with ⟨time, hGet⟩
  rcases hTold' with ⟨time', hGet'⟩
  rw [hGet] at hGet'
  cases hGet'
  exact ⟨rfl, rfl⟩

/-
  A history that goes on tells what it told, and in the
  places from its old length on, the facts of the thread that
  has moved.
-/
theorem told_append_iff
    {past : List Note}
    {facts : List Fact}
    {time : Instant}
    {i t u : Nat}
    {f : Fact} :
    Told (past ++ facts.map (Note.mk t time)) i u f ↔
      Told past i u f ∨
        (u = t ∧
          ∃ k, facts[k]? = some f ∧ i = past.length + k) := by
  unfold Told
  by_cases hLt : i < past.length
  · rw [List.getElem?_append_left hLt]
    constructor
    · exact Or.inl
    · rintro (hOld | ⟨_, k, _, rfl⟩)
      · exact hOld
      · omega
  · rw [List.getElem?_append_right (Nat.le_of_not_lt hLt),
      List.getElem?_map]
    constructor
    · rintro ⟨time', hGet⟩
      rcases Option.map_eq_some_iff.mp hGet with
        ⟨f', hFact, hNote⟩
      cases hNote
      exact Or.inr ⟨rfl, i - past.length, hFact, by omega⟩
    · rintro (hOld | ⟨rfl, k, hFact, rfl⟩)
      · exact absurd (Told.lt_length hOld) hLt
      · rw [Nat.add_sub_cancel_left, hFact]
        exact ⟨time, rfl⟩

/- A step with one fact tells that fact in the next place. -/
theorem told_append_singleton_iff
    {past : List Note}
    {time : Instant}
    {i t u : Nat}
    {f f' : Fact} :
    Told (past ++ [f'].map (Note.mk t time)) i u f ↔
      Told past i u f ∨
        (u = t ∧ f = f' ∧ i = past.length) := by
  rw [told_append_iff]
  constructor
  · rintro (hOld | ⟨hMine, k, hFact, hPlace⟩)
    · exact Or.inl hOld
    · cases k with
      | zero =>
          exact
            Or.inr ⟨hMine, (Option.some.inj hFact).symm, hPlace⟩
      | succ k => cases hFact
  · rintro (hOld | ⟨hMine, rfl, hPlace⟩)
    · exact Or.inl hOld
    · exact Or.inr ⟨hMine, 0, rfl, hPlace⟩

/- A step tells nothing new of what is not among its facts. -/
theorem told_append_of_not_mem
    {past : List Note}
    {facts : List Fact}
    {time : Instant}
    {i t u : Nat}
    {f : Fact}
    (hNot : f ∉ facts) :
    Told (past ++ facts.map (Note.mk t time)) i u f ↔
      Told past i u f := by
  rw [told_append_iff]
  constructor
  · rintro (hOld | ⟨_, k, hFact, _⟩)
    · exact hOld
    · exact absurd (List.mem_of_getElem? hFact) hNot
  · exact Or.inl

/- What a history has told stays told as it goes on. -/
theorem Told.append
    {past : List Note}
    {i t : Nat}
    {f : Fact}
    (hTold : Told past i t f)
    (ns : List Note) :
    Told (past ++ ns) i t f := by
  rcases hTold with ⟨time, hGet⟩
  have hLt := Told.lt_length ⟨time, hGet⟩
  exact ⟨time, by rw [List.getElem?_append_left hLt, hGet]⟩

------------------------------------------------------------
-- Waits
------------------------------------------------------------

/-
  A wait: its thread, the epoch of its cohort, the place in
  the history where it registered, where it was settled and
  how, and with which outcome it returned.
-/
structure Wait where
  thread : Nat
  epoch : Nat
  start : Nat
  settled : Option (Nat × Outcome)
  returned : Option Outcome
deriving DecidableEq

namespace Wait

/- A wait that has just registered. -/
def fresh
    (thread : Nat)
    (epoch : Nat)
    (start : Nat) : Wait :=
  ⟨thread, epoch, start, none, none⟩

/- Whether a wait is one of a thread and is not over. -/
def isOpen
    (x : Wait)
    (t : Nat) : Bool :=
  x.thread = t ∧ x.returned = none

/- Whether a wait on an epoch has no outcome yet. -/
def isPending
    (x : Wait)
    (e : Nat) : Bool :=
  x.epoch = e ∧ x.settled = none

/-
  Whether a wait on an epoch has registered before a place in
  the history and is not settled before it.
-/
def isPendingAt
    (x : Wait)
    (e : Nat)
    (j : Nat) : Bool :=
  x.epoch = e ∧ x.start < j ∧
    x.settled.all (fun s => j ≤ s.1)

/- Whether a wait on an epoch has returned as interrupted. -/
def wasInterrupted
    (x : Wait)
    (e : Nat) : Bool :=
  x.epoch = e ∧ x.returned = some .interrupted

/- The epoch of a wait, and its outcome if it has one. -/
def status (x : Wait) : Nat × Option Outcome :=
  (x.epoch, x.settled.map Prod.snd)

/- A wait has no outcome if its status tells none. -/
theorem isPending_eq
    (x : Wait)
    (e : Nat) :
    x.isPending e = decide (x.status = (e, none)) := by
  simp [isPending, status]

/- What a note in a place of the history makes of a wait. -/
def heed
    (i : Nat)
    (n : Note)
    (x : Wait) : Wait :=
  if x.isOpen n.thread then
    match n.fact with
    | .settled _ o => { x with settled := some (i, o) }
    | .returned _ o _ => { x with returned := some o }
    | _ => x
  else
    x

end Wait

/- The wait that begins with a note. -/
def Note.begins
    (i : Nat)
    (n : Note) : List Wait :=
  match n.fact with
  | .registered e => [.fresh n.thread e i]
  | _ => []

/- The waits after further notes, the first in a given place. -/
def waitsFrom
    (xs : List Wait)
    (i : Nat) : List Note → List Wait
| [] => xs
| n :: ns =>
    waitsFrom (xs.map (Wait.heed i n) ++ n.begins i) (i + 1) ns

/- The waits of a history, in the order in which they began. -/
def waits (ns : List Note) : List Wait :=
  waitsFrom [] 0 ns

------------------------------------------------------------
-- Heeding a Note
------------------------------------------------------------

/- Whether a fact is about a thread's wait. -/
def Fact.isOfWait : Fact → Bool
| .registered _ => true
| .settled _ _ => true
| .returned _ _ _ => true
| _ => false

namespace Wait

/- A wait heeds only notes about waits. -/
theorem heed_of_quiet
    {i : Nat}
    {n : Note}
    (hQuiet : n.fact.isOfWait = false)
    (x : Wait) :
    x.heed i n = x := by
  unfold heed
  split
  · split
    · rename_i hFact
      rw [hFact] at hQuiet
      cases hQuiet
    · rename_i hFact
      rw [hFact] at hQuiet
      cases hQuiet
    · rfl
  · rfl

/- A wait heeds only its own thread, until it is over. -/
theorem heed_of_not_open
    {i : Nat}
    {n : Note}
    {x : Wait}
    (hNot : x.isOpen n.thread = false) :
    x.heed i n = x := by
  unfold heed
  rw [hNot]
  rfl

/- A wait that is not over heeds its outcome. -/
theorem heed_settled
    {x : Wait}
    {t : Nat}
    (hOpen : x.isOpen t = true)
    (i : Nat)
    (time : Instant)
    (e : Nat)
    (o : Outcome) :
    x.heed i ⟨t, time, .settled e o⟩ =
      { x with settled := some (i, o) } := by
  unfold heed
  rw [if_pos hOpen]

/- A wait that is not over heeds its return. -/
theorem heed_returned
    {x : Wait}
    {t : Nat}
    (hOpen : x.isOpen t = true)
    (i : Nat)
    (time : Instant)
    (e : Nat)
    (o : Outcome)
    (left : Option Duration) :
    x.heed i ⟨t, time, .returned e o left⟩ =
      { x with returned := some o } := by
  unfold heed
  rw [if_pos hOpen]

end Wait

/- A note is heeded by the one wait that its thread is in. -/
theorem map_heed_of_filter
    {xs : List Wait}
    {x : Wait}
    (i : Nat)
    {n : Note}
    (hOpen : xs.filter (·.isOpen n.thread) = [x]) :
    ∃ l r,
      xs = l ++ x :: r ∧
        xs.map (Wait.heed i n) = l ++ x.heed i n :: r ∧
        x.isOpen n.thread = true ∧
        (∀ y ∈ l, y.isOpen n.thread = false) ∧
        ∀ y ∈ r, y.isOpen n.thread = false := by
  rcases List.filter_eq_cons_iff.mp hOpen with
    ⟨l, r, rfl, hLeft, hThis, hRight⟩
  have hLeft' : ∀ y ∈ l, y.isOpen n.thread = false :=
    fun y hMem => Bool.eq_false_iff.mpr (hLeft y hMem)
  have hRight' : ∀ y ∈ r, y.isOpen n.thread = false :=
    fun y hMem =>
      Bool.eq_false_iff.mpr
        (List.filter_eq_nil_iff.mp hRight y hMem)
  have hKept :
      ∀ {ys : List Wait},
        (∀ y ∈ ys, y.isOpen n.thread = false) →
          ys.map (Wait.heed i n) = ys := by
    intro ys hNot
    have hHeed : ∀ y ∈ ys, y.heed i n = id y :=
      fun y hMem => Wait.heed_of_not_open (hNot y hMem)
    rw [List.map_congr_left hHeed, List.map_id]
  refine ⟨l, r, rfl, ?_, hThis, hLeft', hRight'⟩
  rw [List.map_append, List.map_cons, hKept hLeft',
    hKept hRight']

/- A wait of one thread is open for no other thread. -/
theorem filter_isOpen_replace
    {l r : List Wait}
    {x x' : Wait}
    {t : Nat}
    (hThread : x.thread ≠ t)
    (hThread' : x'.thread ≠ t) :
    (l ++ x' :: r).filter (·.isOpen t) =
      (l ++ x :: r).filter (·.isOpen t) := by
  have hNot : x.isOpen t = false :=
    decide_eq_false (fun h => hThread h.1)
  have hNot' : x'.isOpen t = false :=
    decide_eq_false (fun h => hThread' h.1)
  simp only [List.filter_append, List.filter_cons, hNot, hNot',
    Bool.false_eq_true, if_false]

/- A wait that stands in for another one is the only new one. -/
theorem mem_or_eq_of_mem_replace
    {l r : List Wait}
    {x x' y : Wait}
    (hMem : y ∈ l ++ x' :: r) :
    y ∈ l ++ x :: r ∨ y = x' := by
  rcases List.mem_append.mp hMem with hLeft | hRight
  · exact Or.inl (List.mem_append_left _ hLeft)
  · rcases List.mem_cons.mp hRight with hThis | hRight
    · exact Or.inr hThis
    · exact
        Or.inl
          (List.mem_append_right _
            (List.mem_cons_of_mem _ hRight))

------------------------------------------------------------
-- Waits of a Longer History
------------------------------------------------------------

/- The notes of a longer history are heeded one by one. -/
theorem waitsFrom_append
    (xs : List Wait)
    (i : Nat)
    (ns ns' : List Note) :
    waitsFrom xs i (ns ++ ns') =
      waitsFrom (waitsFrom xs i ns) (i + ns.length) ns' := by
  induction ns generalizing xs i with
  | nil => rfl
  | cons n ns ih =>
      rw [List.cons_append, waitsFrom, ih, waitsFrom,
        List.length_cons, Nat.add_right_comm, Nat.add_assoc i]

/- Notes that are not about waits leave all waits. -/
theorem waitsFrom_quiet
    (xs : List Wait)
    (i : Nat)
    {ns : List Note}
    (hQuiet : ∀ n ∈ ns, n.fact.isOfWait = false) :
    waitsFrom xs i ns = xs := by
  induction ns generalizing xs i with
  | nil => rfl
  | cons n ns ih =>
      have hHead := hQuiet n List.mem_cons_self
      have hBegins : n.begins i = [] := by
        unfold Note.begins
        split
        · rename_i hFact
          rw [hFact] at hHead
          cases hHead
        · rfl
      have hHeed :
          ∀ x ∈ xs, x.heed i n = id x :=
        fun x _ => Wait.heed_of_quiet hHead x
      rw [waitsFrom, List.map_congr_left hHeed, List.map_id,
        hBegins, List.append_nil]
      exact
        ih xs (i + 1)
          (fun n' hMem =>
            hQuiet n' (List.mem_cons_of_mem _ hMem))

/- The waits of a history stay if no fact is about a wait. -/
theorem waits_append_quiet
    (past : List Note)
    (t : Nat)
    (time : Instant)
    {facts : List Fact}
    (hQuiet : ∀ f ∈ facts, f.isOfWait = false) :
    waits (past ++ facts.map (Note.mk t time)) =
      waits past := by
  unfold waits
  rw [waitsFrom_append, waitsFrom_quiet]
  intro n hMem
  rcases List.mem_map.mp hMem with ⟨f, hFact, rfl⟩
  exact hQuiet f hFact

/- One fact about a wait makes what it says of the waits. -/
theorem waits_append_cons
    (past : List Note)
    (t : Nat)
    (time : Instant)
    (f : Fact)
    {facts : List Fact}
    (hQuiet : ∀ f' ∈ facts, f'.isOfWait = false) :
    waits (past ++ (f :: facts).map (Note.mk t time)) =
      (waits past).map (Wait.heed past.length ⟨t, time, f⟩) ++
        Note.begins past.length ⟨t, time, f⟩ := by
  unfold waits
  rw [waitsFrom_append, Nat.zero_add, List.map_cons, waitsFrom,
    waitsFrom_quiet]
  intro n hMem
  rcases List.mem_map.mp hMem with ⟨f', hFact, rfl⟩
  exact hQuiet f' hFact

/- A thread that registers begins a wait, after all others. -/
theorem waits_append_registered
    (past : List Note)
    (t : Nat)
    (time : Instant)
    (e : Nat) :
    waits (past ++ [Fact.registered e].map (Note.mk t time)) =
      waits past ++ [.fresh t e past.length] := by
  have hHeed :
      ∀ x ∈ waits past,
        x.heed past.length ⟨t, time, .registered e⟩ = id x := by
    intro x hMem
    unfold Wait.heed
    split <;> rfl
  rw [waits_append_cons past t time _ (by simp),
    List.map_congr_left hHeed, List.map_id]
  rfl

end CondVar
