import CondVar.Log.Reading
import CondVar.Proofs.Epochs

/-
  What the log of a history tells.

  Every event that tells of a wait or of an interrupt is one
  of its history's, and tells of it what the history does,
  except for the settling of waits, which is not logged.  So
  the stays that one puts together from the log are the waits
  of the history, as far as they can be seen.

  Main declarations:
    * `Fact.mark?_event?`
    * `readings_journal`
    * `interruptions_journal`
    * `Wait.stay`
    * `stays_journal`
    * `registrations_eq`
    * `Diary`
    * `Diary.begins`, `Diary.ends`
    * `isRegistration_iff_even`
-/

namespace CondVar

------------------------------------------------------------
-- Facts and Their Events
------------------------------------------------------------

/- What the event of a fact tells. -/
def Fact.mark? : Fact → Option Mark
| .registered e => some (.registered e)
| .returned _ o _ => some (.returned o)
| .interrupted e r => some (.interrupted e r.count)
| _ => none

/- An outcome is known by its written form. -/
theorem Outcome.ofText?_text
    (o : Outcome) :
    Outcome.ofText? o.text = some o := by
  cases o <;> decide

/- An event tells what its fact does, whatever the label. -/
theorem Fact.mark?_event?
    (label : String)
    (f : Fact) :
    (f.event? label).bind Event.mark? = f.mark? := by
  cases f with
  | registered e =>
      simp [event?, mark?, Event.mark?, Event.number?,
        List.lookup_cons]
  | returned e o left =>
      cases left with
      | none =>
          simp [event?, mark?, Event.mark?, Event.shown?,
            List.lookup_cons, Outcome.ofText?_text]
      | some d =>
          simp [event?, mark?, Event.mark?, Event.shown?,
            List.lookup_cons, Outcome.ofText?_text]
  | interrupted e r =>
      simp [event?, mark?, Event.mark?, Event.number?,
        List.lookup_cons]
  | signaled r => simp [event?, mark?, Event.mark?]
  | stalled e blocked => simp [event?, mark?, Event.mark?]
  | _ => rfl

------------------------------------------------------------
-- Readings of a History
------------------------------------------------------------

/- The events of a journal are those of the chronicle. -/
theorem map_event_journal
    (label : String)
    (ns : List Note) :
    (journal label ns).map Entry.event =
      chronicle label ns := by
  unfold journal chronicle
  rw [List.map_filterMap]
  apply List.filterMap_congr
  intro n _
  rw [Option.map_map]
  exact Option.map_id'

/- The journal of a longer history is a longer journal. -/
theorem journal_append
    (label : String)
    (past ns : List Note) :
    journal label (past ++ ns) =
      journal label past ++ journal label ns :=
  List.filterMap_append

/- The lines of a longer log are read one after the other. -/
theorem readings_append
    (log more : List Entry) :
    readings (log ++ more) = readings log ++ readings more :=
  List.filterMap_append

/- A journal tells what the facts of its history do. -/
theorem readings_journal
    (label : String)
    (ns : List Note) :
    readings (journal label ns) =
      ns.filterMap
        (fun n => n.fact.mark?.map (Prod.mk n.thread)) := by
  unfold readings journal
  rw [List.filterMap_filterMap]
  apply List.filterMap_congr
  intro n _
  rw [← Fact.mark?_event? label, Option.bind_map,
    Option.map_bind]
  rfl

/- The journal of one step tells what its facts do. -/
theorem readings_journal_map
    (label : String)
    (facts : List Fact)
    (t : Nat)
    (time : Instant) :
    readings (journal label (facts.map (Note.mk t time))) =
      (facts.filterMap Fact.mark?).map (Prod.mk t) := by
  rw [readings_journal, List.filterMap_map,
    List.map_filterMap]
  rfl

/- The interrupts in a journal are those of its history. -/
theorem interruptions_journal
    (label : String)
    (ns : List Note) :
    (interruptions (journal label ns)).map Prod.fst =
      replacedEpochs ns := by
  unfold interruptions replacedEpochs
  rw [readings_journal, List.filterMap_filterMap,
    List.map_filterMap]
  apply List.filterMap_congr
  intro n _
  cases n.fact <;> rfl

/- What is read of an interrupt is told in the history. -/
theorem told_of_mem_interruptions
    {label : String}
    {ns : List Note}
    {e woken : Nat}
    (hMem : (e, woken) ∈ interruptions (journal label ns)) :
    ∃ k t r,
      Told ns k t (.interrupted e r) ∧ woken = r.count := by
  unfold interruptions at hMem
  rw [readings_journal, List.filterMap_filterMap] at hMem
  rcases List.mem_filterMap.mp hMem with ⟨n, hNote, hRead⟩
  rcases n with ⟨t, time, f⟩
  rcases List.getElem?_of_mem hNote with ⟨k, hGet⟩
  cases f with
  | interrupted e' r =>
      cases hRead
      exact ⟨k, t, r, ⟨time, hGet⟩, rfl⟩
  | _ => cases hRead

------------------------------------------------------------
-- Stays and Waits
------------------------------------------------------------

namespace Stay

/- A stay that has not returned heeds its return. -/
theorem wake_of_open
    {y : Stay}
    {t : Nat}
    (hOpen : y.isOpen t = true)
    (o : Outcome) :
    y.wake t o = { y with wakeup := some o } := by
  unfold wake
  rw [if_pos hOpen]

/- A stay that is over, or another thread's, heeds none. -/
theorem wake_of_not_open
    {y : Stay}
    {t : Nat}
    (hNot : y.isOpen t = false)
    (o : Outcome) :
    y.wake t o = y := by
  unfold wake
  rw [hNot]
  exact if_neg Bool.false_ne_true

/- A stay remains with its thread. -/
theorem thread_wake
    (t : Nat)
    (o : Outcome)
    (y : Stay) :
    (y.wake t o).thread = y.thread := by
  unfold wake
  split <;> rfl

/- A stay remains in its epoch. -/
theorem epoch_wake
    (t : Nat)
    (o : Outcome)
    (y : Stay) :
    (y.wake t o).epoch = y.epoch := by
  unfold wake
  split <;> rfl

/- Of a wait that is over, beginning and return are told. -/
theorem marks_of_over
    {y : Stay}
    {o : Outcome}
    (hOver : y.wakeup = some o) :
    y.marks = [.registered y.epoch, .returned o] := by
  unfold marks
  rw [hOver]
  rfl

/- Of a wait that lasts, only the beginning is told. -/
theorem marks_of_going
    {y : Stay}
    (hGoing : y.wakeup = none) :
    y.marks = [.registered y.epoch] := by
  unfold marks
  rw [hGoing]
  rfl

end Stay

/- What a log tells of a wait. -/
def Wait.stay (x : Wait) : Stay :=
  ⟨x.thread, x.epoch, x.returned⟩

/- The return of a wait is all that its stay heeds. -/
theorem Wait.stay_heed
    (i : Nat)
    (n : Note)
    (x : Wait) :
    (x.heed i n).stay =
      match n.fact with
      | .returned _ o _ => x.stay.wake n.thread o
      | _ => x.stay := by
  rcases n with ⟨t, time, f⟩
  cases f with
  | returned e o left =>
      by_cases hOpen : x.isOpen t = true
      · have hOpen' : x.stay.isOpen t = true := hOpen
        rw [heed_returned hOpen]
        exact (Stay.wake_of_open hOpen' o).symm
      · have hNot : x.isOpen t = false :=
          Bool.eq_false_iff.mpr hOpen
        have hNot' : x.stay.isOpen t = false := hNot
        rw [heed_of_not_open hNot]
        exact (Stay.wake_of_not_open hNot' o).symm
  | _ =>
      unfold heed
      split <;> rfl

/- The stays heed of a note what its event tells. -/
theorem map_stay_heed
    (xs : List Wait)
    (i : Nat)
    (n : Note) :
    (xs.map (Wait.heed i n) ++ n.begins i).map Wait.stay =
      (n.fact.mark?.map (Prod.mk n.thread)).toList.foldl
        Stay.heed (xs.map Wait.stay) := by
  have hHeed :
      (xs.map (Wait.heed i n)).map Wait.stay =
        xs.map
          (fun x =>
            match n.fact with
            | .returned _ o _ => x.stay.wake n.thread o
            | _ => x.stay) := by
    rw [List.map_map]
    exact List.map_congr_left (fun x _ => x.stay_heed i n)
  rw [List.map_append, hHeed]
  unfold Note.begins
  cases n.fact with
  | registered e => rfl
  | returned e o left =>
      simp [Fact.mark?, Stay.heed, List.map_map,
        Function.comp_def]
  | interrupted e r => simp [Fact.mark?, Stay.heed]
  | _ => simp [Fact.mark?]

/- So the stays of a journal are the waits of its history. -/
theorem stays_journal
    (label : String)
    (ns : List Note) :
    stays (journal label ns) = (waits ns).map Wait.stay := by
  have hFrom :
      ∀ (xs : List Wait) (i : Nat),
        (readings (journal label ns)).foldl Stay.heed
            (xs.map Wait.stay) =
          (waitsFrom xs i ns).map Wait.stay := by
    rw [readings_journal]
    induction ns with
    | nil => exact fun _ _ => rfl
    | cons n ns ih =>
        intro xs i
        rw [waitsFrom, ← ih, map_stay_heed]
        cases hMark : n.fact.mark? with
        | none => simp [hMark]
        | some x => simp [hMark]
  exact hFrom [] 0

/- Each registration in a log makes a stay, in order. -/
theorem registrations_eq
    (log : List Entry) :
    registrations log = (stays log).map Stay.epoch := by
  have hFrom :
      ∀ (rs : List (Nat × Mark)) (ys : List Stay),
        (rs.foldl Stay.heed ys).map Stay.epoch =
          ys.map Stay.epoch ++
            rs.filterMap (fun x => x.2.registered?) := by
    intro rs
    induction rs with
    | nil => simp
    | cons x rs ih =>
        intro ys
        rcases x with ⟨t, mark⟩
        rw [List.foldl_cons, ih]
        cases mark with
        | registered e =>
            simp [Stay.heed, Mark.registered?]
        | returned o =>
            simp [Stay.heed, Mark.registered?,
              Stay.epoch_wake]
        | interrupted e woken =>
            simp [Stay.heed, Mark.registered?]
  exact (hFrom (readings log) []).symm

------------------------------------------------------------
-- Diaries
------------------------------------------------------------

/- The waits of one thread in a log, in order. -/
def staysOf
    (t : Nat)
    (log : List Entry) : List Stay :=
  (stays log).filter (fun y => y.thread = t)

/-
  `told`: what a log tells of the waits of a thread is the
  beginning and the return of one, then of the next.
  `ended`: each but the last has returned.
-/
structure Diary
    (log : List Entry)
    (t : Nat) : Prop where
  told : diaryOf t log = (staysOf t log).flatMap Stay.marks
  ended :
    ∀ y ∈ (staysOf t log).dropLast, y.wakeup.isSome = true

/- Nothing is told in an empty log. -/
theorem diary_nil
    (t : Nat) :
    Diary [] t where
  told := rfl
  ended := nofun

/- A thread's stays are those that its own lines make. -/
theorem filter_foldl_heed
    {t : Nat}
    {rs : List (Nat × Mark)}
    (hQuiet : ∀ x ∈ rs, x.1 = t → x.2.isOfWait = false)
    (ys : List Stay) :
    (rs.foldl Stay.heed ys).filter (fun y => y.thread = t) =
      ys.filter (fun y => y.thread = t) := by
  induction rs generalizing ys with
  | nil => rfl
  | cons x rs ih =>
      rcases x with ⟨u, mark⟩
      rw [List.foldl_cons,
        ih (fun x hMem => hQuiet x (.tail _ hMem))]
      cases mark with
      | registered e =>
          have hOther : u ≠ t :=
            fun hSame => nomatch hQuiet _ (.head _) hSame
          simp [Stay.heed, hOther]
      | returned o =>
          have hOther : u ≠ t :=
            fun hSame => nomatch hQuiet _ (.head _) hSame
          have hWake :
              ∀ y ∈ ys.filter (fun y => y.thread = t),
                y.wake u o = id y := by
            intro y hMem
            have hMine :=
              of_decide_eq_true (List.mem_filter.mp hMem).2
            have hClosed : y.isOpen u = false :=
              decide_eq_false
                (fun h => hOther (h.1.symm.trans hMine))
            exact Stay.wake_of_not_open hClosed o
          simp only [Stay.heed, List.filter_map,
            Function.comp_def, Stay.thread_wake]
          rw [List.map_congr_left hWake, List.map_id]
      | interrupted e woken => rfl

/- The stays of a longer log heed its further lines. -/
theorem stays_append
    (log more : List Entry) :
    stays (log ++ more) =
      (readings more).foldl Stay.heed (stays log) := by
  unfold stays
  rw [readings_append, List.foldl_append]

/- The diary of a longer log goes on. -/
theorem diaryOf_append
    (t : Nat)
    (log more : List Entry) :
    diaryOf t (log ++ more) =
      diaryOf t log ++ diaryOf t more := by
  unfold diaryOf
  rw [readings_append, List.filter_append, List.map_append]

/- Lines about no wait of a thread leave its diary alone. -/
theorem Diary.quiet
    {log more : List Entry}
    {t : Nat}
    (hDiary : Diary log t)
    (hQuiet :
      ∀ x ∈ readings more, x.1 = t → x.2.isOfWait = false) :
    Diary (log ++ more) t := by
  have hStays : staysOf t (log ++ more) = staysOf t log := by
    unfold staysOf
    rw [stays_append, filter_foldl_heed hQuiet]
  have hNone : diaryOf t more = [] := by
    unfold diaryOf
    apply List.map_eq_nil_iff.mpr
    apply List.filter_eq_nil_iff.mpr
    intro x hMem hMine
    have hBoth := of_decide_eq_true hMine
    rw [hQuiet x hMem hBoth.1] at hBoth
    exact Bool.false_ne_true hBoth.2
  constructor
  · rw [diaryOf_append, hNone, List.append_nil, hStays]
    exact hDiary.told
  · rw [hStays]
    exact hDiary.ended

/- A wait that begins is told after all that are over. -/
theorem Diary.begins
    {log more : List Entry}
    {t e : Nat}
    (hDiary : Diary log t)
    (hMore : readings more = [(t, .registered e)])
    (hOver : ∀ y ∈ staysOf t log, y.wakeup.isSome = true) :
    Diary (log ++ more) t := by
  have hStays :
      staysOf t (log ++ more) =
        staysOf t log ++ [⟨t, e, none⟩] := by
    unfold staysOf
    rw [stays_append, hMore]
    simp [Stay.heed]
  have hLine : diaryOf t more = [.registered e] := by
    unfold diaryOf
    rw [hMore]
    simp [Mark.isOfWait, Mark.interrupted?]
  constructor
  · rw [diaryOf_append, hLine, hStays, List.flatMap_append,
      hDiary.told]
    rfl
  · rw [hStays, List.dropLast_concat]
    exact hOver

/- A wait that has not returned is its thread's last. -/
theorem Diary.last_of_open
    {log : List Entry}
    {t : Nat}
    {y : Stay}
    (hDiary : Diary log t)
    (hMem : y ∈ stays log)
    (hOpen : y.isOpen t = true) :
    ∃ before,
      staysOf t log = before ++ [y] ∧
        ∀ z ∈ before, z.wakeup.isSome = true := by
  have hBoth := of_decide_eq_true hOpen
  have hMine : y ∈ staysOf t log :=
    List.mem_filter.mpr ⟨hMem, decide_eq_true hBoth.1⟩
  have hOver := hDiary.ended
  rcases List.eq_nil_or_concat (staysOf t log) with
    hNone | ⟨before, last, hSplit⟩
  · rw [hNone] at hMine
    cases hMine
  · rw [List.concat_eq_append] at hSplit
    rw [hSplit, List.dropLast_concat] at hOver
    rw [hSplit] at hMine
    rcases List.mem_append.mp hMine with hOld | hHere
    · have hWas := hOver y hOld
      rw [hBoth.2] at hWas
      cases hWas
    · rw [List.mem_singleton.mp hHere]
      exact ⟨before, hSplit, hOver⟩

/- A wait that returns is the last of its thread's waits. -/
theorem Diary.ends
    {log more : List Entry}
    {t : Nat}
    {o : Outcome}
    {y : Stay}
    (hDiary : Diary log t)
    (hMore : readings more = [(t, .returned o)])
    (hMem : y ∈ stays log)
    (hOpen : y.isOpen t = true) :
    Diary (log ++ more) t := by
  have hGoing : y.wakeup = none := (of_decide_eq_true hOpen).2
  rcases hDiary.last_of_open hMem hOpen with
    ⟨before, hSplit, hOver⟩
  have hWake : ∀ z ∈ before, z.wake t o = id z := by
    intro z hThere
    apply Stay.wake_of_not_open
    apply decide_eq_false
    rintro ⟨_, hNot⟩
    have hWas := hOver z hThere
    rw [hNot] at hWas
    cases hWas
  have hStays :
      staysOf t (log ++ more) =
        before ++ [{ y with wakeup := some o }] := by
    calc
      staysOf t (log ++ more) =
          (staysOf t log).map (Stay.wake t o) := by
        unfold staysOf
        rw [stays_append, hMore]
        simp only [List.foldl_cons, List.foldl_nil, Stay.heed,
          List.filter_map, Function.comp_def, Stay.thread_wake]
      _ = before ++ [{ y with wakeup := some o }] := by
        rw [hSplit, List.map_append, List.map_congr_left hWake,
          List.map_id, List.map_singleton,
          Stay.wake_of_open hOpen]
  have hLine : diaryOf t more = [.returned o] := by
    unfold diaryOf
    rw [hMore]
    simp [Mark.isOfWait, Mark.interrupted?]
  have hOver' :
      Stay.marks { y with wakeup := some o } =
        y.marks ++ [.returned o] := by
    rw [Stay.marks_of_over rfl, Stay.marks_of_going hGoing]
    rfl
  constructor
  · rw [diaryOf_append, hLine, hStays, hDiary.told, hSplit,
      List.flatMap_append, List.flatMap_append,
      List.flatMap_singleton, List.flatMap_singleton, hOver',
      List.append_assoc]
  · rw [hStays, List.dropLast_concat]
    exact hOver

/-
  Where each wait but the last has returned, registrations
  are in the even places and returns in the odd ones.
-/
theorem isRegistration_iff_even
    {ys : List Stay}
    (hOver : ∀ y ∈ ys.dropLast, y.wakeup.isSome = true)
    {i : Nat}
    {x : Mark}
    (hGet : (ys.flatMap Stay.marks)[i]? = some x) :
    x.isRegistration = true ↔ i % 2 = 0 := by
  induction ys generalizing i with
  | nil => simp at hGet
  | cons y ys ih =>
      rw [List.flatMap_cons] at hGet
      cases hReturn : y.wakeup with
      | some o =>
          rw [Stay.marks_of_over hReturn] at hGet
          match i with
          | 0 =>
              cases hGet
              simp [Mark.isRegistration, Mark.registered?]
          | 1 =>
              cases hGet
              simp [Mark.isRegistration, Mark.registered?]
          | i + 2 =>
              have hRest :
                  ∀ z ∈ ys.dropLast,
                    z.wakeup.isSome = true := by
                intro z hMem
                apply hOver
                cases ys with
                | nil => cases hMem
                | cons z' ys => exact .tail _ hMem
              rw [ih hRest hGet, Nat.add_mod_right]
      | none =>
          have hLast : ys = [] := by
            cases ys with
            | nil => rfl
            | cons z ys =>
                have hWas := hOver y (.head _)
                rw [hReturn] at hWas
                cases hWas
          subst hLast
          rw [Stay.marks_of_going hReturn] at hGet
          match i with
          | 0 =>
              cases hGet
              simp [Mark.isRegistration, Mark.registered?]
          | i + 1 => cases hGet

end CondVar
