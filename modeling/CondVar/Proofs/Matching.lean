import CondVar.Proofs.Receipts
import Mathlib.Combinatorics.Hall.Basic

/-
  Whose signal a waiter receives.

  Permits are not made out to anybody: a waiter that looks
  takes one, whether or not it had registered when the permit
  was left.  So the signals that are received cannot always
  be credited to posts that were made after the receiver's
  registration.  They can exactly if permits are never taken
  by newcomers: at every moment of the run, each permit then
  outstanding is taken by a waiter that has registered
  already, or by nobody.

  Main declarations:
    * `Bench.Credited`
    * `Bench.NeverOvertaken`
    * `Bench.credited_iff_neverOvertaken`
    * `Bench.not_credited_of_latecomer`
-/

namespace CondVar

namespace Bench

------------------------------------------------------------
-- Credit and Overtaking
------------------------------------------------------------

/-
  Every waiter that was signaled has a post of its own that
  has left a permit and was made after the waiter had
  registered.  Events are counted from zero.
-/
def Credited (es : List Event) : Prop :=
  ∃ post : Nat → Nat,
    Set.InjOn post {i | i ∈ signaled es} ∧
      ∀ i ∈ signaled es,
        es[post i]? = some (.posted (.woken 1)) ∧
          ∃ k < post i, es[k]? = some (.enrolled i)

/-
  At no moment of the run are there more permits than will be
  taken by waiters that have registered by then, or be left
  at the end.
-/
def NeverOvertaken
    (b : Bench)
    (as : List Action) : Prop :=
  ∀ before after b₁ b₂ es₁ es₂,
    as = before ++ after →
      b.run before = some (b₁, es₁) →
        b₁.run after = some (b₂, es₂) →
          b₁.cohort.permits ≤
            (signaled es₂).countP
                (fun i => i < b₁.seats.length) +
              b₂.cohort.permits

------------------------------------------------------------
-- Crediting Signals to Posts
------------------------------------------------------------

/- The positions of an entry, from a given one on. -/
def positionsFrom
    (k : Nat)
    (es : List Event)
    (e : Event) : Finset Nat :=
  (Finset.range es.length).filter
    (fun p => k ≤ p ∧ es[p]? = some e)

/- An entry is as often in a list as it has positions there. -/
theorem card_positionsFrom
    (es es' : List Event)
    (e : Event) :
    (positionsFrom es.length (es ++ es') e).card =
      es'.count e := by
  induction es' using List.reverseRecOn with
  | nil =>
      rw [List.append_nil, List.count_nil,
        Finset.card_eq_zero]
      apply Finset.filter_eq_empty_iff.mpr
      intro p hRange hFrom
      have hLt := Finset.mem_range.mp hRange
      omega
  | append_singleton es' a ih =>
      have hLast :
          (es ++ (es' ++ [a]))[(es ++ es').length]? =
            some a := by
        simp [← List.append_assoc]
      have hFirst :
          (Finset.range (es ++ es').length).filter
              (fun p =>
                es.length ≤ p ∧
                  (es ++ (es' ++ [a]))[p]? = some e) =
            positionsFrom es.length (es ++ es') e := by
        apply Finset.filter_congr
        intro p hRange
        have hLt := Finset.mem_range.mp hRange
        rw [← List.append_assoc,
          List.getElem?_append_left hLt]
      have hLength :
          (es ++ (es' ++ [a])).length =
            (es ++ es').length + 1 := by
        simp [Nat.add_assoc]
      rw [List.count_append, List.count_singleton, ← ih,
        ← hFirst]
      unfold positionsFrom
      rw [hLength, Finset.range_add_one,
        Finset.filter_insert, hLast]
      by_cases hSame : a = e
      · subst a
        rw [if_pos ⟨by simp, rfl⟩, if_pos (by simp),
          Finset.card_insert_of_notMem (by simp)]
      · rw [if_neg (by simp [hSame]), if_neg (by simp [hSame])]
        rfl

/-
  Over the rest of a run, the permits outstanding are kept
  from newcomers exactly if the newcomers receive no more
  signals than are still sent.
-/
theorem permits_le_iff
    {b₁ b₂ : Bench}
    {after : List Action}
    {es₂ : List Event}
    (hAfter : b₁.run after = some (b₂, es₂)) :
    b₁.cohort.permits ≤
        (signaled es₂).countP
            (fun i => i < b₁.seats.length) +
          b₂.cohort.permits ↔
      (signaled es₂).countP
          (fun i => b₁.seats.length ≤ i) ≤
        sent es₂ := by
  have hBalance := permits_add_signaled hAfter
  have hSplit :=
    List.length_eq_countP_add_countP
      (fun i => decide (i < b₁.seats.length))
      (l := signaled es₂)
  simp only [decide_eq_true_eq, Nat.not_lt] at hSplit
  omega

/-
  Where every signal can be credited, the newcomers of any
  moment receive no more signals than are sent after it: each
  is credited to a post of its own after it registered.
-/
theorem countP_newcomers_le_sent
    {epoch : Nat}
    {before : List Action}
    {b₁ : Bench}
    {es₁ es₂ : List Event}
    (hBefore : (fresh epoch).run before = some (b₁, es₁))
    (hNodup : (signaled (es₁ ++ es₂)).Nodup)
    (hCredited : Credited (es₁ ++ es₂)) :
    (signaled es₂).countP
        (fun i => b₁.seats.length ≤ i) ≤
      sent es₂ := by
  rcases hCredited with ⟨post, hInjective, hPost⟩
  have hBoth :
      ∀ i ∈ signaled es₂, i ∈ signaled (es₁ ++ es₂) := by
    intro i hMem
    rw [signaled_append]
    exact List.mem_append_right _ hMem
  rw [signaled_append] at hNodup
  have hNewcomers :
      ((signaled es₂).filter
          (fun i => b₁.seats.length ≤ i)).toFinset.card =
        (signaled es₂).countP
          (fun i => b₁.seats.length ≤ i) := by
    rw [List.countP_eq_length_filter]
    exact List.toFinset_card_of_nodup
      (hNodup.of_append_right.filter _)
  rw [← hNewcomers, sent,
    ← card_positionsFrom es₁ es₂ (.posted (.woken 1))]
  apply Finset.card_le_card_of_injOn post
  · intro i hMem
    have hMem := List.mem_filter.mp (List.mem_toFinset.mp hMem)
    have hNew : b₁.seats.length ≤ i := by
      simpa using hMem.2
    rcases hPost i (hBoth i hMem.1) with
      ⟨hPosted, k, hEarlier, hEnrolled⟩
    have hFrom : es₁.length ≤ k := by
      by_contra hBefore'
      rw [List.getElem?_append_left (by omega)] at hEnrolled
      have hSeated :=
        (recorded_of_run hBefore).seated i
          (List.mem_of_getElem? hEnrolled)
      omega
    have hRange : post i < (es₁ ++ es₂).length :=
      (List.getElem?_eq_some_iff.mp hPosted).1
    exact Finset.mem_filter.mpr
      ⟨Finset.mem_range.mpr hRange, by omega, hPosted⟩
  · intro i hi j hj hSame
    have hi := List.mem_filter.mp (List.mem_toFinset.mp hi)
    have hj := List.mem_filter.mp (List.mem_toFinset.mp hj)
    exact
      hInjective (hBoth i hi.1) (hBoth j hj.1) hSame

/-
  Where newcomers never take the permits of others, any
  waiters that were signaled have as many posts to choose
  from: those after the first of them registered suffice for
  all newcomers from then on.
-/
theorem card_le_card_posts
    {epoch : Nat}
    {as : List Action}
    {b : Bench}
    {es : List Event}
    (hRun : (fresh epoch).run as = some (b, es))
    (hNever : (fresh epoch).NeverOvertaken as)
    (s : Finset Nat)
    (hSignaled : ∀ i ∈ s, i ∈ signaled es)
    (first : Nat)
    (hMem : first ∈ s)
    (hFirst : ∀ i ∈ s, first ≤ i) :
    s.card ≤
      ((Finset.range es.length).filter
        (fun p =>
          es[p]? = some (.posted (.woken 1)) ∧
            ∃ k < p,
              es[k]? = some (.enrolled first))).card := by
  have hSettled :=
    (recorded_of_run hRun).settled first
      (hSignaled first hMem)
  have hSeated : first < b.seats.length :=
    (List.getElem?_eq_some_iff.mp hSettled).1
  rcases exists_run_before_enrolled hRun
      (Nat.zero_le first) hSeated with
    ⟨before, after, b₁, es₁, es₂, rfl, hBefore, hAfter,
      hLength, rfl⟩
  have hEnough :=
    (permits_le_iff hAfter).mp
      (hNever before after _ _ _ _ rfl hBefore hAfter)
  have hNewcomers :
      s ⊆
        ((signaled (.enrolled first :: es₂)).filter
          (fun i => b₁.seats.length ≤ i)).toFinset := by
    intro i hi
    have hFrom := hFirst i hi
    have hEither := hSignaled i hi
    rw [signaled_append] at hEither
    rcases List.mem_append.mp hEither with hOld | hNew
    · have hGet := (recorded_of_run hBefore).settled i hOld
      have hLt : i < b₁.seats.length :=
        (List.getElem?_eq_some_iff.mp hGet).1
      omega
    · refine List.mem_toFinset.mpr (List.mem_filter.mpr ?_)
      exact ⟨hNew, by simpa [hLength] using hFrom⟩
  have hPosts :
      positionsFrom es₁.length
          (es₁ ++ .enrolled first :: es₂)
          (.posted (.woken 1)) ⊆
        (Finset.range
            (es₁ ++ .enrolled first :: es₂).length).filter
          (fun p =>
            (es₁ ++ .enrolled first :: es₂)[p]? =
                some (.posted (.woken 1)) ∧
              ∃ k < p,
                (es₁ ++ .enrolled first :: es₂)[k]? =
                  some (.enrolled first)) := by
    intro p hp
    rcases Finset.mem_filter.mp hp with
      ⟨hRange, hFrom, hPosted⟩
    have hHere :
        (es₁ ++ .enrolled first :: es₂)[es₁.length]? =
          some (.enrolled first) := by
      simp
    have hOther : es₁.length ≠ p := by
      intro hSame
      rw [← hSame, hHere] at hPosted
      cases hPosted
    exact Finset.mem_filter.mpr
      ⟨hRange, hPosted, es₁.length, by omega, hHere⟩
  calc
    s.card ≤ _ := Finset.card_le_card hNewcomers
    _ ≤ _ := List.toFinset_card_le _
    _ = _ := List.countP_eq_length_filter.symm
    _ ≤ _ := hEnough
    _ = _ := (card_positionsFrom es₁ _ _).symm
    _ ≤ _ := Finset.card_le_card hPosts

/-
  The signals received in a run can be credited to posts that
  were made after their receivers had registered exactly if
  the permits outstanding are never taken by newcomers.
-/
theorem credited_iff_neverOvertaken
    (epoch : Nat)
    {as : List Action}
    {b : Bench}
    {es : List Event}
    (hRun : (fresh epoch).run as = some (b, es)) :
    Credited es ↔ (fresh epoch).NeverOvertaken as := by
  constructor
  · intro hCredited before after b₁ b₂ es₁ es₂ hSplit
      hBefore hAfter
    subst as
    rcases run_append hRun with
      ⟨b₁', es₁', es₂', hBefore', hAfter', rfl⟩
    rw [hBefore] at hBefore'
    cases hBefore'
    rw [hAfter] at hAfter'
    cases hAfter'
    exact
      (permits_le_iff hAfter).mpr
        (countP_newcomers_le_sent hBefore
          (recorded_of_run hRun).nodup hCredited)
  · intro hNever
    classical
    let posts : {i // i ∈ signaled es} → Finset Nat :=
      fun i =>
        (Finset.range es.length).filter
          (fun p =>
            es[p]? = some (.posted (.woken 1)) ∧
              ∃ k < p, es[k]? = some (.enrolled i.1))
    have hHall :
        ∀ s : Finset {i // i ∈ signaled es},
          s.card ≤ (s.biUnion posts).card := by
      intro s
      rcases s.eq_empty_or_nonempty with rfl | hNonempty
      · simp
      · rcases s.exists_min_image Subtype.val hNonempty with
          ⟨first, hMem, hFirst⟩
        have hPosts :
            s.card ≤ (posts first).card := by
          rw [← Finset.card_image_of_injective s
            Subtype.val_injective]
          refine
            card_le_card_posts hRun hNever _ ?_ first.1 ?_ ?_
          · intro i hi
            rcases Finset.mem_image.mp hi with ⟨x, _, rfl⟩
            exact x.2
          · exact Finset.mem_image_of_mem _ hMem
          · intro i hi
            rcases Finset.mem_image.mp hi with ⟨x, hx, rfl⟩
            exact hFirst x hx
        exact
          hPosts.trans
            (Finset.card_le_card
              (Finset.subset_biUnion_of_mem posts hMem))
    rcases
        (Finset.all_card_le_biUnion_card_iff_exists_injective
          posts).mp hHall with
      ⟨post, hInjective, hPost⟩
    refine
      ⟨fun i =>
        if hi : i ∈ signaled es then post ⟨i, hi⟩ else 0,
        ?_, ?_⟩
    · intro i hi j hj hSame
      have hi : i ∈ signaled es := hi
      have hj : j ∈ signaled es := hj
      simp only [dif_pos hi, dif_pos hj] at hSame
      exact congrArg Subtype.val (hInjective hSame)
    · intro i hi
      simp only [dif_pos hi]
      exact (Finset.mem_filter.mp (hPost ⟨i, hi⟩)).2

/-
  Two waiters, each signaled before the next one registers:
  both signals are credited, and no permit is overtaken.
-/
theorem neverOvertaken_one_by_one :
    ∃ b es,
      (fresh 0).run
          [.enroll, .post, .sit 0 none none, .enroll, .post,
            .sit 1 none none] =
        some (b, es) ∧
      signaled es = [0, 1] ∧ Credited es ∧
      (fresh 0).NeverOvertaken
        [.enroll, .post, .sit 0 none none, .enroll, .post,
          .sit 1 none none] := by
  have hRun :
      (fresh 0).run
          [.enroll, .post, .sit 0 none none, .enroll, .post,
            .sit 1 none none] =
        some
          (⟨⟨0, 0, 0, false⟩,
              [.settled .signaled, .settled .signaled],
              2, false, ⟨0⟩⟩,
            [.enrolled 0, .posted (.woken 1),
              .settled 0 .signaled, .enrolled 1,
              .posted (.woken 1), .settled 1 .signaled]) := by
    decide
  have hCredited :
      Credited
        [.enrolled 0, .posted (.woken 1),
          .settled 0 .signaled, .enrolled 1,
          .posted (.woken 1), .settled 1 .signaled] := by
    refine ⟨fun i => 3 * i + 1, ?_, ?_⟩
    · intro i _ j _ hSame
      have hSame : 3 * i + 1 = 3 * j + 1 := hSame
      omega
    · intro i hMem
      have hEither : 0 = i ∨ 1 = i := by
        simpa [signaled, Event.signaled?] using hMem
      rcases hEither with rfl | rfl
      · exact ⟨rfl, 0, by decide, rfl⟩
      · exact ⟨rfl, 3, by decide, rfl⟩
  exact
    ⟨_, _, hRun, rfl, hCredited,
      (credited_iff_neverOvertaken 0 hRun).mp hCredited⟩

/-
  A waiter that registers after the only post, and looks
  first, is signaled in place of the one that was there.
-/
theorem not_credited_of_latecomer :
    ∃ b es,
      (fresh 0).run
          [.enroll, .post, .enroll,
            .sit 1 (some ⟨0⟩) none] =
        some (b, es) ∧
      es[1]? = some (.posted (.woken 1)) ∧
      es[2]? = some (.enrolled 1) ∧
      es[3]? = some (.settled 1 .signaled) ∧
      ¬ Credited es := by
  have hRun :
      (fresh 0).run
          [.enroll, .post, .enroll,
            .sit 1 (some ⟨0⟩) none] =
        some
          (⟨⟨0, 1, 0, false⟩,
              [.fresh, .settled .signaled], 1, false, ⟨0⟩⟩,
            [.enrolled 0, .posted (.woken 1), .enrolled 1,
              .settled 1 .signaled]) := by
    decide
  refine ⟨_, _, hRun, rfl, rfl, rfl, ?_⟩
  rintro ⟨post, _, hPost⟩
  rcases hPost 1 (List.mem_singleton_self 1) with
    ⟨hPosted, k, hEarlier, hEnrolled⟩
  have hLt : post 1 < 4 :=
    (List.getElem?_eq_some_iff.mp hPosted).1
  have hCases :
      post 1 = 0 ∨ post 1 = 1 ∨ post 1 = 2 ∨ post 1 = 3 := by
    omega
  rcases hCases with hAt | hAt | hAt | hAt
  · rw [hAt] at hPosted
    cases hPosted
  · have hk : k = 0 := by
      omega
    subst k
    cases hEnrolled
  · rw [hAt] at hPosted
    cases hPosted
  · rw [hAt] at hPosted
    cases hPosted

end Bench

end CondVar
