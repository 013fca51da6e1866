/-
  Counting the entries of a list that are replaced one at a
  time.

  Seats, threads, and waits are kept in lists, and a step
  replaces one entry.  How a step moves a count follows from
  the two entries alone:
    * `countP_set_add`
    * `countP_middle_add`
    * `getElem?_set_cases`
    * `any_of_any_set`
-/

namespace CondVar

------------------------------------------------------------
-- Replacing One Entry
------------------------------------------------------------

variable {α : Type}

/-
  Replacing an entry takes away what the old one counted for
  and adds what the new one does.
-/
theorem countP_set_add
    (p : α → Bool)
    {l : List α}
    {i : Nat}
    {a : α}
    (b : α)
    (hGet : l[i]? = some a) :
    (l.set i b).countP p + (p a).toNat =
      l.countP p + (p b).toNat := by
  induction l generalizing i with
  | nil => simp at hGet
  | cons x xs ih =>
      cases i with
      | zero =>
          have hHead : x = a := by
            simpa using hGet
          subst x
          simp only [List.set_cons_zero, List.countP_cons]
          cases p a <;> cases p b <;> simp
      | succ i =>
          have hTail : xs[i]? = some a := by
            simpa using hGet
          have hSet := ih hTail
          simp only [List.set_cons_succ, List.countP_cons]
          omega

/- A truth value counts for one or for none. -/
theorem toNat_eq_ite
    (b : Bool) :
    b.toNat = if b = true then 1 else 0 := by
  cases b with
  | false => rfl
  | true => rfl

/- A list of one entry counts as much as that entry. -/
theorem countP_one
    (p : α → Bool)
    (a : α) :
    [a].countP p = (p a).toNat := by
  rw [List.countP_singleton, toNat_eq_ite]

/-
  Replacing an entry that is known by what is around it takes
  away and adds the same.
-/
theorem countP_middle_add
    (p : α → Bool)
    (l r : List α)
    (a b : α) :
    (l ++ b :: r).countP p + (p a).toNat =
      (l ++ a :: r).countP p + (p b).toNat := by
  simp only [List.countP_append, List.countP_cons]
  cases p a <;> cases p b <;> simp <;> omega

/- In a replaced list, a place holds the entry or what it did. -/
theorem getElem?_set_cases
    {l : List α}
    {i j : Nat}
    {a b : α}
    (hGet : (l.set i b)[j]? = some a) :
    (j = i ∧ a = b) ∨ (j ≠ i ∧ l[j]? = some a) := by
  by_cases hSame : j = i
  · subst hSame
    rw [List.getElem?_set] at hGet
    simp only [if_true] at hGet
    split at hGet
    · exact Or.inl ⟨rfl, (Option.some.inj hGet).symm⟩
    · cases hGet
  · rw [List.getElem?_set_ne (Ne.symm hSame)] at hGet
    exact Or.inr ⟨hSame, hGet⟩

/- A replaced list holds what it held before, or the entry. -/
theorem any_of_any_set
    {p : α → Bool}
    {l : List α}
    {i : Nat}
    {b : α}
    (hAny : (l.set i b).any p = true) :
    p b = true ∨ l.any p = true := by
  rcases List.any_eq_true.mp hAny with ⟨x, hMem, hx⟩
  rcases List.mem_or_eq_of_mem_set hMem with hOld | hNew
  · exact Or.inr (List.any_eq_true.mpr ⟨x, hOld, hx⟩)
  · subst x
    exact Or.inl hx

end CondVar
