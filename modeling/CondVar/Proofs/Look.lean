import CondVar.Vigil

/-
  What a look finds, by outcome.

  A look is settled by the first of three: the cohort is
  closed, a permit is there, the deadline is reached.  It
  parks the waiter if none of them holds.
    * `Vigil.look_eq_interrupted_iff`
    * `Vigil.look_eq_signaled_iff`
    * `Vigil.look_eq_timedOut_iff`
    * `Vigil.look_eq_park`
    * `Vigil.grants_of_look`

  What settling leaves of the cohort:
    * `Cohort.closed_settle`
    * `Cohort.registered_settle`
    * `Cohort.permits_settle`
-/

namespace CondVar

------------------------------------------------------------
-- Looking
------------------------------------------------------------

namespace Vigil

/- A look finds a close before anything else. -/
theorem look_eq_interrupted_iff
    (v : Vigil)
    (s : Sighting) :
    v.look s = .settle .interrupted ↔ s.closed = true := by
  unfold look
  split
  · simp_all
  · split
    · simp_all
    · split
      · simp_all
      · split <;> simp_all

/- A look takes a permit if the cohort is open. -/
theorem look_eq_signaled_iff
    (v : Vigil)
    (s : Sighting) :
    v.look s = .settle .signaled ↔
      s.closed = false ∧ 0 < s.permits := by
  unfold look
  split
  · simp_all
  · split
    · simp_all
    · split
      · simp_all
      · split <;> simp_all

/-
  A look runs out of time only if the cohort is open and has
  no permit.
-/
theorem look_eq_timedOut_iff
    (v : Vigil)
    (s : Sighting) :
    v.look s = .settle .timedOut ↔
      s.closed = false ∧ s.permits = 0 ∧
        v.expired s.clock = true := by
  unfold look
  split
  · simp_all
  · split
    · simp_all
      omega
    · split
      · simp_all
      · split <;> simp_all

/- A waiter parks only if nothing settles its wait. -/
theorem look_eq_park
    {v v' : Vigil}
    {s : Sighting}
    {wakeAt : Option Instant}
    {stalled : Option Duration}
    (hPark : v.look s = .park v' wakeAt stalled) :
    s.closed = false ∧ s.permits = 0 ∧
      v.expired s.clock = false := by
  unfold look at hPark
  split at hPark
  · cases hPark
  · split at hPark
    · cases hPark
    · split at hPark
      · cases hPark
      · simp_all

end Vigil

/-
  What there must be in a cohort for a look to settle a wait
  with an outcome.
-/
def Cohort.Grants
    (c : Cohort) : Outcome → Prop
| .interrupted => c.closed = true
| .signaled => c.closed = false ∧ 0 < c.permits
| .timedOut => c.closed = false ∧ c.permits = 0

/- A look settles a wait with what there is in the cohort. -/
theorem Vigil.grants_of_look
    {v : Vigil}
    {c : Cohort}
    {now : Instant}
    {o : Outcome}
    (hLook : v.look (c.sighting now) = .settle o) :
    c.Grants o := by
  cases o with
  | signaled =>
      exact (v.look_eq_signaled_iff _).mp hLook
  | interrupted =>
      exact (v.look_eq_interrupted_iff _).mp hLook
  | timedOut =>
      have hSeen := (v.look_eq_timedOut_iff _).mp hLook
      exact ⟨hSeen.1, hSeen.2.1⟩

/- Only a closed cohort interrupts, and it does nothing else. -/
theorem Cohort.Grants.interrupted_iff
    {c : Cohort}
    {o : Outcome}
    (hGrants : c.Grants o) :
    o = .interrupted ↔ c.closed = true := by
  cases o with
  | interrupted => exact iff_of_true rfl hGrants
  | signaled =>
      rw [hGrants.1]
      exact ⟨nofun, nofun⟩
  | timedOut =>
      rw [hGrants.1]
      exact ⟨nofun, nofun⟩

------------------------------------------------------------
-- Settling
------------------------------------------------------------

namespace Cohort

@[simp] theorem closed_settle
    (c : Cohort)
    (o : Outcome) :
    (c.settle o).closed = c.closed := by
  cases o <;> rfl

@[simp] theorem epoch_settle
    (c : Cohort)
    (o : Outcome) :
    (c.settle o).epoch = c.epoch := by
  cases o <;> rfl

@[simp] theorem registered_settle
    (c : Cohort)
    (o : Outcome) :
    (c.settle o).registered = c.registered - 1 := by
  cases o <;> rfl

/- Only a signaled waiter takes a permit along. -/
theorem permits_settle
    (c : Cohort)
    (o : Outcome) :
    (c.settle o).permits =
      if o = .signaled then c.permits - 1 else c.permits := by
  cases o <;> rfl

end Cohort

end CondVar
