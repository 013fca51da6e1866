import CondVar.Log.Console

/-
  The console does what a log relies on.

  Its subscriber is the first that was installed, and a line
  shows what its event says.  If no directive of a filter
  names a field, then level and target of an event alone
  decide on it.

  Main declarations:
    * `Line.saysJson_ofEvent`
    * `Console.lawful_backend`
    * `Console.decidesByOrigin_of_no_field`
-/

namespace CondVar

------------------------------------------------------------
-- Lines
------------------------------------------------------------

/- The text of an event with a flag ends with the flag. -/
theorem Event.compactText_of_flag
    {e : Event}
    {v : Bool}
    (hFields : e.fields = [("json", .flag v)]) :
    e.compactText.toList =
      e.message.toList ++
        (if v then " json=true" else " json=false").toList := by
  unfold compactText
  rw [hFields, String.toList_append]
  cases v with
  | false => rfl
  | true => rfl

namespace Line

/- A line names the target of its event. -/
theorem target_ofEvent
    (style : Style)
    (e : Event) :
    (ofEvent style e).target = e.target := by
  cases style with
  | compact => rfl
  | json => rfl

/- A line is a record in one of the two styles only. -/
theorem isJson_ofEvent
    (style : Style)
    (e : Event) :
    (ofEvent style e).isJson = true ↔ style = .json := by
  cases style with
  | compact => simp [ofEvent, isJson]
  | json => simp [ofEvent, isJson]

/- A line says of a single flag what its event says. -/
theorem saysJson_ofEvent
    (style : Style)
    {e : Event}
    {v : Bool}
    (hFields : e.fields = [("json", .flag v)]) :
    (ofEvent style e).saysJson = v := by
  cases style with
  | compact =>
      change
        decide (" json=true".toList <:+ e.compactText.toList) =
          v
      rw [Event.compactText_of_flag hFields]
      cases v with
      | false =>
          apply decide_eq_false
          -- The two flags differ before their common last letter.
          rw [← List.reverse_prefix, List.reverse_append]
          simp
      | true => exact decide_eq_true (List.suffix_append _ _)
  | json =>
      simp [ofEvent, saysJson, hFields]

end Line

------------------------------------------------------------
-- The Backend
------------------------------------------------------------

namespace Console

/- The console does all that a log relies on. -/
theorem lawful_backend : backend.Lawful where
  isSet_start := rfl
  accepts_iff f style s := by
    cases s with
    | none => exact ⟨fun _ => rfl, fun _ => rfl⟩
    | some s =>
        constructor
        · intro hAccepted
          cases hAccepted
        · intro hNot
          cases hNot
  isSet_install f style s hNot := by
    cases s with
    | none => rfl
    | some s => cases hNot
  install_of_isSet f style s hSet := by
    cases s with
    | none => cases hSet
    | some s => rfl
  emit_of_not_isSet s e hNot := by
    cases s with
    | none => rfl
    | some s => cases hNot
  emit_install f style s e hNot := by
    cases s with
    | none => rfl
    | some s => cases hNot
  target_render := Line.target_ofEvent
  isJson_render := Line.isJson_ofEvent
  saysJson_render style _ _ hFields :=
    Line.saysJson_ofEvent style hFields

/- A filter decides by origin if it names no field. -/
theorem decidesByOrigin_of_no_field
    {f : Filter}
    (hNone : ∀ d ∈ f.directives, d.field = none) :
    backend.DecidesByOrigin f := by
  intro e e' hLevel hTarget
  have hConcerns :
      ∀ d ∈ f.directives, d.concerns e = d.concerns e' := by
    intro d hMem
    simp only [Directive.concerns, hNone d hMem, hTarget]
    rfl
  have hFirst :
      f.directives.find? (·.concerns e) =
        f.directives.find? (·.concerns e') := by
    rw [← List.head?_filter, ← List.head?_filter,
      List.filter_congr hConcerns]
  change f.admits e = f.admits e'
  simp only [Filter.admits, hFirst, hLevel]

end Console

end CondVar
