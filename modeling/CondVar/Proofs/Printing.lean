import CondVar.Proofs.Console
import CondVar.Proofs.Staging

/-
  What a process prints of its log, and how often it sets the
  log up.

  The first time that the log is set up decides on what is
  shown of it, and in which style, for good.  From then on a
  process prints what it would have printed otherwise, behind
  one event that says so, if that is shown itself.

  This holds of any lawful backend, whatever it takes for a
  filter and for a line.

  Main declarations:
    * `Backend.shown`
    * `Printer.lines_printAll`
    * `Printer.setUpTimes_succ`
    * `Backend.log`
    * `Backend.log_of_filter`
    * `Backend.log_set_up_once`
-/

namespace CondVar

/- JSON is the style that is requested by asking for it. -/
theorem Environment.style_eq_json_iff
    (env : Environment) :
    env.style = .json ↔ env.wantsJson = true := by
  unfold style
  split
  · rename_i hWanted
    exact ⟨fun _ => hWanted, fun _ => rfl⟩
  · rename_i hNot
    exact ⟨nofun, fun hWanted => absurd hWanted hNot⟩

------------------------------------------------------------
-- Lines of Events
------------------------------------------------------------

namespace Backend

variable {b : Backend}

/- The lines of the events that a filter admits. -/
def shown
    (b : Backend)
    (f : b.Filter)
    (style : Style)
    (es : List Event) : List b.Line :=
  (es.filter (b.admits f)).map (b.render style)

/- The lines that events make in a state, if there is one. -/
def emitted
    (b : Backend)
    (state : Option b.State)
    (es : List Event) : List b.Line :=
  match state with
  | none => []
  | some s => es.flatMap (b.emit s)

/- The lines of two parts of a log are those of the whole. -/
theorem emitted_append
    (state : Option b.State)
    (es es' : List Event) :
    b.emitted state (es ++ es') =
      b.emitted state es ++ b.emitted state es' := by
  cases state with
  | none => rfl
  | some s => exact List.flatMap_append

/- No event makes a line if no subscriber is set. -/
theorem emitted_of_not_isSet
    (hLawful : b.Lawful)
    {s : b.State}
    (hNot : b.isSet s = false)
    (es : List Event) :
    b.emitted (some s) es = [] := by
  apply List.flatMap_eq_nil_iff.mpr
  intro e _
  exact hLawful.emit_of_not_isSet s e hNot

/- A subscriber shows what its filter admits. -/
theorem emitted_install
    (hLawful : b.Lawful)
    {s : b.State}
    (hNot : b.isSet s = false)
    (f : b.Filter)
    (style : Style)
    (es : List Event) :
    b.emitted (some (b.install f style s).2) es =
      b.shown f style es := by
  induction es with
  | nil => rfl
  | cons e es ih =>
      have hEmit := hLawful.emit_install f style s e hNot
      have hCons :
          b.emitted (some (b.install f style s).2) (e :: es) =
            b.emit (b.install f style s).2 e ++
              b.shown f style es :=
        congrArg (_ ++ ·) ih
      rw [hCons, hEmit]
      by_cases hAdmits : b.admits f e = true
      · simp [shown, hAdmits]
      · simp [shown, hAdmits]

end Backend

------------------------------------------------------------
-- Printers
------------------------------------------------------------

namespace Printer

variable {b : Backend}

/- To print does not change the state. -/
theorem state_print
    (p : Printer b)
    (e : Event) :
    (p.print e).state = p.state := by
  unfold print
  split
  · rfl
  · rfl

/- To print an event adds the lines that it makes. -/
theorem lines_print
    (p : Printer b)
    (e : Event) :
    (p.print e).lines =
      p.lines ++ b.emitted p.state [e] := by
  unfold print
  split
  · rename_i hState
    rw [hState]
    exact (List.append_nil _).symm
  · rename_i s hState
    rw [hState]
    change _ = p.lines ++ [e].flatMap (b.emit s)
    rw [List.flatMap_singleton]

/- To print events adds the lines that they make. -/
theorem lines_printAll
    (p : Printer b)
    (es : List Event) :
    (p.printAll es).lines = p.lines ++ b.emitted p.state es ∧
      (p.printAll es).state = p.state := by
  induction es generalizing p with
  | nil =>
      refine ⟨?_, rfl⟩
      cases hState : p.state with
      | none => exact (List.append_nil _).symm
      | some s => exact (List.append_nil _).symm
  | cons e es ih =>
      rcases ih (p.print e) with ⟨hLines, hState⟩
      rw [state_print] at hLines hState
      refine ⟨?_, hState⟩
      calc ((p.print e).printAll es).lines
          = p.lines ++ b.emitted p.state [e] ++
              b.emitted p.state es := by
            rw [hLines, lines_print]
        _ = p.lines ++ b.emitted p.state (e :: es) := by
            rw [List.append_assoc, ← Backend.emitted_append]
            rfl

------------------------------------------------------------
-- Setting Up
------------------------------------------------------------

/-
  Nothing is left to set up: the process has ended, or there
  is a subscriber, and the filter can be read.
-/
def IsSettled
    (p : Printer b)
    (env : Environment) : Prop :=
  ∀ s,
    p.state = some s →
      b.isSet s = true ∧ env.filter? b ≠ none

/- Setting up installs a subscriber, or ends the process. -/
theorem state_setUp
    (p : Printer b)
    (env : Environment) :
    (p.setUp env).state =
      p.state.bind (fun s =>
        (env.filter? b).map (fun f =>
          (b.install f env.style s).2)) := by
  unfold setUp
  split
  · rename_i hState
    rw [hState]
    rfl
  · rename_i s hState hFilter
    rw [hState, hFilter]
    rfl
  · rename_i s f hState hFilter
    rw [hState, hFilter]
    dsimp only
    split
    · exact state_print _ _
    · rfl

/- After that nothing is left to set up. -/
theorem isSettled_setUp
    (hLawful : b.Lawful)
    (p : Printer b)
    (env : Environment) :
    (p.setUp env).IsSettled env := by
  intro s' hState'
  rw [state_setUp] at hState'
  rcases Option.bind_eq_some_iff.mp hState' with
    ⟨s, _, hInstalled⟩
  rcases Option.map_eq_some_iff.mp hInstalled with
    ⟨f, hFilter, rfl⟩
  refine ⟨?_, by simp [hFilter]⟩
  cases hSet : b.isSet s with
  | false => exact hLawful.isSet_install f env.style s hSet
  | true =>
      rw [hLawful.install_of_isSet f env.style s hSet]
      exact hSet

/- Then to set up once more changes nothing. -/
theorem setUp_of_isSettled
    (hLawful : b.Lawful)
    {p : Printer b}
    {env : Environment}
    (hSettled : p.IsSettled env) :
    p.setUp env = p := by
  unfold setUp
  split
  · rfl
  · rename_i s hState hFilter
    exact absurd hFilter (hSettled s hState).2
  · rename_i s f hState hFilter
    have hSet := (hSettled s hState).1
    have hRefused : ¬ (b.install f env.style s).1 = true := by
      rw [hLawful.accepts_iff, hSet]
      decide
    dsimp only
    rw [if_neg hRefused,
      hLawful.install_of_isSet f env.style s hSet, ← hState]

/- Nor does it change anything several times. -/
theorem setUpTimes_of_isSettled
    (hLawful : b.Lawful)
    {p : Printer b}
    {env : Environment}
    (hSettled : p.IsSettled env)
    (n : Nat) :
    setUpTimes env n p = p := by
  induction n with
  | zero => rfl
  | succ n ih =>
      unfold setUpTimes
      rw [setUp_of_isSettled hLawful hSettled]
      exact ih

/- A log is set up the first time, and no other. -/
theorem setUpTimes_succ
    (hLawful : b.Lawful)
    (env : Environment)
    (n : Nat)
    (p : Printer b) :
    setUpTimes env (n + 1) p = p.setUp env :=
  setUpTimes_of_isSettled hLawful
    (isSettled_setUp hLawful p env) n

/- What is printed does not unsettle a printer. -/
theorem IsSettled.printAll
    {p : Printer b}
    {env : Environment}
    (hSettled : p.IsSettled env)
    (es : List Event) :
    (p.printAll es).IsSettled env := by
  unfold IsSettled
  rw [(lines_printAll p es).2]
  exact hSettled

/- The first time, the log begins by saying so. -/
theorem lines_setUp_fresh
    (hLawful : b.Lawful)
    {env : Environment}
    {f : b.Filter}
    (hFilter : env.filter? b = some f) :
    (fresh.setUp env).lines =
      b.shown f env.style [greeting env] := by
  have hNot := hLawful.isSet_start
  have hAccepted :
      (b.install f env.style b.start).1 = true :=
    (hLawful.accepts_iff f env.style b.start).mpr hNot
  have hSetUp :
      (fresh : Printer b).setUp env =
        print
          ⟨some (b.install f env.style b.start).2, []⟩
          (greeting env) := by
    simp only [setUp, fresh, hFilter]
    exact if_pos hAccepted
  rw [hSetUp, lines_print, List.nil_append]
  exact Backend.emitted_install hLawful hNot f env.style _

end Printer

------------------------------------------------------------
-- Logs of Processes
------------------------------------------------------------

/- No event of a condition variable begins a log. -/
theorem target_of_mem_chronicle
    {label : String}
    {history : List Note}
    {e : Event}
    (hMem : e ∈ chronicle label history)
    (env : Environment) :
    e.target ≠ (Printer.greeting env).target := by
  have hTargets :
      Fact.callTarget ≠ "timeout_cond::monitoring::tracer" ∧
        Fact.stallTarget ≠
          "timeout_cond::monitoring::tracer" := by
    decide
  rcases List.mem_filterMap.mp hMem with ⟨n, _, hEvent⟩
  cases hFact : n.fact with
  | registered epoch =>
      rw [hFact] at hEvent
      cases hEvent
      exact hTargets.1
  | returned epoch o left =>
      rw [hFact] at hEvent
      cases left with
      | none =>
          cases hEvent
          exact hTargets.1
      | some d =>
          cases hEvent
          exact hTargets.1
  | signaled r =>
      rw [hFact] at hEvent
      cases hEvent
      exact hTargets.1
  | interrupted epoch r =>
      rw [hFact] at hEvent
      cases hEvent
      exact hTargets.1
  | stalled epoch blocked =>
      rw [hFact] at hEvent
      cases hEvent
      exact hTargets.2
  | _ =>
      rw [hFact] at hEvent
      cases hEvent

namespace Backend

variable {b : Backend}

/-
  The lines of a process that sets the log up and then uses
  its condition variable, which makes a history.
-/
def log
    (b : Backend)
    (env : Environment)
    (calls : Nat)
    (label : String)
    (history : List Note) : List b.Line :=
  ((b.printer env calls).printAll
    (chronicle label history)).lines

/- However often, the log is set up as it is the first time. -/
theorem printer_succ
    (hLawful : b.Lawful)
    (env : Environment)
    (n : Nat) :
    b.printer env (n + 1) = Printer.fresh.setUp env :=
  Printer.setUpTimes_succ hLawful env n .fresh

/- A log that was set up begins by saying so. -/
theorem log_of_filter
    (hLawful : b.Lawful)
    {env : Environment}
    {f : b.Filter}
    (hFilter : env.filter? b = some f)
    (n : Nat)
    (label : String)
    (history : List Note) :
    b.log env (n + 1) label history =
      b.shown f env.style
        (Printer.greeting env :: chronicle label history) := by
  have hState :
      (Printer.fresh.setUp env).state =
        some (b.install f env.style b.start).2 := by
    rw [Printer.state_setUp, hFilter]
    rfl
  calc b.log env (n + 1) label history
      = b.shown f env.style [Printer.greeting env] ++
          b.shown f env.style (chronicle label history) := by
        unfold log
        rw [printer_succ hLawful,
          (Printer.lines_printAll _ _).1, hState,
          Printer.lines_setUp_fresh hLawful hFilter,
          emitted_install hLawful hLawful.isSet_start]
    _ = b.shown f env.style
          (Printer.greeting env ::
            chronicle label history) := by
        unfold shown
        rw [← List.map_append, ← List.filter_append]
        rfl

/- Where the process ends over its filter, nothing is printed. -/
theorem log_of_fatal
    (hLawful : b.Lawful)
    {env : Environment}
    (hFatal : env.filter? b = none)
    (n : Nat)
    (label : String)
    (history : List Note) :
    b.log env (n + 1) label history = [] := by
  have hEnded :
      (Printer.fresh.setUp env : Printer b) = ⟨none, []⟩ := by
    simp only [Printer.setUp, Printer.fresh, hFatal]
  unfold log
  rw [printer_succ hLawful, hEnded,
    (Printer.lines_printAll _ _).1]
  rfl

/-
  What a process prints with a filter: the first event, if it
  is admitted, and then lines that come from elsewhere.
-/
theorem exists_rest
    (hLawful : b.Lawful)
    {env : Environment}
    {f : b.Filter}
    (hFilter : env.filter? b = some f)
    (n : Nat)
    (label : String)
    (history : List Note) :
    ∃ rest,
      b.log env (n + 1) label history =
        (if b.admits f (Printer.greeting env) then
            [b.render env.style (Printer.greeting env)]
          else
            []) ++
          rest ∧
      (∀ l ∈ rest,
        b.target l ≠ (Printer.greeting env).target) ∧
      (∀ l ∈ b.log env (n + 1) label history,
        b.isJson l = true ↔ env.style = .json) := by
  have hLog := log_of_filter hLawful hFilter n label history
  refine
    ⟨b.shown f env.style (chronicle label history),
      ?_, ?_, ?_⟩
  · rw [hLog]
    by_cases hAdmits :
        b.admits f (Printer.greeting env) = true
    · simp [shown, hAdmits]
    · simp [shown, hAdmits]
  · intro l hMem
    rcases List.mem_map.mp hMem with ⟨e, hShown, rfl⟩
    rw [hLawful.target_render]
    exact
      target_of_mem_chronicle (List.mem_filter.mp hShown).1
        env
  · intro l hMem
    rw [hLog] at hMem
    rcases List.mem_map.mp hMem with ⟨e, _, rfl⟩
    exact hLawful.isJson_render env.style e

/- The line of the set-up is the first, and there is no other. -/
theorem first_of_target
    (hLawful : b.Lawful)
    {env : Environment}
    {n k : Nat}
    {label : String}
    {history : List Note}
    {l : b.Line}
    (hLine : (b.log env (n + 1) label history)[k]? = some l)
    (hTarget : b.target l = (Printer.greeting env).target) :
    k = 0 ∧ l = b.render env.style (Printer.greeting env) := by
  cases hFilter : env.filter? b with
  | none =>
      rw [log_of_fatal hLawful hFilter] at hLine
      cases hLine
  | some f =>
      rcases exists_rest hLawful hFilter n label history with
        ⟨rest, hLog, hRest, _⟩
      rw [hLog] at hLine
      by_cases hAdmits :
          b.admits f (Printer.greeting env) = true
      · rw [if_pos hAdmits] at hLine
        cases k with
        | zero => exact ⟨rfl, (Option.some.inj hLine).symm⟩
        | succ k =>
            exact
              absurd hTarget
                (hRest l (List.mem_of_getElem? hLine))
      · rw [if_neg hAdmits] at hLine
        exact
          absurd hTarget
            (hRest l (List.mem_of_getElem? hLine))

/- It is there if the filter admits its event. -/
theorem exists_of_target_iff
    (hLawful : b.Lawful)
    {env : Environment}
    {f : b.Filter}
    (hFilter : env.filter? b = some f)
    (n : Nat)
    (label : String)
    (history : List Note) :
    (∃ l ∈ b.log env (n + 1) label history,
      b.target l = (Printer.greeting env).target) ↔
      b.admits f (Printer.greeting env) = true := by
  rcases exists_rest hLawful hFilter n label history with
    ⟨rest, hLog, hRest, _⟩
  rw [hLog]
  constructor
  · rintro ⟨l, hMem, hTarget⟩
    by_cases hAdmits : b.admits f (Printer.greeting env) = true
    · exact hAdmits
    · rw [if_neg hAdmits, List.nil_append] at hMem
      exact absurd hTarget (hRest l hMem)
  · intro hAdmits
    rw [if_pos hAdmits]
    exact
      ⟨_, List.mem_cons_self,
        hLawful.target_render env.style _⟩

/- The deeds of a process make a history. -/
theorem exists_lines_eq_log
    (label : String)
    (deeds : List Deed) :
    ∃ (ns : List Note) (m : Machine Int),
      (Machine.fresh (Settings.standard.withLabel label) 0
          0).Reaches ns m ∧
        ∀ (b : Backend) env calls,
          b.lines env calls label deeds =
            b.log env calls label ns := by
  have hStep :
      (Machine.fresh (Settings.standard.withLabel label) 0
          0).step .join =
        some
          ((Stage.fresh (Settings.standard.withLabel label)
            0).machine,
            []) :=
    rfl
  rcases Session.exists_history
      (Stage.fresh (Settings.standard.withLabel label) 0)
      deeds with
    ⟨ns, m, hReaches, hEvents⟩
  have hJoin := Machine.Reaches.step .refl hStep
  refine ⟨ns, m, hJoin.trans hReaches, ?_⟩
  intro b env calls
  change
    ((b.printer env calls).printAll
      (Session.events
        (Stage.fresh (Settings.standard.withLabel label) 0)
        deeds)).lines = _
  rw [hEvents]
  rfl

/-
  Whatever the backend, if it is lawful, the environment of a
  process, and however often, but at least once, it sets the
  log up.  It prints what it would have printed otherwise,
  whatever its history; to set the log up once more, even
  later, changes nothing, and without that nothing is
  printed.  A line of the set-up's own is the first line and
  there is no other.  It is there exactly if the filter in
  force admits its event, which is to say any event of its
  level and target if the filter decides by these alone.  And
  it says that lines are records exactly if all of them are.
  All this holds for what a process does with a condition
  variable of its own, as that is a history.
-/
theorem log_set_up_once
    {b : Backend}
    (hLawful : b.Lawful)
    (env : Environment)
    (label : String)
    (history : List Note)
    (n : Nat)
    (lines : List b.Line)
    (hLines : lines = b.log env (n + 1) label history) :
    lines = b.log env 1 label history ∧
    b.log env 0 label history = [] ∧
    b.completes env (n + 1) = b.completes env 1 ∧
    (∀ (k : Nat) (es : List Event),
      Printer.setUpTimes env k
          ((b.printer env (n + 1)).printAll es) =
        (b.printer env (n + 1)).printAll es) ∧
    (∀ (k : Nat) (l : b.Line),
      lines[k]? = some l →
        b.target l = (Printer.greeting env).target →
          k = 0 ∧
            l = b.render env.style (Printer.greeting env)) ∧
    ((∃ l ∈ lines,
        b.target l = (Printer.greeting env).target) ↔
      ∃ f ∈ env.filter? b,
        b.admits f (Printer.greeting env) = true) ∧
    (∀ f ∈ env.filter? b,
      b.DecidesByOrigin f →
        ∀ e : Event,
          e.level = .info →
            e.target = (Printer.greeting env).target →
              ((∃ l ∈ lines,
                  b.target l =
                    (Printer.greeting env).target) ↔
                b.admits f e = true)) ∧
    (∀ l ∈ lines,
      b.target l = (Printer.greeting env).target →
        (b.saysJson l = true ↔
          ∀ l' ∈ lines, b.isJson l' = true)) ∧
    (∀ deeds : List Deed,
      ∃ (ns : List Note) (m : Machine Int),
        (Machine.fresh (Settings.standard.withLabel label) 0
            0).Reaches ns m ∧
          ∀ calls,
            b.lines env calls label deeds =
              b.log env calls label ns) := by
  subst hLines
  refine
    ⟨?_, ?_, ?_, ?_,
      fun k l hLine => first_of_target hLawful hLine,
      ?_, ?_, ?_, ?_⟩
  · unfold log
    rw [printer_succ hLawful, printer_succ hLawful]
  · unfold log
    rw [(Printer.lines_printAll _ _).1]
    exact emitted_of_not_isSet hLawful hLawful.isSet_start _
  · unfold completes
    rw [printer_succ hLawful, printer_succ hLawful]
  · intro k es
    rw [printer_succ hLawful]
    exact
      Printer.setUpTimes_of_isSettled hLawful
        ((Printer.isSettled_setUp hLawful _ env).printAll es) k
  · cases hFilter : env.filter? b with
    | none =>
        rw [log_of_fatal hLawful hFilter]
        simp
    | some f =>
        rw [exists_of_target_iff hLawful hFilter]
        simp
  · intro f hFilter hOrigin e hLevel hTarget
    rw [exists_of_target_iff hLawful hFilter]
    rw [hOrigin e (Printer.greeting env) hLevel hTarget]
  · intro l hMem hTarget
    rcases List.getElem?_of_mem hMem with ⟨k, hLine⟩
    rcases first_of_target hLawful hLine hTarget with ⟨_, rfl⟩
    rw [hLawful.saysJson_render env.style
        (Printer.greeting env) env.wantsJson rfl,
      ← env.style_eq_json_iff]
    cases hFilter : env.filter? b with
    | none =>
        rw [log_of_fatal hLawful hFilter] at hMem
        cases hMem
    | some f =>
        rcases exists_rest hLawful hFilter n label history with
          ⟨_, _, _, hStyle⟩
        constructor
        · intro hJson l hLine
          exact (hStyle l hLine).mpr hJson
        · intro hAll
          exact (hStyle _ hMem).mp (hAll _ hMem)
  · intro deeds
    rcases exists_lines_eq_log label deeds with
      ⟨ns, m, hReaches, hSame⟩
    exact ⟨ns, m, hReaches, hSame b env⟩

end Backend

/-
  A process with a console asks for records and sets the log
  up three times.  Its first line says so, a warning follows,
  and a detail that is not admitted is missing.  Another
  event of the origin of the first one is admitted as well.
-/
theorem Console.log_set_up_once_json :
    ∃ (env : Environment) (history : List Note)
      (lines : List Line),
      env = ⟨none, some "1"⟩ ∧
      history =
        [⟨0, ⟨5⟩, .registered 0⟩,
          ⟨0, ⟨9_000_000⟩, .stalled 0 (.ofNanos 9_000_000)⟩] ∧
      lines = backend.log env 3 "c" history ∧
      lines.length = 2 ∧
      lines = backend.log env 1 "c" history ∧
      lines[0]? =
        some (.ofEvent .json (Printer.greeting env)) ∧
      (Filter.named "info").admits
          ⟨.info, (Printer.greeting env).target, "", []⟩ =
        true ∧
      ∀ l ∈ lines, l.isJson = true := by
  rcases Backend.log_set_up_once lawful_backend
      ⟨none, some "1"⟩ "c"
      [⟨0, ⟨5⟩, .registered 0⟩,
        ⟨0, ⟨9_000_000⟩, .stalled 0 (.ofNanos 9_000_000)⟩]
      2 _ rfl with
    ⟨hSame, _, _, _, _, _, hOrigin, hRecords, _⟩
  have hFirst :
      backend.render .json
          (Printer.greeting ⟨none, some "1"⟩) ∈
        backend.log ⟨none, some "1"⟩ 3 "c"
          [⟨0, ⟨5⟩, .registered 0⟩,
            ⟨0, ⟨9_000_000⟩,
              .stalled 0 (.ofNanos 9_000_000)⟩] := by
    decide +kernel
  have hNone :
      ∀ d ∈ (Filter.named "info").directives,
        d.field = none := by
    decide +kernel
  have hAdmits :=
    (hOrigin (Filter.named "info") rfl
      (decidesByOrigin_of_no_field hNone)
      ⟨.info, "timeout_cond::monitoring::tracer", "", []⟩
      rfl rfl).mp ⟨_, hFirst, rfl⟩
  exact
    ⟨_, _, _, rfl, rfl, rfl, by decide +kernel, hSame,
      by decide +kernel, hAdmits,
      (hRecords _ hFirst rfl).mp (by decide +kernel)⟩

end CondVar
