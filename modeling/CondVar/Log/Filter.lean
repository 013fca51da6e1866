import CondVar.Log.Directive

/-
  Filters of a console: directives put in order, so that the
  first one that concerns an event decides on it.

  Key definitions include:
    * `Filter`
    * `Filter.ofDirectives`
    * `Filter.parse`
    * `Filter.named`
    * `Filter.admits`

  Directives that concern only what happens within a span
  admit nothing, since no event of this library is in one.
-/

namespace CondVar

------------------------------------------------------------
-- The Order of Directives
------------------------------------------------------------

namespace Directive

/- Whether a directive names the value of a field. -/
def namesValue (d : Directive) : Bool :=
  d.field.any (fun f => f.value.isSome)

/- Whether a directive concerns events outside of spans. -/
def isUnconditional (d : Directive) : Bool :=
  d.span.isNone && !d.namesValue

/-
  Directives are compared by the lengths of their targets,
  then by whether they name a field, and at last by the texts
  of target and name.  One without a target comes lowest.
-/
def compare
    (d : Directive)
    (e : Directive) : Ordering :=
  let size (x : Directive) : Option Nat :=
    x.target.map String.utf8ByteSize
  (Ord.compare (size d) (size e)).then <|
    (Ord.compare d.field.isSome e.field.isSome).then <|
      (Ord.compare d.target e.target).then
        (Ord.compare (d.field.map FieldTest.name)
          (e.field.map FieldTest.name))

/-
  Whether a directive concerns an event: its target starts
  the event's, and the event has its field.
-/
def concerns
    (d : Directive)
    (e : Event) : Bool :=
  let names := "message" :: e.fields.map Prod.fst
  d.target.all (fun t => e.target.startsWith t) &&
    d.field.all (fun f => f.name ∈ names)

end Directive

------------------------------------------------------------
-- Filters
------------------------------------------------------------

/- Directives in order, the most specific ones first. -/
structure Filter where
  directives : List Directive
deriving DecidableEq

namespace Filter

/-
  Put a directive in its place.  It takes the place of one
  for the same target and field.
-/
def insert
    (d : Directive) : List Directive → List Directive
| [] => [d]
| e :: es =>
    match d.compare e with
    | .gt => d :: e :: es
    | .eq => d :: es
    | .lt => e :: insert d es

/-
  The filter of some directives, the latest of equals.  With
  none at all it shows the errors.
-/
def ofDirectives : List Directive → Filter
| [] => ⟨[{ Directive.everything with threshold := 1 }]⟩
| ds =>
    ⟨(ds.filter Directive.isUnconditional).foldl
      (fun es d => insert d es) []⟩

/- The filter that a text describes. -/
def parse (s : String) : Except Directive.Fault Filter :=
  (Directive.parseAll s).map ofDirectives

/- The same, without the directives that have a fault. -/
def named (s : String) : Filter :=
  ofDirectives
    ((Directive.pieces s).filterMap
      (fun d => (Directive.parse d).toOption))

/- Whether a filter shows an event. -/
def admits
    (f : Filter)
    (e : Event) : Bool :=
  match f.directives.find? (·.concerns e) with
  | none => false
  | some d => e.level.rank ≤ d.threshold

end Filter

end CondVar
