import EventSieve.Journal
import EventSieve.Path
import EventSieve.Template
import EventSieve.Value.Equality

/-!
# Conditions

A condition asks one question about an event: whether a template renders to an
expected text, whether a path leads to a value, or whether it leads to a given
value. A condition has no answer where its renderer raises an error. One that is put
together by hand may also lack what its kind needs.
-/

namespace EventSieve

open Expression Text

inductive Rendering where
  | result (o : Operand)
  /-- The template could not be evaluated, which is noted, and null is rendered. -/
  | failed (error : String)
  /-- The renderer raises an error. -/
  | raised (error : String)

namespace Rendering

def operand? : Rendering → Option Operand
  | result o => some o
  | failed _ => some (.new .null)
  | raised _ => none

def isText (r : Rendering) (expected : String) : Bool :=
  match r with
  | result (.value (.str s) _) => s == .ofString expected
  | _ => false

end Rendering

/-- A renderer: its template, the text of the expression in it if it has one, and what it
comes to on each event, given where the objects of the evaluation are. -/
structure Renderer where
  template : String
  expression : Option String
  render : Memory → Event → Rendering

namespace Renderer

/-- What a failed evaluation is rendered as. The key that is missing is part of the note on
the failure, and an error is raised where it cannot be written. -/
def renderFailure (w : Wording) (t : Template) (m : Memory) (event : Event) :
    Failure → Rendering
  | .missingKey key =>
    match key.written? m with
    | some s => .failed (String.ofList s)
    | none => .raised Value.unwritableMessage
  | .other => .failed (w.failure t m event)

def ofTemplate (w : Wording) (t : Template) : Renderer where
  template := t.source
  expression := some t.expression
  render m event :=
    match t.tree.evaluate m event with
    | .ok o => .result o
    | .error failure => renderFailure w t m event failure

def constant (template : String) (v : Value) : Renderer where
  template := template
  expression := none
  render _ _ := .result (.new v.widen)

end Renderer

/-- The kinds of conditions, and any name that is none of theirs. -/
inductive ConditionKind where
  | template | exist | eq
  | other (name : String)
deriving DecidableEq

namespace ConditionKind

def name : ConditionKind → String
  | template => "template"
  | exist => "exist"
  | eq => "eq"
  | other name => name

def ofName (name : String) : ConditionKind :=
  if name = "template" then template
  else if name = "exist" then exist
  else if name = "eq" then eq
  else other name

end ConditionKind

/-- A condition. Only the fields that its kind needs are set. -/
structure Condition (τ : Type := String) where
  kind : ConditionKind
  source : τ
  path : List τ := []
  value : Value τ := .null
  renderer : Option Renderer := none
  expected : String := "y"

/-- Why a condition has no answer. -/
inductive ConditionFault where
  | missingRenderer
  | emptyPath
  | unknownKind (name : String)
  /-- The renderer raises an error. -/
  | renderer (error : String)
deriving DecidableEq

namespace ConditionFault

def message : ConditionFault → String
  | missingRenderer => "'NoneType' object has no attribute 'render'"
  | emptyPath => "path must contain at least one segment"
  | unknownKind name => s!"Unknown condition kind: {name}"
  | renderer error => error

end ConditionFault

namespace Condition

def resolve (c : Condition) (event : Event) : Except ConditionFault (Option Value) :=
  match Path.resolve event c.path with
  | some found => .ok found
  | none => .error .emptyPath

def failureEntry (template error : String) : Entry :=
  ⟨"filter.render", .debug, "Template render failed",
    [("template", .str template), ("error", .str error)]⟩

def renderNotes (r : Renderer) (event : Event) (rendering : Rendering) : List Note :=
  .rendered r.template event ::
    match rendering with
    | .failed error => [.entry (failureEntry r.template error)]
    | _ => []

def answer (expected : String) : Rendering → Except ConditionFault Bool
  | .raised error => .error (.renderer error)
  | rendering => .ok (rendering.isText expected)

/-- The answer of a condition on an event, and the notes on the way to it. -/
def evaluate (c : Condition) (m : Memory) (event : Event) : Noted (Except ConditionFault Bool) :=
  match c.kind with
  | .template =>
    match c.renderer with
    | none => (.error .missingRenderer, [])
    | some r =>
      let rendering := r.render m event
      (answer c.expected rendering, renderNotes r event rendering)
  | .exist => ((c.resolve event).map Option.isSome, [])
  | .eq =>
    ((c.resolve event).map fun found =>
      match found with
      | some v => v.strictEqual c.value
      | none => false, [])
  | .other name => (.error (.unknownKind name), [])

/-- Whether two conditions are the same: no two renderers are. -/
def same (c d : Condition) : Bool :=
  c.kind == d.kind && c.source == d.source && c.path == d.path && c.value.equal d.value &&
    c.renderer.isNone && d.renderer.isNone && c.expected == d.expected

end Condition

end EventSieve
