import EventSieve.Text.Case
import EventSieve.Value.Text

/-!
# Journal

What is worth noting while conditions are compiled and events are filtered: the
templates that are handed to a factory, the renderers that are called, and the
entries of the journal. An entry has a logger, a level, a message and fields of its
own. A record is an entry as it is written: the journal writes the entries at or
above its threshold, each with the name of its service and with the stage and the
pipeline of the context in which it is written.
-/

namespace EventSieve

inductive Level where
  | unset | debug | info | warning | error | critical
deriving DecidableEq

namespace Level

def rank : Level → Nat
  | unset => 0
  | debug => 10
  | info => 20
  | warning => 30
  | error => 40
  | critical => 50

def name : Level → String
  | unset => "notset"
  | debug => "debug"
  | info => "info"
  | warning => "warning"
  | error => "error"
  | critical => "critical"

def ofCapitals? (name : String) : Option Level :=
  if name = "NOTSET" then some unset
  else if name = "DEBUG" then some debug
  else if name = "INFO" then some info
  else if name = "WARNING" ∨ name = "WARN" then some warning
  else if name = "ERROR" then some error
  else if name = "CRITICAL" ∨ name = "FATAL" then some critical
  else none

def named? (name : String) : Option Level := ofCapitals? (Text.upper name)

end Level

/-- What a journal has a name in capitals for, besides its levels: the form of its lines, and
the styles of such forms. -/
inductive Constant where
  | format | styles

namespace Constant

def ofCapitals? (name : String) : Option Constant :=
  if name = "BASIC_FORMAT" then some format
  else if name = "_STYLES" then some styles
  else none

def named? (name : String) : Option Constant := ofCapitals? (Text.upper name)

end Constant

/-! ## Context -/

/-- The names of the stage and the pipeline that are at work. -/
structure Context where
  stage : Option String
  pipeline : Option String
deriving DecidableEq

namespace Context

def empty : Context := ⟨none, none⟩

/-- A new name if there is one, and the old name otherwise. An empty name is none. -/
def rename (old new : Option String) : Option String :=
  match new with
  | some name => if name.isEmpty then old else some name
  | none => old

def set (c : Context) (stage pipeline : Option String) : Context :=
  ⟨rename c.stage stage, rename c.pipeline pipeline⟩

/-- What is done to a context: new names are set, or all names are taken away. -/
inductive Step where
  | set (stage pipeline : Option String)
  | clear

def after (c : Context) : Step → Context
  | .set stage pipeline => c.set stage pipeline
  | .clear => empty

def run (c : Context) (steps : List Step) : Context := steps.foldl after c

def setName (fields : Fields) (key : String) (name : Option String) : Fields :=
  match name with
  | some name => if name.isEmpty then fields else fields.set key (.str name)
  | none => fields

def mark (c : Context) (fields : Fields) : Fields :=
  setName (setName fields "pipeline" c.pipeline) "stage" c.stage

end Context

/-! ## Entries and records -/

/-- An entry of the journal. -/
structure Entry where
  logger : String
  level : Level
  message : String
  fields : Fields

/-- The service that a logger belongs to: what stands before the first point of its
name. -/
def serviceOf? (logger : String) : Option String :=
  let cs := logger.toList
  if '.' ∈ cs then some (String.ofList (cs.takeWhile (· ≠ '.'))) else none

def markService (fields : Fields) : Fields :=
  match fields.get? "logger" with
  | some (.str logger) =>
    match serviceOf? logger with
    | some service => fields.set "service" (.str service)
    | none => fields
  | _ => fields

def markTime (time : Value) (fields : Fields) : Fields := fields.set "ts" time

namespace Entry

def isWritable (e : Entry) : Bool := Value.areWritableFields e.fields

/-- An entry as it is written in a context. -/
def record (e : Entry) (context : Context) : Fields :=
  context.mark (markService (e.fields ++
    [("event", .str e.message), ("logger", .str e.logger), ("level", .str e.level.name)]))

end Entry

/-! ## Notes -/

/-- Something worth noting. -/
inductive Note where
  /-- A template is handed to the factory. -/
  | made (template : String)
  /-- The renderer of a template is called on an event. -/
  | rendered (template : String) (event : Event)
  /-- An entry goes to the journal. -/
  | entry (e : Entry)

namespace Note

def entry? : Note → Option Entry
  | entry e => some e
  | _ => none

end Note

/-- A result and the notes that were taken on the way to it. -/
abbrev Noted (α : Type) := α × List Note

namespace Journal

def entries (notes : List Note) : List Entry := notes.filterMap Note.entry?

def records (threshold : Level) (context : Context) (entries : List Entry) : List Fields :=
  (entries.filter fun e => threshold.rank ≤ e.level.rank).map (·.record context)

/-- The threshold that a journal has once it is opened under the name of a level, if it accepts
the name. An open journal keeps its threshold, and takes a constant for a level. -/
def opened? (threshold : Option Level) (name : String) : Option Level :=
  match Level.named? name with
  | some level => some (threshold.getD level)
  | none => if (Constant.named? name).isSome then threshold else none

theorem opened?_none (name : String) : opened? none name = Level.named? name := by
  rw [opened?]
  cases Level.named? name with
  | some level => rfl
  | none => rw [ite_self]

/-- The threshold that a journal has after a name that it does not accept. A constant is found
to be no level when the journal is open already, with the threshold that it has by default. -/
def refused (threshold : Option Level) (name : String) : Option Level :=
  if (Constant.named? name).isSome then some (threshold.getD .warning) else threshold

/-- The first entry of a journal, about its own threshold. The logger without a name is
the root. -/
def opening (service level : String) : Entry :=
  ⟨if service.isEmpty then "root" else service, .debug, "Logging configured",
    [("log_level", .str level)]⟩

end Journal

end EventSieve
