import EventSieve.Filter
import EventSieve.Settings

/-!
# Starting a stage

A stage starts by opening its journal, naming itself in the context and building its
filter. A configuration that gives no filter ends the start after a critical entry
about the problem, or with an error where this entry cannot be written. A level that
the journal does not accept ends it before anything else happens. Stages that start in
one process have one context and one journal, which is opened once: from then on it
keeps its threshold, whatever level the settings name.
-/

namespace EventSieve

inductive StageFault where
  /-- The settings are invalid. -/
  | settings (errors : List Invalid)
  /-- The journal does not accept the level with this name in capitals. -/
  | level (name : String)
  /-- The configuration gives no filter. -/
  | exit (cause : Problem)
  /-- A problem that does not concern the configuration. -/
  | problem (p : Problem)
  /-- A template holds a null character. -/
  | nullCharacter
  /-- A value holds an integer that is too long to be written. -/
  | unwritable

/-- What the starts of stages in one process share: the names in the context, and the
threshold of the journal once it has been opened. -/
structure Process where
  context : Context
  threshold : Option Level

/-- What the start of a stage comes to: its filter or why it has none, the context that it
leaves behind, the journal's threshold if it is open, and the records. -/
structure Start where
  outcome : Except StageFault Filter
  context : Context
  threshold : Option Level
  records : List Fields

namespace Stage

def levelMessage (capitals : String) : String :=
  match Constant.ofCapitals? capitals with
  | some .format => "Unknown level: '%(levelname)s:%(name)s:%(message)s'"
  | some .styles => "Level not an integer or a valid string: " ++
    "\x7b'%': (<class 'logging.PercentStyle'>, '%(levelname)s:%(name)s:%(message)s'), " ++
    "'\x7b': (<class 'logging.StrFormatStyle'>, " ++
    "'\x7blevelname\x7d:\x7bname\x7d:\x7bmessage\x7d'), " ++
    "'$': (<class 'logging.StringTemplateStyle'>, " ++
    "'$\x7blevelname\x7d:$\x7bname\x7d:$\x7bmessage\x7d')\x7d"
  | none => s!"module 'logging' has no attribute '{capitals}'"

def exitEntry (service : String) (stage : Option String) (p : Problem) : Entry :=
  ⟨service ++ ".bootstrap", .critical, "Invalid filter configuration", p.report stage⟩

theorem isWritable_exitEntry (service : String) (stage : Option String) (p : Problem) :
    (exitEntry service stage p).isWritable = Value.areWritableFields p.details := by
  cases stage <;>
    simp [exitEntry, Entry.isWritable, Problem.report, Value.areWritableFields, Value.isWritable]

/-- The end of the start of a stage in its own context: the outcome, and the notes on it. No
other entry holds a value of the configuration. -/
def outcome (context : Context) (service : String) :
    Noted (Except CompileFault Filter) → Noted (Except StageFault Filter)
  | (.ok f, notes) => (.ok f, notes)
  | (.error (.problem p), notes) =>
    let entry := exitEntry service context.stage p
    if !p.concernsConfiguration then (.error (.problem p), notes)
    else if entry.isWritable then (.error (.exit p), notes ++ [.entry entry])
    else (.error .unwritable, notes)
  | (.error .nullCharacter, notes) => (.error .nullCharacter, notes)
  | (.error .unwritable, notes) => (.error .unwritable, notes)

def startIn (factory : RendererFactory) (p : Process) (config : Fields) (settings : Settings)
    (stage : Option String) : Start :=
  match Journal.opened? p.threshold settings.logLevel with
  | none =>
    ⟨.error (.level (Text.upper settings.logLevel)), p.context,
      Journal.refused p.threshold settings.logLevel, []⟩
  | some threshold =>
    let context := Context.empty.set stage settings.pipelineName
    let (result, notes) :=
      outcome context settings.serviceName (Filter.ofConfig factory config settings.conditionKey)
    let opening := [Journal.opening settings.serviceName settings.logLevel]
    ⟨result, context, some threshold,
      Journal.records threshold p.context opening ++
        Journal.records threshold context (Journal.entries notes)⟩

/-- The start of a stage in a process that has a context and no journal yet. -/
def start (factory : RendererFactory) (previous : Context) (config : Fields) (settings : Settings)
    (stage : Option String) : Start :=
  startIn factory ⟨previous, none⟩ config settings stage

end Stage

/-! ## Processes -/

/-- What happens in a process: a stage starts, or new names are set in the context. -/
inductive Happening where
  | start (factory : RendererFactory) (config : Fields) (settings : Settings)
    (stage : Option String)
  | names (stage pipeline : Option String)

namespace Process

def fresh : Process := ⟨.empty, none⟩

def after (p : Process) : Happening → Process
  | .start factory config settings stage =>
    let s := Stage.startIn factory p config settings stage
    ⟨s.context, s.threshold⟩
  | .names stage pipeline => { p with context := p.context.set stage pipeline }

def run (p : Process) (happenings : List Happening) : Process := happenings.foldl after p

end Process

end EventSieve
