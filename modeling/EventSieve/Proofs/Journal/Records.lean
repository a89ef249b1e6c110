import EventSieve.Journal

/-!
# Records

A record is an entry with what the journal adds to it: the message, the logger and the
level, and the names of the service, the stage and the pipeline. An entry is `Plain` if
its own fields leave the message and the level to the journal. What a plain entry says
can be read off its record, so a threshold acts on records as it does on entries: a
journal with a higher threshold writes the records of one with a lower threshold that
reach its own, and no others. The threshold is set when the journal is opened, under the
name of a level, and an open journal keeps it.
-/

namespace EventSieve

namespace Level

theorem named?_name (level : Level) : named? level.name = some level := by
  cases level with
  | unset => rfl
  | debug => rfl
  | info => rfl
  | warning => rfl
  | error => rfl
  | critical => rfl

end Level

/-! ## What a context adds -/

namespace Context

theorem get?_setName_of_ne {key other : String} (h : key ≠ other) (fields : Fields)
    (name : Option String) : (setName fields key name).get? other = fields.get? other := by
  cases name with
  | none => rfl
  | some name =>
      rw [setName]
      split
      · rfl
      · exact Fields.get?_set_of_ne _ h

theorem get?_mark_of_ne {key : String} (hstage : "stage" ≠ key) (hpipeline : "pipeline" ≠ key)
    (c : Context) (fields : Fields) : (c.mark fields).get? key = fields.get? key := by
  rw [mark, get?_setName_of_ne hstage, get?_setName_of_ne hpipeline]

end Context

theorem get?_markService_of_ne {key : String} (h : "service" ≠ key) (fields : Fields) :
    (markService fields).get? key = fields.get? key := by
  rw [markService]
  split
  · split
    · exact Fields.get?_set_of_ne _ h
    · rfl
  · rfl

namespace Entry

/-- The fields of an entry say nothing under the keys of its message and its level. -/
def Plain (e : Entry) : Prop := e.fields.get? "event" = none ∧ e.fields.get? "level" = none

theorem get?_record {key : String} (hstage : "stage" ≠ key) (hpipeline : "pipeline" ≠ key)
    (hservice : "service" ≠ key) (e : Entry) (context : Context) :
    (e.record context).get? key = (e.fields.get? key).or
      (Fields.get? [("event", .str e.message), ("logger", .str e.logger),
        ("level", .str e.level.name)] key) := by
  rw [record, Context.get?_mark_of_ne hstage hpipeline, get?_markService_of_ne hservice,
    Fields.get?_append]

end Entry

namespace Journal

def levelOf? (record : Fields) : Option Level :=
  match record.get? "level" with
  | some (.str name) => Level.named? name
  | _ => none

def reaches (threshold : Level) (record : Fields) : Bool :=
  (levelOf? record).any fun level => threshold.rank ≤ level.rank

def isAbout (message : String) (record : Fields) : Bool :=
  match record.get? "event" with
  | some (.str text) => text == message
  | _ => false

section Plain

variable {e : Entry} (h : e.Plain)

include h

theorem levelOf?_record (context : Context) : levelOf? (e.record context) = some e.level := by
  rw [levelOf?, Entry.get?_record (by decide) (by decide) (by decide), h.2]
  exact Level.named?_name e.level

theorem reaches_record (threshold : Level) (context : Context) :
    reaches threshold (e.record context) = decide (threshold.rank ≤ e.level.rank) := by
  rw [reaches, levelOf?_record h, Option.any_some]

theorem isAbout_record (message : String) (context : Context) :
    isAbout message (e.record context) = (e.message == message) := by
  rw [isAbout, Entry.get?_record (by decide) (by decide) (by decide), h.1]
  rfl

end Plain

/-- What can be read off the records picks the same records as it picks entries. -/
theorem filter_records {context : Context} {entries : List Entry} {onRecord : Fields → Bool}
    {onEntry : Entry → Bool} (h : ∀ e ∈ entries, onRecord (e.record context) = onEntry e)
    (threshold : Level) :
    (records threshold context entries).filter onRecord =
      records threshold context (entries.filter onEntry) := by
  rw [records, records, List.filter_map, List.filter_filter, List.filter_filter]
  congr 1
  refine List.filter_congr fun e he => ?_
  rw [Function.comp_apply, h e he, Bool.and_comm]

theorem records_of_le {low high : Level} (hle : low.rank ≤ high.rank) (context : Context)
    {entries : List Entry} (hplain : ∀ e ∈ entries, e.Plain) :
    records high context entries = (records low context entries).filter (reaches high) := by
  rw [filter_records (fun e he => reaches_record (hplain e he) high context) low, records, records,
    List.filter_filter]
  congr 1
  refine List.filter_congr fun e _ => ?_
  by_cases hhigh : high.rank ≤ e.level.rank
  · simp [hhigh, Nat.le_trans hle hhigh]
  · simp [hhigh]

theorem filter_isAbout_records (threshold : Level) (context : Context) (message : String)
    {entries : List Entry} (hplain : ∀ e ∈ entries, e.Plain) :
    (records threshold context entries).filter (isAbout message) =
      records threshold context (entries.filter (·.message == message)) :=
  filter_records (fun e he => isAbout_record (hplain e he) message context) threshold

theorem entries_append (notes more : List Note) :
    entries (notes ++ more) = entries notes ++ entries more := List.filterMap_append

theorem entries_flatMap {α : Type} (xs : List α) (notes : α → List Note) :
    entries (xs.flatMap notes) = xs.flatMap fun x => entries (notes x) :=
  List.filterMap_flatMap

/-- What an open journal accepts does not depend on its threshold, which it keeps. -/
theorem opened?_some (threshold : Level) (name : String) :
    opened? (some threshold) name =
      if (Level.named? name).isSome ∨ (Constant.named? name).isSome then some threshold
      else none := by
  rw [opened?]
  cases Level.named? name with
  | some level => rfl
  | none => simp

theorem refused_some (threshold : Level) (name : String) :
    refused (some threshold) name = some threshold := by
  rw [refused, Option.getD_some, ite_self]

end Journal

end EventSieve
