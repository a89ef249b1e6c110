import EventSieve.Proofs.Filter.Asking

/-!
# The work of a filter

What is seen of a filter at work is its answers, the calls of renderers and the records.
The calls and the entries end with the first condition that fails on an event. The
threshold of the journal takes no part in this: it only decides which of the entries
become records.
-/

namespace EventSieve

open Expression

namespace Condition

theorem exists_factory_of_compile {factory : RendererFactory} {text : String} {c : Condition}
    (h : (compile factory (.str text)).1 = .ok c) {r : Renderer} (hr : c.renderer = some r) :
    ∃ template, factory template = .ok r := by
  rcases compile_eq_ok_iff.mp h with
    ⟨-, s, hs, rfl⟩ | ⟨body, path, -, -, rfl⟩ | ⟨body, path, token, v, -, -, -, -, rfl⟩
  · cases hr
    exact ⟨_, hs⟩
  · cases hr
  · cases hr

end Condition

namespace Filter

/-! ## What is seen of the work -/

/-- What is seen of work in a journal: its result, the calls of renderers, and the records. -/
structure Observation (α : Type) where
  result : α
  calls : List (String × Event)
  records : List Fields

def observe {α : Type} (threshold : Level) (context : Context) (work : Noted α) :
    Observation α where
  result := work.1
  calls := renderings work.2
  records := Journal.records threshold context (Journal.entries work.2)

theorem observe_of_le {α : Type} {low high : Level} (hle : low.rank ≤ high.rank)
    (context : Context) {work : Noted α} (hplain : ∀ e ∈ Journal.entries work.2, e.Plain) :
    observe high context work =
      { observe low context work with
        records := (observe low context work).records.filter (Journal.reaches high) } := by
  rw [observe, Journal.records_of_le hle context hplain]
  rfl

def rejectedRecord (context : Context) (index : Nat) (text : String) : Fields :=
  context.mark [("condition_index", .int index), ("condition", .str text),
    ("event", .str "Event rejected"), ("logger", .str "filter.engine"), ("level", .str "debug"),
    ("service", .str "filter")]

theorem record_rejectedEntry (index : Nat) (c : Condition) (context : Context) :
    (rejectedEntry index c).record context = rejectedRecord context index c.source := by
  have hservice : serviceOf? "filter.engine" = some "filter" := by decide
  rw [Entry.record, rejectedRecord, rejectedEntry]
  congr 1
  simp [markService, Fields.get?_cons, hservice, Fields.set, Level.name]

/-- Work that goes up to the first condition that fails on an event, and no further. -/
structure EndsAtFirstFailing (f : Filter) (texts : List String) (context : Context)
    (arrivals : List Arrival) : Prop where
  /-- An event passes if no condition fails. -/
  verdicts : ∀ threshold, (observe threshold context (f.passesAll arrivals)).result =
    arrivals.map fun a => .ok (firstFailing? a 0 f.conditions).isNone
  /-- The renderers of the templates that are asked are called, in order and once each. -/
  calls : ∀ threshold, (observe threshold context (f.passesAll arrivals)).calls.map some =
    arrivals.flatMap fun a =>
      ((asked a 0 f.conditions).filter fun c => c.kind = .template).map fun c => c.call? a.event
  /-- Each event that does not pass has a record of the condition that fails first. -/
  rejections : ((observe .debug context (f.passesAll arrivals)).records.filter
      (Journal.isAbout "Event rejected")).map some =
    (arrivals.filter fun a => (firstFailing? a 0 f.conditions).isSome).map fun a =>
      (firstFailing? a 0 f.conditions).bind fun i =>
        texts[i]?.map fun text => rejectedRecord context i (Text.trim text)
  /-- Selecting the events that pass is the same work. -/
  selection : ∀ threshold,
    (observe threshold context (f.select arrivals)).result =
      .ok (arrivals.filter fun a => (firstFailing? a 0 f.conditions).isNone) ∧
    (observe threshold context (f.select arrivals)).calls =
      (observe threshold context (f.passesAll arrivals)).calls ∧
    (observe threshold context (f.select arrivals)).records =
      (observe threshold context (f.passesAll arrivals)).records
  /-- A higher threshold leaves out records below it, and changes nothing else. -/
  thresholds : ∀ low high : Level, low.rank ≤ high.rank →
    observe high context (f.passesAll arrivals) =
      { observe low context (f.passesAll arrivals) with
        records := (observe low context (f.passesAll arrivals)).records.filter
          (Journal.reaches high) } ∧
    observe high context (f.select arrivals) =
      { observe low context (f.select arrivals) with
        records := (observe low context (f.select arrivals)).records.filter (Journal.reaches high) }

section Work

variable {factory : RendererFactory} {texts : List String} {f : Filter}

theorem Builds.wellFormed (h : Builds factory (texts.map .str) f) :
    ∀ c ∈ f.conditions, c.WellFormed := by
  intro c hc
  obtain ⟨v, hv, hcompile⟩ := h.mem_conditions_iff.mp hc
  obtain ⟨text, -, rfl⟩ := List.mem_map.mp hv
  exact Condition.wellFormed_of_compile hcompile

theorem Builds.getElem?_source (h : Builds factory (texts.map .str) f) (i : Nat) :
    f.conditions[i]?.map Condition.source = texts[i]?.map Text.trim := by
  have hrow := congrArg (·[i]?) (builds_iff.mp h)
  simp only [List.getElem?_map, Option.map_map] at hrow
  cases hc : f.conditions[i]? with
  | none =>
      rw [hc, Option.map_none, Option.map_eq_none_iff] at hrow
      rw [hrow]
      rfl
  | some c =>
      rw [hc, Option.map_some, Option.map_eq_some_iff] at hrow
      obtain ⟨text, htext, hcompile⟩ := hrow
      rw [htext, Option.map_some, Option.map_some, Condition.source_of_compile hcompile]

def NeverRaises (factory : RendererFactory) : Prop :=
  ∀ text r, factory text = .ok r → ∀ m event error, r.render m event ≠ .raised error

theorem neverRaises_ofValues (stubs : Fields) : NeverRaises (.ofValues stubs) := by
  intro text r hr m event error
  cases hr
  exact nofun

theorem Builds.answers (h : Builds factory (texts.map .str) f) (hquiet : NeverRaises factory) :
    ∀ c ∈ f.conditions, c.Answers := by
  intro c hc m event
  obtain ⟨v, hv, hcompile⟩ := h.mem_conditions_iff.mp hc
  obtain ⟨text, -, rfl⟩ := List.mem_map.mp hv
  refine (Condition.wellFormed_of_compile hcompile).exists_answer_iff.mpr ?_
  rintro error ⟨r, hr, hraised⟩
  obtain ⟨template, htemplate⟩ := Condition.exists_factory_of_compile hcompile hr
  exact hquiet template r htemplate m event error hraised

theorem Builds.map_record_rejection? (h : Builds factory (texts.map .str) f) (context : Context)
    (a : Arrival) :
    (rejection? a 0 f.conditions).map (·.record context) =
      (firstFailing? a 0 f.conditions).bind fun i =>
        texts[i]?.map fun text => rejectedRecord context i (Text.trim text) := by
  rw [rejection?, Option.map_bind]
  congr 1
  funext i
  have hsource := congrArg (Option.map (rejectedRecord context i)) (h.getElem?_source i)
  rw [Option.map_map, Option.map_map] at hsource
  simp only [Function.comp_def, Option.map_map, record_rejectedEntry, Nat.zero_add] at hsource ⊢
  exact hsource

section Quiet

variable (hanswers : ∀ c ∈ f.conditions, c.Answers) (arrivals : List Arrival)

include hanswers

theorem plain_of_mem_entries {e : Entry} (he : e ∈ Journal.entries (f.passesAll arrivals).2) :
    e.Plain ∧ e.level = .debug := by
  rw [snd_passesAll, Journal.entries_flatMap, List.mem_flatMap] at he
  obtain ⟨a, -, he⟩ := he
  rcases failed_or_rejected_of_mem_entries hanswers he with ⟨template, error, rfl⟩ | ⟨i, c, rfl⟩
  · exact ⟨⟨rfl, rfl⟩, rfl⟩
  · exact ⟨⟨rfl, rfl⟩, rfl⟩

/-- The records of rejections, one for each event that is rejected. -/
theorem records_rejections (context : Context) :
    ((observe .debug context (f.passesAll arrivals)).records.filter
        (Journal.isAbout "Event rejected")).map some =
      (arrivals.filter fun a => (firstFailing? a 0 f.conditions).isSome).map fun a =>
        (rejection? a 0 f.conditions).map (·.record context) := by
  have hentries : (Journal.entries (f.passesAll arrivals).2).filter
      (·.message == "Event rejected") =
        arrivals.filterMap fun a => rejection? a 0 f.conditions := by
    rw [snd_passesAll, Journal.entries_flatMap, List.filter_flatMap,
      List.filterMap_eq_flatMap_toList]
    exact List.flatMap_congr fun a _ => filter_entries_passes hanswers a
  have hall : (arrivals.filterMap fun a => rejection? a 0 f.conditions).filter
      (fun e => Level.debug.rank ≤ e.level.rank) =
        arrivals.filterMap fun a => rejection? a 0 f.conditions := by
    rw [List.filter_eq_self]
    intro e he
    rw [← hentries] at he
    rw [(plain_of_mem_entries hanswers arrivals (List.mem_of_mem_filter he)).2]
    rfl
  have hsome : (arrivals.filterMap fun a => rejection? a 0 f.conditions).map some =
      (arrivals.filter fun a => (firstFailing? a 0 f.conditions).isSome).map
        fun a => rejection? a 0 f.conditions := by
    rw [List.map_filterMap_some_eq_filter_map_isSome, List.filter_map]
    congr 1
    exact List.filter_congr fun a _ => isSome_rejection? a 0 f.conditions
  have hrecords := congrArg (List.map (Option.map (·.record context))) hsome
  rw [observe, Journal.filter_isAbout_records .debug context _ fun e he =>
    (plain_of_mem_entries hanswers arrivals he).1, hentries, Journal.records, hall, List.map_map]
  rw [List.map_map, List.map_map] at hrecords
  exact hrecords

end Quiet

/-- A filter of texts calls the renderers of the templates up to the first condition that fails
on an event, and tells the journal of that condition; the threshold of the journal decides
about its records alone. -/
theorem ends_at_first_failing (hquiet : NeverRaises factory)
    (h : Builds factory (texts.map .str) f) (context : Context) (arrivals : List Arrival) :
    EndsAtFirstFailing f texts context arrivals := by
  have hanswers := h.answers hquiet
  have hplain : ∀ e ∈ Journal.entries (f.passesAll arrivals).2, e.Plain :=
    fun e he => (plain_of_mem_entries hanswers arrivals he).1
  constructor
  · intro threshold
    rw [observe, fst_passesAll]
    exact List.map_congr_left fun a _ => fst_passes hanswers a
  · intro threshold
    rw [observe, snd_passesAll, renderings_flatMap, List.map_flatMap]
    exact List.flatMap_congr fun a _ => renderings_passes h.wellFormed hanswers a
  · rw [records_rejections hanswers]
    exact List.map_congr_left fun a _ => h.map_record_rejection? context a
  · intro threshold
    refine ⟨?_, ?_, ?_⟩
    · rw [observe, fst_select hanswers]
    · rw [observe, observe, snd_select hanswers]
    · rw [observe, observe, snd_select hanswers]
  · intro low high hle
    refine ⟨observe_of_le hle context hplain, observe_of_le hle context ?_⟩
    rwa [snd_select hanswers]

end Work

/-- Three templates and a path, on an event that the second template rejects and on one that
the path rejects: the third template is never asked. -/
theorem templates_end_at_first_failing :
    ∃ f, Builds (.ofValues [("\x7b\x7ba\x7d\x7d", .str "y"), ("\x7b\x7bb\x7d\x7d", .str "n")])
        (["\x7b\x7ba\x7d\x7d", "Exist(x)", " \x7b\x7bb\x7d\x7d", "\x7b\x7bc\x7d\x7d"].map .str) f ∧
      EndsAtFirstFailing f
        ["\x7b\x7ba\x7d\x7d", "Exist(x)", " \x7b\x7bb\x7d\x7d", "\x7b\x7bc\x7d\x7d"] .empty
        [⟨[("x", .int 1)], fun _ => .apart⟩, ⟨[], fun _ => .apart⟩] ∧
      [⟨[("x", .int 1)], fun _ => .apart⟩, ⟨[], fun _ => .apart⟩].map
        (fun a => firstFailing? a 0 f.conditions) = [some 2, some 1] ∧
      (renderings (f.passesAll
        [⟨[("x", .int 1)], fun _ => .apart⟩, ⟨[], fun _ => .apart⟩]).2).map (·.1) =
        ["\x7b\x7ba\x7d\x7d", "\x7b\x7bb\x7d\x7d", "\x7b\x7ba\x7d\x7d"] := by
  have hwork : (ofValues (.ofValues
      [("\x7b\x7ba\x7d\x7d", .str "y"), ("\x7b\x7bb\x7d\x7d", .str "n")])
      (["\x7b\x7ba\x7d\x7d", "Exist(x)", " \x7b\x7bb\x7d\x7d", "\x7b\x7bc\x7d\x7d"].map
        .str)).1.toOption.map (fun f =>
          ([⟨[("x", .int 1)], fun _ => .apart⟩, ⟨[], fun _ => .apart⟩].map
              (fun a => firstFailing? a 0 f.conditions),
            (renderings (f.passesAll
              [⟨[("x", .int 1)], fun _ => .apart⟩, ⟨[], fun _ => .apart⟩]).2).map (·.1))) =
      some ([some 2, some 1],
        ["\x7b\x7ba\x7d\x7d", "\x7b\x7bb\x7d\x7d", "\x7b\x7ba\x7d\x7d"]) := by decide +kernel
  obtain ⟨f, hf, hall⟩ := Except.exists_ok_of_map_toOption hwork
  obtain ⟨hfirst, hcalls⟩ := Prod.mk.inj hall
  exact ⟨f, hf, ends_at_first_failing (neverRaises_ofValues _) hf .empty _, hfirst, hcalls⟩

end Filter

end EventSieve
