import EventSieve.Proofs.Condition.Templates
import EventSieve.Proofs.Filter.Building

/-!
# Filters of configurations

A stage without conditions says so: it has no value under the key, or null, or an empty
list. No other value gives a filter that lets every event pass. A value that is no list,
and a list with an item that is no text, are rejected before anything is compiled, with
one report for the list or one for each such item. A list of texts is compiled in its
order up to the first text at fault, and the factory is handed the templates among the
texts up to there.
-/

namespace EventSieve

open Text

def Value.isText : Value → Bool
  | .str _ => true
  | _ => false

namespace StageConfig

/-- The invalid items of a list are those that are no texts, each with its index. -/
theorem invalidItems_eq_map_zipIdx (key : String) (index : Nat) (items : List Value) :
    invalidItems key index items =
      ((items.zipIdx index).filter fun (v, _) => !v.isText).map fun (v, i) =>
        ⟨.text, some key, some i, v⟩ := by
  induction items generalizing index with
  | nil => rfl
  | cons v items ih =>
      rw [List.zipIdx_cons, List.filter_cons]
      cases v <;> simp [invalidItems, Value.isText, ih]

theorem texts_list_of_not_text {key : String} {items : List Value}
    (h : ∃ v ∈ items, v.isText = false) :
    texts key (.list items) = .error (invalidItems key 0 items) := by
  rw [texts]
  split
  · next hvalid =>
    obtain ⟨texts, rfl⟩ := invalidItems_eq_nil_iff.mp hvalid
    obtain ⟨v, hv, hnot⟩ := h
    obtain ⟨text, -, rfl⟩ := List.mem_map.mp hv
    cases hnot
  · rfl

theorem texts_of_not_list {key : String} {v : Value} (hnull : v ≠ .null)
    (hlist : ∀ items, v ≠ .list items) : texts key v = .error [⟨.list, some key, none, v⟩] := by
  cases v with
  | null => exact absurd rfl hnull
  | list items => exact absurd rfl (hlist items)
  | bool b => rfl
  | int n => rfl
  | float x => rfl
  | str s => rfl
  | map fields => rfl

end StageConfig

namespace Filter

/-! ## Rejected configurations -/

def listReport (v : Value) : Value :=
  .map [("type", .str "list_type"), ("loc", .list [.str "if"]),
    ("msg", .str "Input should be a valid list"), ("input", v)]

def textReport (v : Value) (index : Nat) : Value :=
  .map [("type", .str "string_type"), ("loc", .list [.str "if", .int index]),
    ("msg", .str "Input should be a valid string"), ("input", v)]

def textReports (items : List Value) : List Value :=
  (items.zipIdx.filter fun (v, _) => !v.isText).map fun (v, i) => textReport v i

/-- A problem with the configuration that holds the key and reports, and no note: nothing has
been compiled. -/
def IsRejected (key : String) (reports : List Value)
    (outcome : Noted (Except CompileFault Filter)) : Prop :=
  ∃ p : Problem, outcome = (.error (.problem p), []) ∧ p.family = .configuration ∧
    p.details = [("key", .str key), ("errors", .list reports)]

theorem isRejected_of_errors (factory : RendererFactory) {config : Fields} {key : String}
    {v : Value} {errors : List Invalid} (hget : config.get? key = some v)
    (herrors : StageConfig.texts "if" v = .error errors) :
    IsRejected key (errors.map fun e => .map e.report) (ofConfig factory config key) := by
  refine ⟨invalidConfig key errors, ?_, rfl, rfl⟩
  rw [ofConfig, hget, Option.getD_some, herrors]

theorem isRejected_of_not_list (factory : RendererFactory) {config : Fields} {key : String}
    {v : Value} (hget : config.get? key = some v) (hnull : v ≠ .null)
    (hlist : ∀ items, v ≠ .list items) :
    IsRejected key [listReport v] (ofConfig factory config key) :=
  isRejected_of_errors factory hget (StageConfig.texts_of_not_list hnull hlist)

theorem isRejected_of_not_text (factory : RendererFactory) {config : Fields} {key : String}
    {items : List Value} (hget : config.get? key = some (.list items))
    (htext : ∃ v ∈ items, v.isText = false) :
    IsRejected key (textReports items) (ofConfig factory config key) := by
  have hrejected := isRejected_of_errors factory hget (StageConfig.texts_list_of_not_text htext)
  rw [StageConfig.invalidItems_eq_map_zipIdx, List.map_map] at hrejected
  exact hrejected

/-! ## Compiled configurations -/

def templateTexts (texts : List String) : List String :=
  (texts.map Text.trim).filter fun text =>
    decide (Template.IsWrapped text.toList ∧ '\n' ∉ text.toList)

theorem templateTexts_append (texts more : List String) :
    templateTexts (texts ++ more) = templateTexts texts ++ templateTexts more := by
  rw [templateTexts, List.map_append, List.filter_append]
  rfl

theorem factoryCalls_compile_str (factory : RendererFactory) (text : String) :
    factoryCalls (Condition.compile factory (.str text)).2 = templateTexts [text] := by
  rw [Condition.factoryCalls_compile, templateTexts, List.map_singleton, List.filter_singleton]
  simp only [Condition.form_eq_template_iff_isWrapped, toList_trim, Bool.cond_decide]

/-- Texts that all denote conditions hand over the templates among them, before anything that
follows. -/
theorem factoryCalls_compileAll_append {factory : RendererFactory} {before : List String}
    (h : ∀ text ∈ before, ∃ c, (Condition.compile factory (.str text)).1 = .ok c)
    (rest : List String) :
    factoryCalls (compileAll factory ((before ++ rest).map .str)).2 =
      templateTexts before ++ factoryCalls (compileAll factory (rest.map .str)).2 := by
  induction before with
  | nil => rfl
  | cons text before ih =>
      obtain ⟨⟨c, hc⟩, hbefore⟩ := List.forall_mem_cons.mp h
      rw [List.cons_append, List.map_cons, compileAll_cons_of_ok hc, factoryCalls_append,
        ih hbefore, factoryCalls_compile_str, ← List.append_assoc, ← templateTexts_append,
        List.singleton_append]

theorem factoryCalls_ofValues (factory : RendererFactory) (vs : List Value) :
    factoryCalls (ofValues factory vs).2 = factoryCalls (compileAll factory vs).2 := by
  rw [ofValues]
  rcases compileAll factory vs with ⟨fault | conditions, notes⟩
  · rfl
  · rw [factoryCalls_append, factoryCalls_entry, List.append_nil]

/-- The outcome for texts that are compiled in their order: a filter of the conditions that
they denote, or the fault of the first text that denotes none; the factory is handed the
templates among the texts that are compiled. -/
def IsCompiled (factory : RendererFactory) (texts : List String)
    (outcome : Noted (Except CompileFault Filter)) : Prop :=
  (∃ f, outcome.1 = .ok f ∧
    texts.map (fun text => (Condition.compile factory (.str text)).1) = f.conditions.map .ok ∧
    factoryCalls outcome.2 = templateTexts texts) ∨
  ∃ before text after fault, texts = before ++ text :: after ∧
    (∀ earlier ∈ before, ∃ c, (Condition.compile factory (.str earlier)).1 = .ok c) ∧
    (Condition.compile factory (.str text)).1 = .error fault ∧ outcome.1 = .error fault ∧
    factoryCalls outcome.2 = templateTexts (before ++ [text])

theorem isCompiled_ofValues (factory : RendererFactory) (texts : List String) :
    IsCompiled factory texts (ofValues factory (texts.map .str)) := by
  cases hall : (compileAll factory (texts.map .str)).1 with
  | ok cs =>
      have hmap := fst_compileAll_eq_ok_iff.mp hall
      rw [List.map_map] at hmap
      have hbuilt : (ofValues factory (texts.map .str)).1 = .ok ⟨cs⟩ := by
        rw [fst_ofValues, hall]
        rfl
      refine .inl ⟨⟨cs⟩, hbuilt, hmap, ?_⟩
      have hcompile := exists_compile_of_fst_compileAll hall
      rw [List.forall_mem_map] at hcompile
      have hcalls := factoryCalls_compileAll_append hcompile []
      rw [List.append_nil] at hcalls
      rw [factoryCalls_ofValues, hcalls]
      exact List.append_nil _
  | error fault =>
      obtain ⟨before, v, after, hsplit, hbefore, hv⟩ := fst_compileAll_eq_error_iff.mp hall
      obtain ⟨before, rest, rfl, rfl, hrest⟩ := List.map_eq_append_iff.mp hsplit
      obtain ⟨text, after, rfl, rfl, rfl⟩ := List.map_eq_cons_iff.mp hrest
      rw [List.forall_mem_map] at hbefore
      refine .inr ⟨before, text, after, fault, rfl, hbefore, hv, ?_, ?_⟩
      · rw [fst_ofValues, hall]
        rfl
      · rw [factoryCalls_ofValues, factoryCalls_compileAll_append hbefore, List.map_cons,
          compileAll_cons_of_error hv, factoryCalls_compile_str, templateTexts_append]

/-- A row is compiled alike by factories that agree on the templates that are handed over. -/
theorem compileAll_congr {factory other : RendererFactory} {vs : List Value}
    (h : ∀ template ∈ factoryCalls (compileAll factory vs).2, other template = factory template) :
    compileAll other vs = compileAll factory vs := by
  induction vs with
  | nil => rfl
  | cons v vs ih =>
      cases hc : (Condition.compile factory v).1 with
      | error fault =>
          rw [compileAll_cons_of_error hc] at h
          have hv := Condition.compile_congr h
          have hother : (Condition.compile other v).1 = .error fault := by rw [hv, hc]
          rw [compileAll_cons_of_error hc, compileAll_cons_of_error hother, hv]
      | ok c =>
          rw [compileAll_cons_of_ok hc, factoryCalls_append, List.forall_mem_append] at h
          have hv := Condition.compile_congr h.1
          have hother : (Condition.compile other v).1 = .ok c := by rw [hv, hc]
          rw [compileAll_cons_of_ok hc, compileAll_cons_of_ok hother, hv, ih h.2]

theorem ofValues_congr {factory other : RendererFactory} {vs : List Value}
    (h : ∀ template ∈ factoryCalls (ofValues factory vs).2, other template = factory template) :
    ofValues other vs = ofValues factory vs := by
  rw [factoryCalls_ofValues] at h
  rw [ofValues, ofValues, compileAll_congr h]

/-! ## All configurations -/

/-- A configuration without a value, with null, or with a list of texts under a key has these
texts. -/
def HasTexts (config : Fields) (key : String) (texts : List String) : Prop :=
  config.get? key = some (.list (texts.map .str)) ∨
    texts = [] ∧ (config.get? key = none ∨ config.get? key = some .null)

theorem ofConfig_of_hasTexts (factory : RendererFactory) {config : Fields} {key : String}
    {texts : List String} (h : HasTexts config key texts) :
    ofConfig factory config key = ofValues factory (texts.map .str) := by
  rcases h with h | ⟨rfl, h | h⟩
  · exact ofConfig_texts factory h
  · rw [ofConfig, h]
    rfl
  · rw [ofConfig, h]
    rfl

theorem isCompiled_of_hasTexts (factory : RendererFactory) {config : Fields} {key : String}
    {texts : List String} (h : HasTexts config key texts) :
    IsCompiled factory texts (ofConfig factory config key) := by
  rw [ofConfig_of_hasTexts factory h]
  exact isCompiled_ofValues factory texts

/-- A configuration has texts, or a value that is no list, or a list with an item that is no
text. -/
theorem hasTexts_or_invalid (config : Fields) (key : String) :
    (∃ texts, HasTexts config key texts) ∨
      (∃ v, config.get? key = some v ∧ v ≠ .null ∧ ∀ items, v ≠ .list items) ∨
      ∃ items, config.get? key = some (.list items) ∧ ∃ v ∈ items, v.isText = false := by
  cases hget : config.get? key with
  | none => exact .inl ⟨[], .inr ⟨rfl, .inl hget⟩⟩
  | some v =>
      by_cases hnull : v = .null
      · exact .inl ⟨[], .inr ⟨rfl, .inr (hget.trans (congrArg some hnull))⟩⟩
      by_cases hlist : ∃ items, v = .list items
      · obtain ⟨items, rfl⟩ := hlist
        by_cases htext : ∃ v ∈ items, v.isText = false
        · exact .inr (.inr ⟨items, rfl, htext⟩)
        · have hvalid : StageConfig.invalidItems "if" 0 items = [] := by
            rw [StageConfig.invalidItems_eq_map_zipIdx, List.map_eq_nil_iff, List.filter_eq_nil_iff]
            intro item hitem hnot
            exact htext ⟨item.1, List.fst_mem_of_mem_zipIdx hitem, by simpa using hnot⟩
          obtain ⟨texts, rfl⟩ := StageConfig.invalidItems_eq_nil_iff.mp hvalid
          exact .inl ⟨texts, .inl hget⟩
      · exact .inr (.inl ⟨v, rfl, hnull, fun items hv => hlist ⟨items, hv⟩⟩)

theorem ofConfig_congr {factory other : RendererFactory} {config : Fields} {key : String}
    (h : ∀ template ∈ factoryCalls (ofConfig factory config key).2,
      other template = factory template) :
    ofConfig other config key = ofConfig factory config key := by
  rw [ofConfig] at h ⊢
  rw [ofConfig]
  cases htexts : StageConfig.texts "if" ((config.get? key).getD .null) with
  | error errors => rfl
  | ok texts =>
      rw [htexts] at h
      exact ofValues_congr h

theorem IsRejected.not_ok {key : String} {reports : List Value}
    {outcome : Noted (Except CompileFault Filter)} (h : IsRejected key reports outcome)
    (f : Filter) : outcome.1 ≠ .ok f := by
  obtain ⟨p, hp, -, -⟩ := h
  rw [hp]
  nofun

/-- Only the configuration of no texts gives the filter without conditions. -/
theorem exists_filter_without_conditions_iff {factory : RendererFactory} {config : Fields}
    {key : String} :
    (∃ f, (ofConfig factory config key).1 = .ok f ∧ f.conditions = []) ↔
      HasTexts config key [] := by
  constructor
  · rintro ⟨f, hf, hconditions⟩
    rcases hasTexts_or_invalid config key with
      ⟨texts, htexts⟩ | ⟨v, hget, hnull, hlist⟩ | ⟨items, hget, htext⟩
    · rcases isCompiled_of_hasTexts factory htexts with
        ⟨g, hg, hmap, -⟩ | ⟨before, text, after, fault, -, -, -, herror, -⟩
      · obtain rfl : g = f := Except.ok.inj (hg.symm.trans hf)
        rw [hconditions, List.map_nil, List.map_eq_nil_iff] at hmap
        rwa [hmap] at htexts
      · cases herror.symm.trans hf
    · exact absurd hf ((isRejected_of_not_list factory hget hnull hlist).not_ok f)
    · exact absurd hf ((isRejected_of_not_text factory hget htext).not_ok f)
  · intro h
    rw [ofConfig_of_hasTexts factory h]
    exact ⟨⟨[]⟩, rfl, rfl⟩

/-- No configuration is taken for one without conditions: only a missing value, null and the
empty list give the filter without conditions. What is no list of texts is rejected before
anything is compiled, with the key and a report for the list or for each item at fault. A
list of texts is compiled in its order, up to the first text at fault, and the factory is
handed the templates up to there and decides about nothing else. -/
theorem config_compiled_or_rejected (factory : RendererFactory) (config : Fields) (key : String) :
    ((∃ f, (ofConfig factory config key).1 = .ok f ∧ f.conditions = []) ↔
      config.get? key = none ∨ config.get? key = some .null ∨ config.get? key = some (.list [])) ∧
    (∀ v, config.get? key = some v → v ≠ .null → (∀ items, v ≠ .list items) →
      IsRejected key [listReport v] (ofConfig factory config key)) ∧
    (∀ items, config.get? key = some (.list items) → (∃ v ∈ items, v.isText = false) →
      IsRejected key (textReports items) (ofConfig factory config key)) ∧
    (∀ texts, HasTexts config key texts →
      ofConfig factory config key = ofValues factory (texts.map .str) ∧
      IsCompiled factory texts (ofConfig factory config key)) ∧
    ∀ other : RendererFactory,
      (∀ template ∈ factoryCalls (ofConfig factory config key).2,
        other template = factory template) →
      ofConfig other config key = ofConfig factory config key := by
  refine ⟨?_, ?_, ?_, ?_, ?_⟩
  · rw [exists_filter_without_conditions_iff, HasTexts]
    simp only [List.map_nil, true_and]
    exact or_comm.trans or_assoc
  · intro v hget hnull hlist
    exact isRejected_of_not_list factory hget hnull hlist
  · intro items hget htext
    exact isRejected_of_not_text factory hget htext
  · intro texts h
    exact ⟨ofConfig_of_hasTexts factory h, isCompiled_of_hasTexts factory h⟩
  · intro other h
    exact ofConfig_congr h

/-- An empty text under the key, a list with a number and null in it, and texts of which the
second is at fault. -/
theorem invalid_configs_rejected :
    IsRejected "when" [listReport (.str "")]
      (ofConfig (.standard default) [("when", .str "")] "when") ∧
    IsRejected "if" [textReport (.int 1) 1, textReport .null 2]
      (ofConfig (.standard default) [("if", .list [.str "Exist(a)", .int 1, .null])] "if") ∧
    IsCompiled (.ofValues []) [" \x7b\x7ba\x7d\x7d", "Missing(b)", "\x7b\x7bc\x7d\x7d"]
      (ofConfig (.ofValues []) [("if", .texts [" \x7b\x7ba\x7d\x7d", "Missing(b)",
        "\x7b\x7bc\x7d\x7d"])] "if") ∧
    factoryCalls (ofConfig (.ofValues []) [("if", .texts [" \x7b\x7ba\x7d\x7d", "Missing(b)",
      "\x7b\x7bc\x7d\x7d"])] "if").2 = ["\x7b\x7ba\x7d\x7d"] := by
  refine ⟨?_, ?_, ?_, by decide +kernel⟩
  · obtain ⟨-, hlist, -⟩ :=
      config_compiled_or_rejected (.standard default) [("when", .str "")] "when"
    exact hlist (.str "") rfl nofun nofun
  · obtain ⟨-, -, hitems, -⟩ := config_compiled_or_rejected (.standard default)
      [("if", .list [.str "Exist(a)", .int 1, .null])] "if"
    exact hitems _ rfl ⟨.int 1, by simp, rfl⟩
  · obtain ⟨-, -, -, htexts, -⟩ := config_compiled_or_rejected (.ofValues [])
      [("if", .texts [" \x7b\x7ba\x7d\x7d", "Missing(b)", "\x7b\x7bc\x7d\x7d"])] "if"
    exact (htexts _ (.inl rfl)).2

end Filter

end EventSieve
