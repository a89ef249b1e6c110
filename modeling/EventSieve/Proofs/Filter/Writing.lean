import EventSieve.Proofs.Filter.Configuration

/-!
# Reports that cannot be written

The details of a problem are written into the journal, where an integer may be too long. The
problems of conditions are put in texts, so that only the report on a configuration shows
values: it can be written unless the value that it is about, or an item at fault in it, holds
such an integer.
-/

namespace EventSieve

theorem Invalid.isWritable_report_iff {e : Invalid} :
    Value.areWritableFields e.report = true ↔
      (∀ i ∈ e.index, i < Value.longInteger) ∧ e.input.isWritable = true := by
  rcases e with ⟨expected, key, index, input⟩
  cases expected <;> cases key <;> cases index <;>
    simp [report, location, Value.areWritableFields_eq_all, Value.areWritable_eq_all,
      Value.isWritable]

theorem TemplateFault.isWritable_details {fault : TemplateFault} {w : Wording} {source : String}
    {p : Problem} (h : fault.problem? w source = some p) :
    Value.areWritableFields p.details = true := by
  cases fault <;> cases h <;> rfl

theorem LiteralFault.isWritable_details (fault : LiteralFault) (token : String) :
    Value.areWritableFields (fault.problem token).details = true := by
  cases fault <;> rfl

namespace Condition

variable {w : Wording} {p : Problem}

theorem isWritable_details_of_ofTrimmed {text : String}
    (h : ofTrimmed (.standard w) text = .error (.problem p)) :
    Value.areWritableFields p.details = true := by
  rw [ofTrimmed] at h
  split at h
  · cases hread : Template.read text with
    | ok t =>
        rw [templateOf, RendererFactory.standard, hread] at h
        cases h
    | error fault =>
        rw [templateOf, RendererFactory.standard, hread] at h
        cases hp : fault.problem? w text with
        | none =>
            simp only [hp] at h
            cases h
        | some q =>
            simp only [hp] at h
            cases h
            exact TemplateFault.isWritable_details hp
  · rw [existOf] at h
    split at h
    · cases h
      rfl
    · cases h
  · rw [eqOf] at h
    split at h
    · cases h
      rfl
    · split at h
      · split at h
        · cases h
        · cases h
          exact LiteralFault.isWritable_details _ _
      · cases h
        rfl
  · cases h
    rfl

/-- The problem of a condition is put in texts only. -/
theorem isWritable_details_of_compile {v : Value}
    (h : (compile (.standard w) v).1 = .error (.problem p)) :
    Value.areWritableFields p.details = true := by
  by_cases htext : ∃ text, v = .str text
  · obtain ⟨text, rfl⟩ := htext
    rw [compile_str, ofText] at h
    dsimp only at h
    exact isWritable_details_of_ofTrimmed h
  · rw [compile_of_ne_str fun text hv => htext ⟨text, hv⟩] at h
    simp only [notText] at h
    split at h
    · cases h
      rfl
    · cases h

end Condition

namespace Filter

theorem isWritable_details_of_ofValues {w : Wording} {vs : List Value} {p : Problem}
    (h : (ofValues (.standard w) vs).1 = .error (.problem p)) :
    Value.areWritableFields p.details = true := by
  rw [fst_ofValues] at h
  cases hall : (compileAll (.standard w) vs).1 with
  | ok cs =>
      rw [hall] at h
      cases h
  | error fault =>
      rw [hall] at h
      cases h
      obtain ⟨before, v, after, -, -, hv⟩ := fst_compileAll_eq_error_iff.mp hall
      exact Condition.isWritable_details_of_compile hv

/-- A value that holds an integer that is too long to be written, or a list in which an item that
is no text has an index that is. -/
def ReportsUnwritable (v : Value) : Prop :=
  v.isWritable = false ∨ ∃ items, v = .list items ∧
    ∃ i item, items[i]? = some item ∧ item.isText = false ∧ Value.longInteger ≤ i

def ConfigUnwritable (config : Fields) (key : String) : Prop :=
  ReportsUnwritable ((config.get? key).getD .null)

theorem isWritable_details_invalidConfig_iff (key : String) {errors : List Invalid} :
    Value.areWritableFields (invalidConfig key errors).details = true ↔
      ∀ e ∈ errors, Value.areWritableFields e.report = true := by
  simp [invalidConfig, Problem.configuration, Value.areWritableFields_eq_all,
    Value.areWritable_eq_all, Value.isWritable]

theorem isWritable_invalidItems_iff {key : String} {items : List Value} :
    (∀ e ∈ StageConfig.invalidItems key 0 items, Value.areWritableFields e.report = true) ↔
      ∀ i item, items[i]? = some item → item.isText = false →
        i < Value.longInteger ∧ item.isWritable = true := by
  simp only [StageConfig.invalidItems_eq_map_zipIdx, List.mem_map, List.mem_filter,
    List.mem_zipIdx_iff_getElem?, Bool.not_eq_true', Prod.exists]
  constructor
  · intro h i item hitem htext
    have he := h _ ⟨item, i, ⟨hitem, htext⟩, rfl⟩
    rw [Invalid.isWritable_report_iff] at he
    exact ⟨he.1 i rfl, he.2⟩
  · rintro h e ⟨item, i, ⟨hitem, htext⟩, rfl⟩
    obtain ⟨hindex, hwritable⟩ := h i item hitem htext
    exact Invalid.isWritable_report_iff.mpr ⟨fun _ hi => Option.some.inj hi ▸ hindex, hwritable⟩

theorem reportsUnwritable_list_iff {items : List Value} :
    ReportsUnwritable (.list items) ↔
      ¬ ∀ i item, items[i]? = some item → item.isText = false →
        i < Value.longInteger ∧ item.isWritable = true := by
  have hitems : (Value.list items).isWritable = true ↔
      ∀ (i : Nat) (item : Value), items[i]? = some item → item.isText = false →
        item.isWritable = true := by
    rw [Value.isWritable, Value.areWritable_eq_all, List.all_eq_true]
    constructor
    · intro h i item hitem _
      exact h item (List.mem_of_getElem? hitem)
    · intro h item hmem
      obtain ⟨i, hitem⟩ := List.mem_iff_getElem?.mp hmem
      cases item with
      | str s => rfl
      | _ => exact h i _ hitem rfl
  rw [ReportsUnwritable, ← Bool.not_eq_true, hitems]
  constructor
  · rintro (hitem | ⟨others, hothers, i, item, hitem, htext, hindex⟩) h
    · exact hitem fun i item hi htext => (h i item hi htext).2
    · cases hothers
      exact absurd (h i item hitem htext).1 (Nat.not_lt.mpr hindex)
  · intro h
    by_contra hnone
    rw [not_or, not_not] at hnone
    refine h fun i item hitem htext => ⟨?_, hnone.1 i item hitem htext⟩
    by_contra hindex
    exact hnone.2 ⟨items, rfl, i, item, hitem, htext, Nat.not_lt.mp hindex⟩

/-- The reports on a value that is not a list of texts are written unless it cannot be. -/
theorem isWritable_errors_iff {key : String} {v : Value} {errors : List Invalid}
    (h : StageConfig.texts key v = .error errors) :
    (∀ e ∈ errors, Value.areWritableFields e.report = true) ↔ ¬ ReportsUnwritable v := by
  by_cases hlist : ∃ items, v = .list items
  · obtain ⟨items, rfl⟩ := hlist
    rw [StageConfig.texts] at h
    split at h
    · cases h
    · cases h
      rw [reportsUnwritable_list_iff, not_not, isWritable_invalidItems_iff]
  · have hnull : v ≠ .null := by
      rintro rfl
      cases h
    rw [StageConfig.texts_of_not_list hnull fun items hv => hlist ⟨items, hv⟩] at h
    cases h
    simp [Invalid.isWritable_report_iff, ReportsUnwritable, not_exists.mp hlist]

theorem not_reportsUnwritable_of_texts {key : String} {v : Value} {result : Option (List String)}
    (h : StageConfig.texts key v = .ok result) : ¬ ReportsUnwritable v := by
  rcases StageConfig.texts_eq_ok h with ⟨rfl, -⟩ | ⟨items, rfl, -⟩
  · simp [ReportsUnwritable, Value.isWritable]
  · rw [reportsUnwritable_list_iff, not_not]
    intro i item hitem htext
    obtain ⟨text, -, rfl⟩ := List.mem_map.mp (List.mem_of_getElem? hitem)
    cases htext

/-- Every problem that a configuration has is reported in writing, unless the configuration
itself cannot be written. -/
theorem isWritable_details_ofConfig_iff {w : Wording} {config : Fields} {key : String} :
    (∀ p, (ofConfig (.standard w) config key).1 = .error (.problem p) →
      Value.areWritableFields p.details = true) ↔ ¬ ConfigUnwritable config key := by
  rw [ofConfig, ConfigUnwritable]
  cases htexts : StageConfig.texts "if" ((config.get? key).getD .null) with
  | ok texts =>
      refine iff_of_true ?_ (not_reportsUnwritable_of_texts htexts)
      exact fun p hp => isWritable_details_of_ofValues hp
  | error errors =>
      rw [← isWritable_errors_iff htexts, ← isWritable_details_invalidConfig_iff key]
      constructor
      · intro h
        exact h _ rfl
      · rintro h p hp
        cases hp
        exact h

end Filter

end EventSieve
