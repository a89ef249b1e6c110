import EventSieve.Proofs.Filter.Writing
import EventSieve.Stage

/-!
# Faults that are reported

A condition that does not compile is to be reported as a problem with the
configuration: of its syntax, of its literal or of its template. Two faults escape
the reports. A template with a null character in it has a fault of its own, and a
value that is no text cannot be shown if it holds an integer that is too long to be
written. Such an integer also keeps the start of a stage from writing its report on a
configuration. The theorem at the end says that nothing else escapes, for one
condition, for a row of them, for a configuration and for the start of a stage.
-/

namespace EventSieve

open Text Expression

/-- A result, or a problem of one of some families. -/
def IsReported (families : List ProblemFamily) {α : Type} : Except CompileFault α → Prop
  | .ok _ => True
  | .error (.problem p) => p.family ∈ families
  | .error .nullCharacter => False
  | .error .unwritable => False

def conditionFamilies : List ProblemFamily := [.conditionSyntax, .literal, .template]

def configurationFamilies : List ProblemFamily := .configuration :: conditionFamilies

@[simp] theorem isReported_ok {families : List ProblemFamily} {α : Type} (a : α) :
    IsReported families (.ok a) := trivial

@[simp] theorem isReported_problem {families : List ProblemFamily} {α : Type} (p : Problem) :
    IsReported families (.error (.problem p) : Except CompileFault α) ↔ p.family ∈ families :=
  Iff.rfl

/-- Whether a fault is reported does not depend on what would have come of it. -/
theorem isReported_error {families : List ProblemFamily} {α β : Type} (fault : CompileFault) :
    IsReported families (.error fault : Except CompileFault α) ↔
      IsReported families (.error fault : Except CompileFault β) := by
  cases fault with
  | problem p => rfl
  | nullCharacter => rfl
  | unwritable => rfl

@[simp] theorem isReported_map {families : List ProblemFamily} {α β : Type} (f : α → β)
    (result : Except CompileFault α) :
    IsReported families (result.map f) ↔ IsReported families result := by
  cases result with
  | error fault => exact isReported_error fault
  | ok a => rfl

/-! ## Templates -/

namespace Template

/-- The fault of a null character is that of a template that holds one, whatever else is
wrong with the template. -/
theorem read_eq_nullCharacter_iff {source : String} {body : List Char}
    (h : source.toList = "\x7b\x7b".toList ++ (body ++ "\x7d\x7d".toList)) :
    read source = .error .nullCharacter ↔ '\x00' ∈ source.toList := by
  have hbody : '\x00' ∈ source.toList ↔ '\x00' ∈ trimChars body := by
    rw [h, mem_trimChars_iff_of_not_blank (by decide)]
    simp
  rw [hbody, read, h, unwrap?_braces]
  by_cases hnull : '\x00' ∈ trimChars body
  · have hne : (String.ofList (trimChars body)).isEmpty = false := by
      rw [← Bool.not_eq_true, String.isEmpty_iff]
      intro hempty
      rw [← String.toList_eq_nil_iff, String.toList_ofList] at hempty
      rw [hempty] at hnull
      cases hnull
    simp [hne, hnull]
  · simp only [String.toList_ofList, hnull, if_false, iff_false]
    intro hread
    repeat' split at hread
    all_goals cases hread

end Template

theorem TemplateFault.problem?_eq_some {fault : TemplateFault} (h : fault ≠ .nullCharacter)
    (w : Wording) (source : String) :
    ∃ p, fault.problem? w source = some p ∧ p.family = .template := by
  cases fault with
  | nullCharacter => exact absurd rfl h
  | unwrapped => exact ⟨_, rfl, rfl⟩
  | blank => exact ⟨_, rfl, rfl⟩
  | unreadable => exact ⟨_, rfl, rfl⟩
  | noSingleExpression => exact ⟨_, rfl, rfl⟩
  | computedCallee => exact ⟨_, rfl, rfl⟩

/-! ## One condition -/

namespace Condition

def HoldsNull (text : String) : Prop :=
  form (trimChars text.toList) = .template ∧ '\x00' ∈ text.toList

/-- A value whose fault no problem reports: a template with a null character, or no text and
too long to be shown. -/
def IsUnreportable : Value → Prop
  | .str text => HoldsNull text
  | v => v.isWritable = false

theorem isUnreportable_iff {v : Value} (h : ∀ text, v ≠ .str text) :
    IsUnreportable v ↔ v.isWritable = false := by
  cases v with
  | str text => exact absurd rfl (h text)
  | null => rfl
  | bool b => rfl
  | int n => rfl
  | float x => rfl
  | list items => rfl
  | map fields => rfl

end Condition

section Families

variable {families : List ProblemFamily} (hsub : conditionFamilies ⊆ families)

include hsub

theorem RendererFactory.isReported_standard_iff {w : Wording} {source : String} :
    IsReported families (standard w source) ↔ Template.read source ≠ .error .nullCharacter := by
  rw [standard]
  cases hread : Template.read source with
  | ok t => simp
  | error fault =>
      by_cases hfault : fault = .nullCharacter
      · rw [hfault]
        simp [TemplateFault.problem?, IsReported]
      · obtain ⟨p, hp, hfamily⟩ := TemplateFault.problem?_eq_some hfault w source
        have hmem : ProblemFamily.template ∈ families := hsub (by decide)
        simp [hp, hfamily, hfault, hmem]

namespace Condition

theorem isReported_syntaxProblem {α : Type} (message text : String) :
    IsReported families (.error (syntaxProblem message text) : Except CompileFault α) := by
  have hmem : ProblemFamily.conditionSyntax ∈ families := hsub (by decide)
  exact hmem

theorem isReported_existOf (text : String) (body : List Char) :
    IsReported families (existOf text body) := by
  rw [existOf]
  split
  · exact isReported_syntaxProblem hsub _ _
  · trivial

theorem isReported_eqOf (text : String) (body : List Char) :
    IsReported families (eqOf text body) := by
  rw [eqOf]
  split
  · exact isReported_syntaxProblem hsub _ _
  · split
    · split
      · trivial
      · next fault _ =>
        rw [isReported_problem, LiteralFault.family_problem]
        exact hsub (by decide)
    · exact isReported_syntaxProblem hsub _ _

/-- Only the factory of a template may fail in a way of its own. -/
theorem isReported_ofTrimmed_iff {factory : RendererFactory} {text : String} :
    IsReported families (ofTrimmed factory text) ↔
      (form text.toList = .template → IsReported families (factory text)) := by
  rw [ofTrimmed]
  cases form text.toList with
  | template => simp [templateOf]
  | exist body => simp [isReported_existOf hsub]
  | eq body => simp [isReported_eqOf hsub]
  | unknown => simp [isReported_syntaxProblem hsub]

theorem isReported_ofText_iff {w : Wording} {text : String} :
    IsReported families (ofText (.standard w) text) ↔ ¬ HoldsNull text := by
  rw [ofText, isReported_ofTrimmed_iff hsub, toList_trim, HoldsNull, not_and]
  refine forall_congr' fun hform => ?_
  obtain ⟨body, hbody, -⟩ := form_eq_template_iff.mp hform
  rw [RendererFactory.isReported_standard_iff hsub, ne_eq,
    Template.read_eq_nullCharacter_iff ((toList_trim text).trans hbody), toList_trim,
    mem_trimChars_iff_of_not_blank (by decide)]

theorem isReported_notText_iff {v : Value} :
    IsReported families (.error (notText v) : Except CompileFault Condition) ↔
      v.isWritable = true := by
  have hmem : ProblemFamily.conditionSyntax ∈ families := hsub (by decide)
  rw [notText]
  split
  · next h => simp [h, Problem.conditionSyntax, hmem]
  · next h => simp [h, IsReported]

theorem isReported_compile_iff {w : Wording} {v : Value} :
    IsReported families (compile (.standard w) v).1 ↔ ¬ IsUnreportable v := by
  by_cases h : ∃ text, v = .str text
  · obtain ⟨text, rfl⟩ := h
    rw [compile_str, isReported_ofText_iff hsub, IsUnreportable]
  · have htext : ∀ text, v ≠ .str text := fun text hv => h ⟨text, hv⟩
    rw [compile_of_ne_str htext, isReported_notText_iff hsub, isUnreportable_iff htext,
      Bool.not_eq_false]

end Condition

end Families

/-! ## Rows of conditions -/

/-- The first value of a row that does not compile is one that cannot be reported. -/
def StopsUnreported (w : Wording) (vs : List Value) : Prop :=
  ∃ before v after, vs = before ++ v :: after ∧
    (∀ u ∈ before, ∃ c, (Condition.compile (.standard w) u).1 = .ok c) ∧ Condition.IsUnreportable v

theorem not_stopsUnreported_nil (w : Wording) : ¬ StopsUnreported w [] := by
  rintro ⟨before, v, after, h, -⟩
  simp at h

theorem stopsUnreported_cons {w : Wording} {v : Value} {vs : List Value} :
    StopsUnreported w (v :: vs) ↔
      Condition.IsUnreportable v ∨
        (∃ c, (Condition.compile (.standard w) v).1 = .ok c) ∧ StopsUnreported w vs := by
  constructor
  · rintro ⟨before, u, after, h, hbefore, hu⟩
    cases before with
    | nil =>
        rw [List.nil_append, List.cons.injEq] at h
        rw [h.1]
        exact .inl hu
    | cons first before =>
        rw [List.cons_append, List.cons.injEq] at h
        obtain ⟨rfl, hvs⟩ := h
        refine .inr ⟨hbefore v List.mem_cons_self, before, u, after, hvs, ?_, hu⟩
        intro x hx
        exact hbefore x (List.mem_cons_of_mem v hx)
  · rintro (hv | ⟨hv, before, u, after, rfl, hbefore, hu⟩)
    · exact ⟨[], v, vs, rfl, by simp, hv⟩
    · refine ⟨v :: before, u, after, rfl, ?_, hu⟩
      intro x hx
      rcases List.mem_cons.mp hx with rfl | hx
      · exact hv
      · exact hbefore x hx

namespace Filter

theorem isReported_compileAll_iff {w : Wording} {families : List ProblemFamily}
    (hsub : conditionFamilies ⊆ families) {vs : List Value} :
    IsReported families (compileAll (.standard w) vs).1 ↔ ¬ StopsUnreported w vs := by
  induction vs with
  | nil => simpa [compileAll] using not_stopsUnreported_nil w
  | cons v vs ih =>
      have hv := Condition.isReported_compile_iff hsub (w := w) (v := v)
      rw [stopsUnreported_cons, fst_compileAll_cons]
      cases hc : (Condition.compile (.standard w) v).1 with
      | error fault =>
          rw [hc, isReported_error (β := List Condition)] at hv
          simpa using hv
      | ok c =>
          rw [hc] at hv
          simp only [isReported_ok, true_iff] at hv
          simp [hv, ih]

theorem isReported_ofValues_iff {w : Wording} {families : List ProblemFamily}
    (hsub : conditionFamilies ⊆ families) {vs : List Value} :
    IsReported families (ofValues (.standard w) vs).1 ↔ ¬ StopsUnreported w vs := by
  rw [fst_ofValues, isReported_map, isReported_compileAll_iff hsub]

/-! ## Configurations -/

def ConfigStopsUnreported (w : Wording) (config : Fields) (key : String) : Prop :=
  ∃ texts : List String, config.get? key = some (.list (texts.map .str)) ∧
    StopsUnreported w (texts.map .str)

theorem isReported_ofConfig_iff {w : Wording} {config : Fields} {key : String} :
    IsReported configurationFamilies (ofConfig (.standard w) config key).1 ↔
      ¬ ConfigStopsUnreported w config key := by
  have hsub : conditionFamilies ⊆ configurationFamilies := List.subset_cons_self _ _
  by_cases h : ∃ texts : List String, config.get? key = some (.list (texts.map .str))
  · obtain ⟨texts, htexts⟩ := h
    have hstops : ConfigStopsUnreported w config key ↔ StopsUnreported w (texts.map .str) := by
      constructor
      · rintro ⟨others, hothers, hstops⟩
        rw [htexts, Option.some.injEq, Value.list.injEq] at hothers
        rwa [hothers]
      · intro hstops
        exact ⟨texts, htexts, hstops⟩
    rw [ofConfig_texts (.standard w) htexts, isReported_ofValues_iff hsub, hstops]
  · have hnot : ¬ ConfigStopsUnreported w config key := by
      rintro ⟨texts, htexts, -⟩
      exact h ⟨texts, htexts⟩
    simp only [hnot, not_false_eq_true, iff_true]
    rcases ofConfig_of_ne_texts (.standard w) (fun texts ht => h ⟨texts, ht⟩) with
      hconfig | ⟨errors, hconfig⟩
    · rw [hconfig, isReported_ofValues_iff hsub]
      exact not_stopsUnreported_nil w
    · rw [hconfig]
      exact List.mem_cons_self

end Filter

/-! ## Starting a stage -/

theorem concernsConfiguration_iff {p : Problem} :
    p.concernsConfiguration = true ↔ p.family ∈ configurationFamilies := by
  rw [Problem.concernsConfiguration]
  cases p.family with
  | pipeline => decide
  | configuration => decide
  | conditionSyntax => decide
  | literal => decide
  | template => decide

/-- A start that ends with a filter, or with a report and the exit that follows it. -/
def Start.IsOrderly (s : Start) : Prop :=
  (∃ f, s.outcome = .ok f) ∨ ∃ p, s.outcome = .error (.exit p)

namespace Stage

theorem isOrderly_outcome_iff {context : Context} {service : String}
    {result : Noted (Except CompileFault Filter)} :
    ((∃ f, (outcome context service result).1 = .ok f) ∨
        ∃ p, (outcome context service result).1 = .error (.exit p)) ↔
      IsReported configurationFamilies result.1 ∧
        ∀ p, result.1 = .error (.problem p) → Value.areWritableFields p.details = true := by
  rcases result with ⟨(p | - | -) | f, notes⟩
  · rw [isReported_problem, ← concernsConfiguration_iff, outcome]
    by_cases hp : p.concernsConfiguration <;>
      cases hdetails : Value.areWritableFields p.details <;>
        simp [hp, isWritable_exitEntry, hdetails]
  · simp [outcome, IsReported]
  · simp [outcome, IsReported]
  · simp [outcome]

theorem isOrderly_start_iff {w : Wording} {previous : Context} {config : Fields}
    {settings : Settings} {stage : Option String} :
    (start (.standard w) previous config settings stage).IsOrderly ↔
      (Level.named? settings.logLevel).isSome ∧
        ¬ Filter.ConfigStopsUnreported w config settings.conditionKey ∧
        ¬ Filter.ConfigUnwritable config settings.conditionKey := by
  rw [Start.IsOrderly, start, startIn, Journal.opened?_none]
  cases Level.named? settings.logLevel with
  | none => simp
  | some threshold =>
      simp only [Option.isSome_some, true_and]
      rw [← Filter.isReported_ofConfig_iff]
      exact isOrderly_outcome_iff.trans
        (and_congr_right fun _ => Filter.isWritable_details_ofConfig_iff)

end Stage

/-- Every fault is reported but those of a template with a null character and of a value that
cannot be shown, for a condition, for a row of them, for a configuration and at the start of
a stage whose level is known; such a start also has to write its report. -/
theorem faults_reported_exactly (w : Wording) (v : Value) (vs : List Value) (config : Fields)
    (key : String) (previous : Context) (settings : Settings) (stage : Option String) :
    (IsReported conditionFamilies (Condition.compile (.standard w) v).1 ↔
      ¬ Condition.IsUnreportable v) ∧
    (IsReported conditionFamilies (Filter.ofValues (.standard w) vs).1 ↔ ¬ StopsUnreported w vs) ∧
    (IsReported configurationFamilies (Filter.ofConfig (.standard w) config key).1 ↔
      ¬ Filter.ConfigStopsUnreported w config key) ∧
    ((Stage.start (.standard w) previous config settings stage).IsOrderly ↔
      (Level.named? settings.logLevel).isSome ∧
        ¬ Filter.ConfigStopsUnreported w config settings.conditionKey ∧
        ¬ Filter.ConfigUnwritable config settings.conditionKey) := by
  refine ⟨?_, ?_, ?_, ?_⟩
  · exact Condition.isReported_compile_iff (List.Subset.refl _)
  · exact Filter.isReported_ofValues_iff (List.Subset.refl _)
  · exact Filter.isReported_ofConfig_iff
  · exact Stage.isOrderly_start_iff

/-- The shortest template with a null character is not reported. -/
theorem null_template_not_reported :
    ¬ IsReported conditionFamilies
      (Condition.compile (.standard default) (.str "\x7b\x7b\x00\x7d\x7d")).1 := by
  rw [Condition.isReported_compile_iff (List.Subset.refl _), not_not]
  refine ⟨?_, ?_⟩
  · rw [Condition.form_eq_template_iff]
    exact ⟨['\x00'], by decide, by decide⟩
  · decide

end EventSieve
