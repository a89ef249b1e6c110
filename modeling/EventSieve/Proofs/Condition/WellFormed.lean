import EventSieve.Proofs.Condition.Evaluation
import EventSieve.Proofs.Condition.Layout
import EventSieve.Proofs.Condition.Templates
import EventSieve.Proofs.Number.Reading

/-!
# Well-formed conditions

A condition that is put together by hand may have no answer: it may lack a renderer
or a path, or be of a kind that does not exist. `WellFormed` says that a condition
has the fields of its kind and no others. Every compiled condition is well formed,
whatever the factory of its renderer, and every well-formed condition has an answer
on every event on which its renderer raises no error. A renderer of the library raises
one where a key that is missing cannot be written.
-/

namespace EventSieve

open Text Expression

theorem IsSegment.trim_eq {s : String} (h : IsSegment s) : Text.trim s = s := by
  rw [← String.toList_inj, toList_trim, h.trimmed.trimChars_eq]

/-! ## Values of literals -/

namespace Literal

/-- A value that a literal denotes: a text, an integer of 32 bits, or a double that is not
undefined. -/
def IsDenoted : Value → Prop
  | .str _ => True
  | .int n => least ≤ n ∧ n ≤ greatest
  | .float x => Binary64.isUndefined x = false
  | _ => False

theorem mem_range_of_readInteger {token : String} {n : Int} (h : readInteger token = .ok n) :
    least ≤ n ∧ n ≤ greatest := by
  rw [readInteger, readInBase] at h
  split at h
  · cases h
  · split at h
    · next hrange =>
      cases h
      exact hrange
    · cases h

theorem isDenoted_of_read {token : String} {v : Value} (h : read token = .ok v) : IsDenoted v := by
  rw [read] at h
  split at h
  · cases h
  · split at h
    · cases h
      trivial
    · split at h
      · next hpoint =>
        split at h
        · next x hx =>
          cases h
          exact Decimal.isUndefined_of_read?_of_point hx hpoint
        · cases h
      · cases hn : readInteger token with
        | error fault =>
            rw [hn] at h
            cases h
        | ok n =>
            rw [hn] at h
            cases h
            exact mem_range_of_readInteger hn

end Literal

namespace Condition

/-- The fields that the kind of a condition needs are set, and no others. -/
def WellFormed (c : Condition) : Prop :=
  c.expected = "y" ∧
    match c.kind with
    | .template => c.renderer.isSome ∧ c.path = [] ∧ c.value = .null
    | .exist => c.renderer.isNone ∧ IsPath c.path ∧ c.value = .null
    | .eq => c.renderer.isNone ∧ IsPath c.path ∧ Literal.IsDenoted c.value
    | .other _ => False

theorem wellFormed_ofRenderer (source : String) (r : Renderer) :
    (ofRenderer source r).WellFormed := ⟨rfl, rfl, rfl, rfl⟩

theorem wellFormed_ofPath (source : String) {path : List String} (hpath : IsPath path) :
    (ofPath source path).WellFormed := ⟨rfl, rfl, hpath, rfl⟩

theorem wellFormed_ofPathValue (source : String) {path : List String} (hpath : IsPath path)
    {v : Value} (hv : Literal.IsDenoted v) : (ofPathValue source path v).WellFormed :=
  ⟨rfl, rfl, hpath, hv⟩

theorem WellFormed.isSegment_of_mem_path {c : Condition} (h : c.WellFormed) {s : String}
    (hs : s ∈ c.path) : IsSegment s := by
  obtain ⟨-, hkind⟩ := h
  split at hkind
  · rw [hkind.2.1] at hs
    cases hs
  · exact hkind.2.1.2 s hs
  · exact hkind.2.1.2 s hs
  · exact hkind.elim

def Raises (c : Condition) (m : Memory) (event : Event) (error : String) : Prop :=
  ∃ r, c.renderer = some r ∧ r.render m event = .raised error

theorem answer_eq_error_iff {expected : String} {rendering : Rendering} {fault : ConditionFault} :
    answer expected rendering = .error fault ↔
      ∃ error, rendering = .raised error ∧ fault = .renderer error := by
  cases rendering with
  | result o => simp [answer]
  | failed error => simp [answer]
  | raised error => simp [answer, eq_comm]

theorem not_raises_of_renderer_isNone {c : Condition} (h : c.renderer.isNone) (m : Memory)
    (event : Event) (error : String) : ¬ c.Raises m event error := by
  rintro ⟨r, hr, -⟩
  rw [hr] at h
  cases h

/-- A well-formed condition has what its answer needs, unless its renderer raises an error. -/
theorem WellFormed.evaluate_eq_error_iff {c : Condition} (h : c.WellFormed) {m : Memory}
    {event : Event} {fault : ConditionFault} :
    (c.evaluate m event).1 = .error fault ↔
      ∃ error, c.Raises m event error ∧ fault = .renderer error := by
  obtain ⟨-, hfields⟩ := h
  rw [evaluate]
  cases hkind : c.kind with
  | template =>
      rw [hkind] at hfields
      obtain ⟨r, hr⟩ := Option.isSome_iff_exists.mp hfields.1
      simp only [hr, answer_eq_error_iff, Raises, Option.some.injEq, exists_eq_left']
  | exist =>
      rw [hkind] at hfields
      rw [resolve_of_path_ne_nil hfields.2.1.1]
      simp [Except.map, not_raises_of_renderer_isNone hfields.1]
  | eq =>
      rw [hkind] at hfields
      rw [resolve_of_path_ne_nil hfields.2.1.1]
      simp [Except.map, not_raises_of_renderer_isNone hfields.1]
  | other name =>
      rw [hkind] at hfields
      exact hfields.elim

theorem WellFormed.exists_answer_iff {c : Condition} (h : c.WellFormed) {m : Memory}
    {event : Event} :
    (∃ b, (c.evaluate m event).1 = .ok b) ↔ ∀ error, ¬ c.Raises m event error := by
  cases hanswer : (c.evaluate m event).1 with
  | ok b =>
      simp only [Except.ok.injEq, exists_eq', true_iff]
      intro error hraises
      rw [h.evaluate_eq_error_iff.mpr ⟨error, hraises, rfl⟩] at hanswer
      cases hanswer
  | error fault =>
      obtain ⟨error, hraises, -⟩ := h.evaluate_eq_error_iff.mp hanswer
      simp only [reduceCtorEq, exists_false, false_iff, not_forall, not_not]
      exact ⟨error, hraises⟩

theorem wellFormed_of_compile {factory : RendererFactory} {text : String} {c : Condition}
    (h : (compile factory (.str text)).1 = .ok c) : c.WellFormed := by
  rcases compile_eq_ok_iff.mp h with
    ⟨-, r, -, rfl⟩ | ⟨body, path, hform, hargs, rfl⟩ |
    ⟨body, path, token, v, hform, hne, hargs, hv, rfl⟩
  · exact wellFormed_ofRenderer _ r
  · exact wellFormed_ofPath _ (isPath_of_form_exist hform hargs)
  · have htokens := isPath_append_singleton_iff.mp (isPath_of_form_eq hform hargs)
    exact wellFormed_ofPathValue _ ⟨hne, htokens.1⟩ (Literal.isDenoted_of_read hv)

/-! ## Renderers of the library -/

/-- An evaluation misses a key that cannot be written. -/
def MissesUnwritableKey (t : Template) (m : Memory) (event : Event) : Prop :=
  ∃ key, t.tree.evaluate m event = .error (.missingKey key) ∧ key.written? m = none

theorem render_ofTemplate_eq_raised_iff {w : Wording} {t : Template} {m : Memory} {event : Event}
    {error : String} :
    (Renderer.ofTemplate w t).render m event = .raised error ↔
      MissesUnwritableKey t m event ∧ error = Value.unwritableMessage := by
  simp only [Renderer.ofTemplate, MissesUnwritableKey]
  cases t.tree.evaluate m event with
  | ok o => simp
  | error failure =>
      cases failure with
      | other => simp [Renderer.renderFailure]
      | missingKey key =>
          rcases Option.eq_none_or_eq_some (key.written? m) with hkey | ⟨s, hkey⟩
          · simp [Renderer.renderFailure, hkey, eq_comm]
          · simp [Renderer.renderFailure, hkey]

theorem raises_iff_of_compile_standard {w : Wording} {text : String} {c : Condition}
    (h : (compile (.standard w) (.str text)).1 = .ok c) {m : Memory} {event : Event}
    {error : String} :
    c.Raises m event error ↔
      error = Value.unwritableMessage ∧ c.kind = .template ∧
        ∃ t, Template.read (Text.trim text) = .ok t ∧ MissesUnwritableKey t m event := by
  rcases compile_eq_ok_iff.mp h with
    ⟨-, r, hr, rfl⟩ | ⟨body, path, -, -, rfl⟩ | ⟨body, path, token, v, -, -, -, -, rfl⟩
  · obtain ⟨t, ht, rfl⟩ := RendererFactory.standard_eq_ok_iff.mp hr
    have hrenderer : (ofRenderer (Text.trim text) (.ofTemplate w t)).renderer =
        some (.ofTemplate w t) := rfl
    have hkind : (ofRenderer (Text.trim text) (.ofTemplate w t)).kind = .template := rfl
    simp only [Raises, hrenderer, Option.some.injEq, exists_eq_left',
      render_ofTemplate_eq_raised_iff, ht, Except.ok.injEq, hkind, true_and]
    exact and_comm
  · simp [Raises, ofPath]
  · simp [Raises, ofPathValue]

/-- A compiled condition is well formed, with segments that are trimmed, and has an answer on
every event on which its renderer raises no error: no other fault is there. A condition
with a renderer of the library is at fault exactly where the evaluation of its template
misses a key that cannot be written. -/
theorem compiled_wellFormed_and_answers_unless_raised {factory : RendererFactory} {text : String}
    {c : Condition} (h : (compile factory (.str text)).1 = .ok c) :
    c.WellFormed ∧ (∀ s ∈ c.path, Text.trim s = s) ∧
      (∀ m event, (∃ b, (c.evaluate m event).1 = .ok b) ↔ ∀ error, ¬ c.Raises m event error) ∧
      (∀ m event fault, (c.evaluate m event).1 = .error fault ↔
        ∃ error, c.Raises m event error ∧ fault = .renderer error) ∧
      ∀ w, factory = .standard w → ∀ m event error, c.Raises m event error ↔
        error = Value.unwritableMessage ∧ c.kind = .template ∧
          ∃ t, Template.read (Text.trim text) = .ok t ∧ MissesUnwritableKey t m event := by
  have hwell := wellFormed_of_compile h
  refine ⟨hwell, ?_, fun _ _ => hwell.exists_answer_iff, fun _ _ _ => hwell.evaluate_eq_error_iff,
    ?_⟩
  · intro s hs
    exact (hwell.isSegment_of_mem_path hs).trim_eq
  · rintro w rfl m event error
    exact raises_iff_of_compile_standard h

theorem octal_wellFormed_and_answers :
    ∃ c, (compile (.standard default) (.str "EQ(a, -010)")).1 = .ok c ∧ c.value = .int (-8) ∧
      c.WellFormed ∧ (∀ s ∈ c.path, Text.trim s = s) ∧
        ∀ m event, ∃ b, (c.evaluate m event).1 = .ok b := by
  have htext : plainLayout "EQ" (["a"] ++ ["-010"]) = "EQ(a, -010)" := by decide
  have hpath : IsPath ["a"] := by decide
  have htoken : IsSegment "-010" := by decide
  have hread : Literal.read "-010" = .ok (.int (-8)) := by rfl
  have hlayout := isLayout_plainLayout "EQ" (["a"] ++ ["-010"])
  rw [htext] at hlayout
  have hcompile := compile_of_isLayout_eq (.standard default) hpath htoken hread hlayout
  obtain ⟨hwell, htrimmed, hanswers, -⟩ := compiled_wellFormed_and_answers_unless_raised hcompile
  exact ⟨_, hcompile, rfl, hwell, htrimmed, fun m event =>
    (hanswers m event).mpr (not_raises_of_renderer_isNone rfl m event)⟩

/-- A template that asks an empty event for a key of more than 4300 digits compiles, and raises
an error. -/
theorem unwritable_key_raises :
    ∃ c, (compile (.standard default) (.str "\x7b\x7b event[10**5000] \x7d\x7d")).1 = .ok c ∧
      (c.evaluate default []).1 = .error (.renderer Value.unwritableMessage) := by
  have hraises : (compile (.standard default)
      (.str "\x7b\x7b event[10**5000] \x7d\x7d")).1.toOption.map
        (fun c => (c.evaluate default []).1) =
          some (.error (.renderer Value.unwritableMessage)) := by
    decide +kernel
  exact Except.exists_ok_of_map_toOption hraises

end Condition

end EventSieve
