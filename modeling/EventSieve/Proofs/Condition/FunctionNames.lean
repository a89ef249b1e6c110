import EventSieve.Proofs.Condition.Agreement
import EventSieve.Proofs.Condition.Refusal
import EventSieve.Proofs.Expression.Needed

/-!
# Names of functions in templates

A template is checked for callees that are no plain names when it is compiled. The names
that it calls are looked up when it is rendered, and a call of an unknown name fails on
every event. So a template is accepted whatever plain names it calls, and the condition of
one that needs an unknown name passes no event at all.
-/

namespace EventSieve

open Text Expression

namespace Expression.Expr

/-- Every call in a tree names one of the functions. -/
def CallsFunctions (e : Expr) : Prop :=
  ∀ callee positional keywords, (call callee positional keywords).Within e →
    ∃ f : Function, callee = name f.name

def CallsUnknown (e : Expr) : Prop := ∃ sub : Expr, sub.Within e ∧ sub.isUnknownCall = true

theorem NeedsUnknown.callsUnknown {e : Expr} (h : e.NeedsUnknown) : e.CallsUnknown := by
  obtain ⟨sub, hsub, hunknown⟩ := h
  exact ⟨sub, hsub.within, hunknown⟩

/-- A call that names no function has a computed callee or an unknown name. -/
theorem callsFunctions_iff {e : Expr} :
    e.CallsFunctions ↔ ¬ e.ComputesCallee ∧ ¬ e.CallsUnknown := by
  constructor
  · intro h
    constructor
    · rintro ⟨callee, positional, keywords, hcall, hname⟩
      obtain ⟨f, hf⟩ := h callee positional keywords hcall
      exact hname f.name hf
    · rintro ⟨sub, hsub, hunknown⟩
      obtain ⟨id, positional, keywords, rfl, hid⟩ := isUnknownCall_iff.mp hunknown
      obtain ⟨f, hf⟩ := h _ positional keywords hsub
      rw [name.injEq] at hf
      rw [hf, Function.named?_name] at hid
      cases hid
  · rintro ⟨hplain, hknown⟩ callee positional keywords hcall
    by_cases hname : ∃ id, callee = name id
    · obtain ⟨id, rfl⟩ := hname
      cases hid : Function.named? id with
      | none =>
          exact absurd ⟨_, hcall, isUnknownCall_iff.mpr ⟨id, positional, keywords, rfl, hid⟩⟩ hknown
      | some f => exact ⟨f, by rw [Function.named?_eq_some_iff.mp hid]⟩
    · exact absurd ⟨callee, positional, keywords, hcall, not_exists.mp hname⟩ hplain

end Expression.Expr

/-! ## Templates that read as an expression -/

namespace Template

/-- The text between the braces of a template reads as a single expression. -/
def Reads (source : String) (e : Expr) : Prop :=
  ∃ body, source.toList = "\x7b\x7b".toList ++ (body ++ "\x7d\x7d".toList) ∧
    '\x00' ∉ source.toList ∧ ¬ IsBlanks body ∧ statements? body = some [.expression e]

variable {source : String} {e : Expr}

theorem Reads.unique {other : Expr} (h : Reads source e) (hother : Reads source other) :
    e = other := by
  obtain ⟨body, hbody, -, -, hread⟩ := h
  obtain ⟨body', hbody', -, -, hread'⟩ := hother
  rw [hbody, List.append_cancel_left_eq, List.append_cancel_right_eq] at hbody'
  rw [hbody', hread', Option.some.injEq, List.cons.injEq, Statement.expression.injEq] at hread
  exact hread.1.symm

/-- Only computed callees keep a single expression from being a template. -/
theorem Reads.exists_read_iff (h : Reads source e) :
    (∃ t, read source = .ok t ∧ t.tree = e) ↔ ¬ e.ComputesCallee := by
  obtain ⟨body, hbody, hnull, hblank, hread⟩ := h
  rw [Expr.computesCallee_iff, Bool.not_eq_false]
  constructor
  · rintro ⟨t, ht, rfl⟩
    exact callsPlainNames_of_read ht
  · intro hplain
    exact ⟨_, (read_eq_ok_iff hbody).mpr ⟨hblank, hnull, e, hread, hplain, rfl⟩, rfl⟩

theorem reads_of_read {t : Template} (h : read source = .ok t) : Reads source t.tree := by
  obtain ⟨body, hbody⟩ := isWrapped_iff.mp (isWrapped_of_read h)
  obtain ⟨hblank, hnull, e, hread, -, rfl⟩ := (read_eq_ok_iff hbody).mp h
  exact ⟨body, hbody, hnull, hblank, hread⟩

theorem Reads.isRefused (h : Reads source e) (hcallee : e.ComputesCallee) :
    ∃ body, source.toList = "\x7b\x7b".toList ++ (body ++ "\x7d\x7d".toList) ∧ IsRefused body := by
  obtain ⟨body, hbody, -, -, hread⟩ := h
  exact ⟨body, hbody, .inr (.inr (.inr ⟨e, hread, hcallee⟩))⟩

end Template

namespace Condition

/-! ## Conditions -/

/-- The calls of a template are checked by name: what is accepted calls functions only, and a
template with another call is refused as a template, also where a condition is compiled. -/
structure ChecksFunctions (w : Wording) (text : String) : Prop where
  accepted : ∀ t, Template.read (Text.trim text) = .ok t → t.tree.CallsFunctions
  refused : ∀ e, Template.Reads (Text.trim text) e → ¬ e.CallsFunctions →
    (∀ t, Template.read (Text.trim text) ≠ .ok t) ∧
      ('\n' ∉ (Text.trim text).toList → FailsWith w .template text)

variable {w : Wording} {text : String} {e : Expr}

theorem failsWith_template_of_computesCallee (h : Template.Reads (Text.trim text) e)
    (hcallee : e.ComputesCallee) (hline : '\n' ∉ (Text.trim text).toList) :
    FailsWith w .template text := by
  have hnull : '\x00' ∉ text.toList := by
    obtain ⟨-, -, hnull, -⟩ := h
    rwa [toList_trim, mem_trimChars_iff_of_not_blank (by decide)] at hnull
  obtain ⟨body, hbody, hrefused⟩ := h.isRefused hcallee
  exact failsWith_template_of_hasBadTemplate hnull ⟨body, hbody, hline, hrefused⟩

theorem checksFunctions_iff :
    ChecksFunctions w text ↔
      ¬ ∃ e, Template.Reads (Text.trim text) e ∧ ¬ e.ComputesCallee ∧ e.CallsUnknown := by
  constructor
  · rintro h ⟨e, hreads, hplain, hunknown⟩
    obtain ⟨t, ht, rfl⟩ := hreads.exists_read_iff.mpr hplain
    exact (Expr.callsFunctions_iff.mp (h.accepted t ht)).2 hunknown
  · intro h
    constructor
    · intro t ht
      have hreads := Template.reads_of_read ht
      have hplain := hreads.exists_read_iff.mp ⟨t, ht, rfl⟩
      exact Expr.callsFunctions_iff.mpr ⟨hplain, fun hunknown => h ⟨_, hreads, hplain, hunknown⟩⟩
    · intro e hreads hcalls
      have hcallee : e.ComputesCallee := by
        by_contra hplain
        exact hcalls (Expr.callsFunctions_iff.mpr
          ⟨hplain, fun hunknown => h ⟨e, hreads, hplain, hunknown⟩⟩)
      refine ⟨?_, failsWith_template_of_computesCallee hreads hcallee⟩
      intro t ht
      exact hreads.exists_read_iff.mp ⟨t, ht, (Template.reads_of_read ht).unique hreads⟩ hcallee

theorem exists_compile_of_read {t : Template} (ht : Template.read (Text.trim text) = .ok t)
    (hline : '\n' ∉ (Text.trim text).toList) :
    (compile (.standard w) (.str text)).1 =
      .ok (ofRenderer (Text.trim text) (.ofTemplate w t)) := by
  have hform : form (trimChars text.toList) = .template := by
    rw [← toList_trim, form_eq_template_iff_isWrapped]
    exact ⟨Template.isWrapped_of_read ht, hline⟩
  rw [fst_compile_of_form_template hform, RendererFactory.standard_eq_ok_iff.mpr ⟨t, ht, rfl⟩]
  rfl

/-- The condition of a template that needs a call of an unknown name passes no event. -/
theorem evaluate_ne_true_of_needsUnknown {t : Template} (hneeds : t.tree.NeedsUnknown)
    (source : String) (m : Memory) (event : Event) :
    ((ofRenderer source (.ofTemplate w t)).evaluate m event).1 ≠ .ok true := by
  obtain ⟨failure, hfailure⟩ := hneeds.evaluate_eq_error m event
  rw [evaluate_ofTemplate, hfailure]
  simp only
  split
  · exact nofun
  · exact nofun

/-- A template is checked for its callees to be plain names, and a template with a computed callee
is refused, also where a condition is compiled. The names are not checked: with any of them the
template is accepted, and a condition whose template needs a call of an unknown name passes
no event. Each call in an accepted template names one of the functions exactly where no call
is of an unknown name. -/
theorem function_names_unchecked (w : Wording) (text : String) :
    (∀ e, Template.Reads (Text.trim text) e →
      ((∃ t, Template.read (Text.trim text) = .ok t ∧ t.tree = e) ↔ ¬ e.ComputesCallee) ∧
      (e.ComputesCallee → '\n' ∉ (Text.trim text).toList → FailsWith w .template text)) ∧
    (∀ t, Template.read (Text.trim text) = .ok t →
      Template.Reads (Text.trim text) t.tree ∧ ¬ t.tree.ComputesCallee ∧
      ('\n' ∉ (Text.trim text).toList →
        ∃ c, (compile (.standard w) (.str text)).1 = .ok c ∧
          (t.tree.NeedsUnknown → ∀ m event, (c.evaluate m event).1 ≠ .ok true))) ∧
    (ChecksFunctions w text ↔
      ¬ ∃ e, Template.Reads (Text.trim text) e ∧ ¬ e.ComputesCallee ∧ e.CallsUnknown) := by
  refine ⟨?_, ?_, checksFunctions_iff⟩
  · intro e hreads
    exact ⟨hreads.exists_read_iff, failsWith_template_of_computesCallee hreads⟩
  · intro t ht
    have hreads := Template.reads_of_read ht
    refine ⟨hreads, hreads.exists_read_iff.mp ⟨t, ht, rfl⟩, fun hline => ?_⟩
    exact ⟨_, exists_compile_of_read ht hline, fun hneeds m event =>
      evaluate_ne_true_of_needsUnknown hneeds _ m event⟩

/-- A misspelt name is accepted, and the condition is false on every event. -/
theorem misspelt_function_accepted :
    ¬ ChecksFunctions default "\x7b\x7b lowr(level) \x7d\x7d" ∧
      ∃ c, (compile (.standard default) (.str "\x7b\x7b lowr(level) \x7d\x7d")).1 = .ok c ∧
        ∀ m event, (c.evaluate m event).1 = .ok false := by
  have hunknown : (Template.read (Text.trim "\x7b\x7b lowr(level) \x7d\x7d")).toOption.map
      (fun t => t.tree.isUnknownCall) = some true := by decide +kernel
  obtain ⟨t, ht, hcall⟩ := Except.exists_ok_of_map_toOption hunknown
  have hneeds : t.tree.NeedsUnknown := ⟨t.tree, .refl, hcall⟩
  refine ⟨fun h => ?_, _, exists_compile_of_read ht (by decide), fun m event => ?_⟩
  · exact (Expr.callsFunctions_iff.mp (h.accepted t ht)).2 hneeds.callsUnknown
  · rw [evaluate_ofTemplate, Expr.evaluate_of_isUnknownCall hcall]
    rfl

end Condition

end EventSieve
