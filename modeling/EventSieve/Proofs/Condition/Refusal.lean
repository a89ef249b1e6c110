import EventSieve.Proofs.Condition.Reporting
import EventSieve.Proofs.Expression.Subtrees

/-!
# Refused templates

A template is refused for what stands between its braces. `read_eq_ok_iff` is the inversion of
the reader of templates, and `standard_cases` says what becomes of a template without null
characters.
-/

namespace EventSieve

open Text Expression

/-- Some call in a tree has a callee that is no plain name. -/
def Expression.Expr.ComputesCallee (e : Expr) : Prop :=
  ∃ callee positional keywords, (Expr.call callee positional keywords).Within e ∧
    ∀ id, callee ≠ .name id

theorem Expression.Expr.computesCallee_iff {e : Expr} :
    e.ComputesCallee ↔ e.callsPlainNames = false := by
  rw [← Bool.not_eq_true, Expr.callsPlainNames_iff]
  simp only [Expr.ComputesCallee, not_forall, not_exists, exists_prop]

namespace Template

def statements? (body : List Char) : Option (List Statement) :=
  Statement.readAll? (String.ofList (trimChars body))

/-- The text between the braces is no template: it is blank, it cannot be read, it is not a
single expression, or a call in it has no plain name for its callee. -/
def IsRefused (body : List Char) : Prop :=
  IsBlanks body ∨ statements? body = none ∨
    (∃ statements, statements? body = some statements ∧ ∀ e, statements ≠ [.expression e]) ∨
    ∃ e, statements? body = some [.expression e] ∧ e.ComputesCallee

theorem single?_eq_some_iff {statements : List Statement} {e : Expr} :
    single? statements = some e ↔ statements = [.expression e] := by
  constructor
  · intro h
    unfold single? at h
    split at h
    · cases h
      rfl
    · cases h
  · rintro rfl
    rfl

theorem read_eq_ok_iff {source : String} {body : List Char}
    (h : source.toList = "\x7b\x7b".toList ++ (body ++ "\x7d\x7d".toList)) {t : Template} :
    read source = .ok t ↔
      ¬ IsBlanks body ∧ '\x00' ∉ source.toList ∧
        ∃ e, statements? body = some [.expression e] ∧ e.callsPlainNames = true ∧
          t = ⟨source, String.ofList (trimChars body), e⟩ := by
  have hnull : '\x00' ∈ source.toList ↔ '\x00' ∈ trimChars body := by
    rw [h, mem_trimChars_iff_of_not_blank (by decide)]
    simp
  have hblank : (String.ofList (trimChars body)).isEmpty = true ↔ IsBlanks body := by
    rw [String.isEmpty_iff, ← String.toList_eq_nil_iff, String.toList_ofList,
      trimChars_eq_nil_iff]
  rw [read, h, unwrap?_braces, ← h, hnull, ← hblank, statements?]
  simp only [String.toList_ofList]
  by_cases hempty : (String.ofList (trimChars body)).isEmpty = true
  · simp [hempty]
  · by_cases hmem : '\x00' ∈ trimChars body
    · simp [hempty, hmem]
    · rw [if_neg hempty, if_neg hmem]
      cases hread : Statement.readAll? (String.ofList (trimChars body)) with
      | none => simp
      | some statements =>
          simp only [hempty, hmem, not_false_eq_true, true_and, Option.some.injEq]
          cases hsingle : single? statements with
          | none =>
              have hne : ∀ e, statements ≠ [.expression e] := by
                intro e he
                rw [single?_eq_some_iff.mpr he] at hsingle
                cases hsingle
              simp [hne]
          | some tree =>
              rw [single?_eq_some_iff.mp hsingle]
              cases hplain : tree.callsPlainNames with
              | false => simp [hplain]
              | true =>
                  simp only [if_true, Except.ok.injEq, List.cons.injEq, and_true,
                    Statement.expression.injEq, exists_eq_left', hplain, Bool.false_eq_true,
                    not_false_eq_true, true_and]
                  exact eq_comm

theorem isRefused_iff {body : List Char} :
    IsRefused body ↔
      ¬ (¬ IsBlanks body ∧
        ∃ e, statements? body = some [.expression e] ∧ e.callsPlainNames = true) := by
  rw [IsRefused, not_and_or, not_not]
  refine or_congr_right ?_
  cases hread : statements? body with
  | none => simp
  | some statements =>
      by_cases hsingle : ∃ e, statements = [.expression e]
      · obtain ⟨e, rfl⟩ := hsingle
        simp [Expr.computesCallee_iff]
      · have hne : ∀ e, statements ≠ [.expression e] := not_exists.mp hsingle
        simp [hne]

/-- A template without null characters is read unless it is refused for what stands between
its braces. -/
theorem exists_read_eq_ok_iff {source : String} {body : List Char}
    (h : source.toList = "\x7b\x7b".toList ++ (body ++ "\x7d\x7d".toList))
    (hnull : '\x00' ∉ source.toList) : (∃ t, read source = .ok t) ↔ ¬ IsRefused body := by
  rw [isRefused_iff, not_not]
  constructor
  · rintro ⟨t, ht⟩
    obtain ⟨hblank, -, e, hread, hplain, -⟩ := (read_eq_ok_iff h).mp ht
    exact ⟨hblank, e, hread, hplain⟩
  · rintro ⟨hblank, e, hread, hplain⟩
    exact ⟨_, (read_eq_ok_iff h).mpr ⟨hblank, hnull, e, hread, hplain, rfl⟩⟩

end Template

/-- The standard factory fails on a template without null characters where the template is
refused, with a problem of templates. -/
theorem RendererFactory.standard_cases (w : Wording) {source : String} {body : List Char}
    (h : source.toList = "\x7b\x7b".toList ++ (body ++ "\x7d\x7d".toList))
    (hnull : '\x00' ∉ source.toList) :
    (¬ Template.IsRefused body ∧ ∃ r, standard w source = .ok r) ∨
      (Template.IsRefused body ∧
        ∃ p, standard w source = .error (.problem p) ∧ p.family = .template) := by
  cases hread : Template.read source with
  | ok t =>
      left
      exact ⟨(Template.exists_read_eq_ok_iff h hnull).mp ⟨t, hread⟩, .ofTemplate w t,
        standard_eq_ok_iff.mpr ⟨t, hread, rfl⟩⟩
  | error fault =>
      right
      have hfault : fault ≠ .nullCharacter := by
        rintro rfl
        exact hnull ((Template.read_eq_nullCharacter_iff h).mp hread)
      obtain ⟨p, hp, hfamily⟩ := TemplateFault.problem?_eq_some hfault w source
      refine ⟨?_, p, standard_of_problem hread hp, hfamily⟩
      by_contra hrefused
      obtain ⟨t, ht⟩ := (Template.exists_read_eq_ok_iff h hnull).mpr hrefused
      rw [hread] at ht
      cases ht

theorem Text.not_mem_trim {c : Char} {text : String} (h : c ∉ text.toList) :
    c ∉ (Text.trim text).toList := by
  rw [toList_trim]
  exact fun hmem => h (mem_of_mem_trimChars hmem)

namespace Condition

def HasBadTemplate (text : String) : Prop :=
  ∃ body, text.toList = "\x7b\x7b".toList ++ (body ++ "\x7d\x7d".toList) ∧
    '\n' ∉ text.toList ∧ Template.IsRefused body

def FailsWith (w : Wording) (family : ProblemFamily) (text : String) : Prop :=
  ∃ p, (compile (.standard w) (.str text)).1 = .error (.problem p) ∧ p.family = family

theorem failsWith_template_of_hasBadTemplate {w : Wording} {text : String}
    (hnull : '\x00' ∉ text.toList) (h : HasBadTemplate (Text.trim text)) :
    FailsWith w .template text := by
  obtain ⟨body, hbody, hline, hrefused⟩ := h
  have hform : form (trimChars text.toList) = .template := by
    rw [← toList_trim, form_eq_template_iff]
    refine ⟨body, hbody, ?_⟩
    rw [hbody] at hline
    simp only [List.mem_append, not_or] at hline
    exact hline.2.1
  rw [FailsWith, fst_compile_of_form_template hform]
  rcases RendererFactory.standard_cases w hbody (not_mem_trim hnull) with
    ⟨haccepted, -⟩ | ⟨-, p, hp, hfamily⟩
  · exact absurd hrefused haccepted
  · rw [hp]
    exact ⟨p, rfl, hfamily⟩

end Condition

end EventSieve
