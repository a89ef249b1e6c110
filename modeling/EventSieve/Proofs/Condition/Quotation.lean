import EventSieve.Proofs.Condition.Layout
import EventSieve.Proofs.Condition.Templates
import EventSieve.Proofs.Literal.Reading

/-!
# Quoted literals in conditions

The arguments of a condition are separated by commas before any of them is read, so a comma
inside quotes separates arguments like any other. What is left of the quoted text behind its
last comma then ends in a quote that nothing opens, and that is no literal: a quoted text is
taken as it stands, or the condition is refused.
-/

namespace EventSieve

open Text

namespace Condition

def quoted (s : String) : String := "\"" ++ s ++ "\""

theorem toList_quoted (s : String) : (quoted s).toList = '"' :: (s.toList ++ ['"']) := by
  simp [quoted]

theorem read_quoted (s : String) : Literal.read (quoted s) = .ok (.str s) := by
  have hcs := toList_quoted s
  have hne : (quoted s).isEmpty = false := by
    rw [← Bool.not_eq_true, String.isEmpty_iff, ← String.toList_eq_nil_iff, hcs]
    simp
  rw [Literal.read, hne, hcs]
  simp [Literal.unquote?]

theorem isSegment_quoted {s : String} (hcomma : ',' ∉ s.toList) (hline : '\n' ∉ s.toList) :
    IsSegment (quoted s) := by
  have hcs := toList_quoted s
  refine ⟨?_, ?_, ?_, ?_, ?_⟩
  · rw [ne_eq, ← String.toList_eq_nil_iff, hcs]
    simp
  · simp [hcs, hcomma]
  · simp [hcs, hline]
  · intro c hc
    rw [hcs, List.head?_cons, Option.some.injEq] at hc
    rw [← hc]
    decide
  · intro c hc
    rw [hcs, ← List.cons_append, List.getLast?_concat, Option.some.injEq] at hc
    rw [← hc]
    decide

/-! ## Texts that are refused -/

theorem exists_last_of_mem {c : Char} {cs : List Char} (h : c ∈ cs) :
    ∃ front last, cs = front ++ c :: last ∧ c ∉ last := by
  obtain ⟨last, front, hcs, hlast⟩ := List.eq_append_cons_of_mem (List.mem_reverse.mpr h)
  refine ⟨front.reverse, last.reverse, ?_, by simpa using hlast⟩
  rw [← List.reverse_reverse cs, hcs]
  simp

/-- A fault that is reported as a problem of the syntax or of a literal. -/
def IsSyntaxOrLiteral (fault : CompileFault) : Prop :=
  ∃ p, fault = .problem p ∧ (p.family = .conditionSyntax ∨ p.family = .literal)

theorem isSyntaxOrLiteral_syntaxProblem (message text : String) :
    IsSyntaxOrLiteral (syntaxProblem message text) := ⟨_, rfl, .inl rfl⟩

/-- A call that goes over several lines has no form. -/
theorem form_call_of_lineBreak {body : List Char} (h : '\n' ∈ body) :
    form ("EQ(".toList ++ (body ++ [')'])) = .unknown := by
  cases hform : form ("EQ(".toList ++ (body ++ [')'])) with
  | template =>
      obtain ⟨inner, hinner, -⟩ := form_eq_template_iff.mp hform
      simp at hinner
  | exist inner =>
      have hinner := (form_eq_exist_iff.mp hform).1
      simp at hinner
  | eq inner =>
      obtain ⟨hinner, hline⟩ := form_eq_eq_iff.mp hform
      simp only [List.append_cancel_left_eq, List.append_cancel_right_eq] at hinner
      rw [← hinner] at hline
      exact absurd h hline
  | unknown => rfl

/-- A text in which only the last character is a quote is no literal. -/
theorem exists_read_eq_error_of_quote {cs : List Char} (h : '"' ∉ cs) :
    ∃ fault, Literal.read (String.ofList (cs ++ ['"'])) = .error fault := by
  have hunquote : Literal.unquote? (String.ofList (cs ++ ['"'])).toList = none := by
    rw [String.toList_ofList]
    cases cs with
    | nil => rfl
    | cons c cs =>
        apply Literal.unquote?_eq_none_of_head?
        rw [List.cons_append, List.head?_cons, ne_eq, Option.some.injEq]
        rintro rfl
        exact h List.mem_cons_self
  exact Literal.exists_read_eq_error Numeral.isForeign_quote (by decide) (by simp) hunquote

theorem trimChars_append_quote (cs : List Char) :
    trimChars (cs ++ ['"']) = trimStart cs ++ ['"'] := by
  have hstart : trimStart (cs ++ ['"']) = trimStart cs ++ ['"'] := by
    rw [trimStart, trimStart, List.dropWhile_append]
    split
    · next hempty =>
      rw [List.isEmpty_iff.mp hempty]
      rfl
    · rfl
  rw [trimChars, hstart, trimEnd_eq_self]
  intro c hc
  rw [List.getLast?_concat, Option.some.injEq] at hc
  rw [← hc]
  decide

/-- The arguments of a call whose last argument ends in a quote that nothing opens make no
condition. -/
theorem exists_eqOf_eq_error {front last : List Char} (hcomma : ',' ∉ last) (hquote : '"' ∉ last)
    (text : String) :
    ∃ fault, eqOf text (front ++ ',' :: (last ++ ['"'])) = .error fault ∧
      IsSyntaxOrLiteral fault := by
  rcases arguments?_cases (front ++ ',' :: (last ++ ['"'])) with hargs | ⟨argument, hargs⟩ |
    ⟨path, token, hpath, hargs⟩
  · exact ⟨_, eqOf_of_arguments?_eq_none hargs text, isSyntaxOrLiteral_syntaxProblem _ _⟩
  · exact ⟨_, eqOf_of_singleton hargs text, isSyntaxOrLiteral_syntaxProblem _ _⟩
  · have htoken := eq_of_arguments?_eq_concat (by simp [hcomma]) hargs
    rw [trimChars_append_quote] at htoken
    have hstart : '"' ∉ trimStart last :=
      fun hmem => hquote ((List.dropWhile_suffix isBlank).subset hmem)
    obtain ⟨reason, hreason⟩ := exists_read_eq_error_of_quote hstart
    rw [← htoken] at hreason
    exact ⟨_, eqOf_of_read_eq_error hpath hargs hreason text,
      _, rfl, .inr (reason.family_problem token)⟩

/-- The body of a call whose last argument is quoted ends in the quoted text. -/
theorem exists_intercalate_quoted {path : List String} (hpath : path ≠ []) (s : String) :
    ∃ front, [','].intercalate (spacedParts (path ++ [quoted s])) =
      front ++ (s.toList ++ ['"']) := by
  obtain ⟨front, hfront⟩ :=
    exists_intercalate_concat [','] (spacedParts path) (' ' :: (quoted s).toList)
  refine ⟨front ++ [' ', '"'], ?_⟩
  rw [spacedParts_concat hpath, hfront, toList_quoted]
  simp

/-- A comma between the quotes of the last argument leaves a quote that nothing opens behind the
last comma of the call. -/
theorem exists_eqOf_quoted_eq_error {path : List String} (hpath : path ≠ []) {s : String}
    (hcomma : ',' ∈ s.toList) (hquote : '"' ∉ s.toList) (text : String) :
    ∃ fault, eqOf text ([','].intercalate (spacedParts (path ++ [quoted s]))) = .error fault ∧
      IsSyntaxOrLiteral fault := by
  obtain ⟨front, last, hsplit, hlast⟩ := exists_last_of_mem hcomma
  obtain ⟨before, hbody⟩ := exists_intercalate_quoted hpath s
  have hquoteLast : '"' ∉ last := by
    intro hmem
    apply hquote
    rw [hsplit]
    simp [hmem]
  have hcommas : [','].intercalate (spacedParts (path ++ [quoted s])) =
      (before ++ front) ++ ',' :: (last ++ ['"']) := by
    rw [hbody, hsplit]
    simp
  rw [hcommas]
  exact exists_eqOf_eq_error hlast hquoteLast text

theorem lineBreak_mem_intercalate_quoted {path : List String} (hpath : IsPath path) {s : String} :
    '\n' ∈ [','].intercalate (spacedParts (path ++ [quoted s])) ↔ '\n' ∈ s.toList := by
  rw [mem_intercalate_spacedParts_iff (by decide) (by decide)]
  constructor
  · rintro ⟨token, htoken, hline⟩
    rcases List.mem_append.mp htoken with htoken | htoken
    · exact absurd hline (hpath.2 token htoken).lineBreak
    · rw [List.mem_singleton.mp htoken, toList_quoted] at hline
      simpa using hline
  · intro hline
    exact ⟨quoted s, by simp, by simp [toList_quoted, hline]⟩

/-- A quoted text behind a path is taken as it stands if it has no comma and no line break; in
every other case the condition is refused for its syntax or its literal. -/
theorem quoted_taken_or_refused (factory : RendererFactory) {path : List String} {s : String}
    (hpath : IsPath path) (hquote : '"' ∉ s.toList) :
    (',' ∉ s.toList ∧ '\n' ∉ s.toList →
      ∃ c, (compile factory (.str (plainLayout "EQ" (path ++ [quoted s])))).1 = .ok c ∧
        c.kind = .eq ∧ c.path = path ∧ c.value = .str s) ∧
    (¬ (',' ∉ s.toList ∧ '\n' ∉ s.toList) →
      ∃ fault, (compile factory (.str (plainLayout "EQ" (path ++ [quoted s])))).1 = .error fault ∧
        IsSyntaxOrLiteral fault) := by
  have htext := toList_plainLayout "EQ" (path ++ [quoted s])
  have htrim : trimChars (plainLayout "EQ" (path ++ [quoted s])).toList =
      "EQ(".toList ++ ([','].intercalate (spacedParts (path ++ [quoted s])) ++ [')']) := by
    rw [htext]
    exact (isKeyword_eq.isTrimmed_call _).trimChars_eq
  constructor
  · rintro ⟨hcomma, hline⟩
    exact ⟨_, compile_of_isLayout_eq factory hpath (isSegment_quoted hcomma hline) (read_quoted s)
      (isLayout_plainLayout "EQ" (path ++ [quoted s])), rfl, rfl, rfl⟩
  · intro hrefused
    by_cases hline : '\n' ∈ s.toList
    · have hform := form_call_of_lineBreak ((lineBreak_mem_intercalate_quoted hpath).mpr hline)
      rw [← htrim] at hform
      rw [compile_of_form_unknown hform]
      exact ⟨_, rfl, isSyntaxOrLiteral_syntaxProblem _ _⟩
    · have hcomma : ',' ∈ s.toList := by
        by_contra hcomma
        exact hrefused ⟨hcomma, hline⟩
      have hform := form_eq_eq_iff.mpr
        ⟨htrim, fun hmem => hline ((lineBreak_mem_intercalate_quoted hpath).mp hmem)⟩
      rw [fst_compile_of_form_eq hform]
      exact exists_eqOf_quoted_eq_error hpath.1 hcomma hquote _

/-- A number between quotes is a text, and a comma between quotes separates arguments. -/
theorem quoted_number_taken_and_comma_refused :
    (∃ c, (compile (.standard default) (.str "EQ(a, \" 1.5 \")")).1 = .ok c ∧
      c.kind = .eq ∧ c.path = ["a"] ∧ c.value = .str " 1.5 ") ∧
    ∃ fault, (compile (.standard default) (.str "EQ(a, \"b,1.5\")")).1 = .error fault ∧
      IsSyntaxOrLiteral fault := by
  have htaken : plainLayout "EQ" (["a"] ++ [quoted " 1.5 "]) = "EQ(a, \" 1.5 \")" := by decide
  have hrefused : plainLayout "EQ" (["a"] ++ [quoted "b,1.5"]) = "EQ(a, \"b,1.5\")" := by decide
  have hpath : IsPath ["a"] := by decide
  rw [← htaken, ← hrefused]
  exact ⟨(quoted_taken_or_refused (.standard default) hpath (by decide)).1 (by decide),
    (quoted_taken_or_refused (.standard default) hpath (by decide)).2 (by decide)⟩

end Condition

end EventSieve
