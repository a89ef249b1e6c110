import EventSieve.Proofs.Condition.Compile

/-!
# Layouts of conditions

A layout of tokens under a keyword is the keyword and, between parentheses, the
tokens with commas between them; blanks may stand around the whole and, within the
line, around each token. The compiler accepts exactly the layouts of paths under
`Exist` and the layouts of a path and a literal under `EQ`, and it reads each of
them as the path, or the path and the value, that is written there. No text is a
layout in two ways.
-/

namespace EventSieve

open Text

def IsPath (path : List String) : Prop := path ≠ [] ∧ ∀ s ∈ path, IsSegment s

instance (path : List String) : Decidable (IsPath path) :=
  inferInstanceAs (Decidable (path ≠ [] ∧ ∀ s ∈ path, IsSegment s))

/-- A text that writes tokens under a keyword, with blanks where they do not matter. -/
def IsLayout (keyword : String) (tokens : List String) (text : String) : Prop :=
  ∃ before after parts, IsBlanks before ∧ IsBlanks after ∧ List.Forall₂ IsPadded tokens parts ∧
    text.toList =
      before ++ (keyword.toList ++ '(' :: ([','].intercalate parts ++ ')' :: after))

/-- A word that may stand in front of a layout: it does not start with a blank. -/
def IsKeyword (keyword : String) : Prop :=
  ∃ c cs, keyword.toList = c :: cs ∧ isBlank c = false

theorem isKeyword_exist : IsKeyword "Exist" := ⟨'E', ['x', 'i', 's', 't'], rfl, by decide⟩

theorem isKeyword_eq : IsKeyword "EQ" := ⟨'E', ['Q'], rfl, by decide⟩

theorem isPath_append_singleton_iff {path : List String} {token : String} :
    IsPath (path ++ [token]) ↔ (∀ s ∈ path, IsSegment s) ∧ IsSegment token := by
  simp [IsPath, or_imp, forall_and]

theorem IsKeyword.isTrimmed_call {keyword : String} (h : IsKeyword keyword) (body : List Char) :
    IsTrimmed (keyword.toList ++ '(' :: (body ++ [')'])) := by
  obtain ⟨c, cs, hcs, hc⟩ := h
  rw [hcs]
  constructor
  · intro d hd
    rw [List.cons_append, List.head?_cons, Option.some.injEq] at hd
    rw [← hd, hc]
  · intro d hd
    have hlast : (c :: cs ++ '(' :: (body ++ [')'])) = (c :: cs ++ '(' :: body) ++ [')'] := by
      simp
    rw [hlast, List.getLast?_concat, Option.some.injEq] at hd
    rw [← hd]
    decide

/-- A layout is a call on one line, with arguments that are the tokens. -/
theorem isLayout_iff {keyword : String} (hkeyword : IsKeyword keyword) {tokens : List String}
    (htokens : IsPath tokens) {text : String} :
    IsLayout keyword tokens text ↔
      ∃ body, '\n' ∉ body ∧ Condition.arguments? body = some tokens ∧
        trimChars text.toList = keyword.toList ++ '(' :: (body ++ [')']) := by
  constructor
  · rintro ⟨before, after, parts, hbefore, hafter, hparts, htext⟩
    have hline := Condition.lineBreak_not_mem_intercalate hparts htokens.2
    refine ⟨[','].intercalate parts, hline, ?_, ?_⟩
    · rw [Condition.arguments?_eq_some_iff hline]
      exact ⟨htokens, parts, hparts, rfl⟩
    · rw [trimChars_eq_iff]
      refine ⟨hkeyword.isTrimmed_call _, before, after, hbefore, hafter, ?_⟩
      rw [htext]
      simp
  · rintro ⟨body, hline, hargs, htrim⟩
    obtain ⟨-, parts, hparts, rfl⟩ := (Condition.arguments?_eq_some_iff hline).mp hargs
    obtain ⟨before, after, hbefore, hafter, htext⟩ := exists_blanks_trimChars text.toList
    refine ⟨before, after, parts, hbefore, hafter, hparts, ?_⟩
    rw [htext, htrim]
    simp

theorem IsLayout.tokens_unique {keyword : String} (hkeyword : IsKeyword keyword)
    {tokens others : List String} (htokens : IsPath tokens) (hothers : IsPath others)
    {text : String} (h : IsLayout keyword tokens text) (h' : IsLayout keyword others text) :
    tokens = others := by
  obtain ⟨body, -, hargs, htrim⟩ := (isLayout_iff hkeyword htokens).mp h
  obtain ⟨body', -, hargs', htrim'⟩ := (isLayout_iff hkeyword hothers).mp h'
  have hcall := htrim.symm.trans htrim'
  have hbody : body = body' := by simpa using hcall
  rw [hbody, hargs'] at hargs
  exact (Option.some.inj hargs).symm

def plainLayout (keyword : String) (tokens : List String) : String :=
  keyword ++ "(" ++ ", ".intercalate tokens ++ ")"

theorem intercalate_comma_space (part : List Char) (parts : List (List Char)) :
    [',', ' '].intercalate (part :: parts) = [','].intercalate (part :: parts.map (' ' :: ·)) := by
  induction parts generalizing part with
  | nil => simp
  | cons next parts ih =>
      rw [List.intercalate_cons_cons, ih next, List.map_cons, List.intercalate_cons_cons,
        List.intercalate_cons_cons_left]
      simp

/-- The parts between the commas of the layout with one space behind each. -/
def spacedParts : List String → List (List Char)
  | [] => []
  | first :: rest => first.toList :: rest.map fun token => ' ' :: token.toList

theorem toList_plainLayout (keyword : String) (tokens : List String) :
    (plainLayout keyword tokens).toList =
      keyword.toList ++ '(' :: ([','].intercalate (spacedParts tokens) ++ [')']) := by
  cases tokens with
  | nil => simp [plainLayout, spacedParts]
  | cons first rest =>
      have hparts := intercalate_comma_space first.toList (rest.map String.toList)
      rw [List.map_map] at hparts
      simpa [plainLayout, spacedParts, Function.comp_def] using hparts

theorem mem_intercalate_spacedParts_iff {c : Char} (hcomma : c ≠ ',') (hspace : c ≠ ' ')
    {tokens : List String} :
    c ∈ [','].intercalate (spacedParts tokens) ↔ ∃ token ∈ tokens, c ∈ token.toList := by
  rw [mem_intercalate_iff hcomma]
  cases tokens with
  | nil => simp [spacedParts]
  | cons first rest => simp [spacedParts, hspace]

theorem spacedParts_concat {tokens : List String} (hne : tokens ≠ []) (last : String) :
    spacedParts (tokens ++ [last]) = spacedParts tokens ++ [' ' :: last.toList] := by
  obtain ⟨first, rest, rfl⟩ := List.exists_cons_of_ne_nil hne
  simp [spacedParts]

theorem isPadded_toList (token : String) : IsPadded token token.toList :=
  ⟨[], [], ⟨isBlanks_nil, by simp⟩, ⟨isBlanks_nil, by simp⟩, by simp⟩

theorem isPadded_space_toList (token : String) : IsPadded token (' ' :: token.toList) := by
  refine ⟨[' '], [], ⟨?_, by decide⟩, ⟨isBlanks_nil, by simp⟩, by simp⟩
  intro c hc
  rw [List.mem_singleton.mp hc]
  decide

theorem forall₂_isPadded_spacedParts (tokens : List String) :
    List.Forall₂ IsPadded tokens (spacedParts tokens) := by
  cases tokens with
  | nil => exact .nil
  | cons first rest =>
      refine .cons (isPadded_toList first) ?_
      rw [List.forall₂_map_right_iff, List.forall₂_same]
      intro token _
      exact isPadded_space_toList token

theorem isLayout_plainLayout (keyword : String) (tokens : List String) :
    IsLayout keyword tokens (plainLayout keyword tokens) := by
  refine ⟨[], [], spacedParts tokens, isBlanks_nil, isBlanks_nil,
    forall₂_isPadded_spacedParts tokens, ?_⟩
  rw [toList_plainLayout]
  simp

theorem not_isLayout_exist_and_eq {tokens others : List String} (htokens : IsPath tokens)
    (hothers : IsPath others) {text : String} :
    ¬ (IsLayout "Exist" tokens text ∧ IsLayout "EQ" others text) := by
  rintro ⟨h, h'⟩
  obtain ⟨body, -, -, htrim⟩ := (isLayout_iff isKeyword_exist htokens).mp h
  obtain ⟨body', -, -, htrim'⟩ := (isLayout_iff isKeyword_eq hothers).mp h'
  have hcall := htrim.symm.trans htrim'
  simp at hcall

namespace Condition

theorem exist_of_compile_iff {factory : RendererFactory} {text : String} {path : List String} :
    (∃ c, (compile factory (.str text)).1 = .ok c ∧ c.kind = .exist ∧ c.path = path) ↔
      ∃ body, form (trimChars text.toList) = .exist body ∧ arguments? body = some path := by
  constructor
  · rintro ⟨c, hc, hkind, rfl⟩
    rcases compile_eq_ok_iff.mp hc with
      ⟨-, r, -, rfl⟩ | ⟨body, path, hform, hargs, rfl⟩ | ⟨body, path, token, v, -, -, -, -, rfl⟩
    · cases hkind
    · exact ⟨body, hform, hargs⟩
    · cases hkind
  · rintro ⟨body, hform, hargs⟩
    refine ⟨ofPath (Text.trim text) path, ?_, rfl, rfl⟩
    exact compile_eq_ok_iff.mpr (.inr (.inl ⟨body, path, hform, hargs, rfl⟩))

theorem eq_of_compile_iff {factory : RendererFactory} {text : String} {path : List String}
    {v : Value} :
    (∃ c, (compile factory (.str text)).1 = .ok c ∧ c.kind = .eq ∧ c.path = path ∧
        c.value = v) ↔
      ∃ body token, form (trimChars text.toList) = .eq body ∧ path ≠ [] ∧
        arguments? body = some (path ++ [token]) ∧ Literal.read token = .ok v := by
  constructor
  · rintro ⟨c, hc, hkind, rfl, rfl⟩
    rcases compile_eq_ok_iff.mp hc with
      ⟨-, r, -, rfl⟩ | ⟨body, path, hform, hargs, rfl⟩ |
      ⟨body, path, token, v, hform, hpath, hargs, hv, rfl⟩
    · cases hkind
    · cases hkind
    · exact ⟨body, token, hform, hpath, hargs, hv⟩
  · rintro ⟨body, token, hform, hpath, hargs, hv⟩
    refine ⟨ofPathValue (Text.trim text) path v, ?_, rfl, rfl, rfl⟩
    exact compile_eq_ok_iff.mpr (.inr (.inr ⟨body, path, token, v, hform, hpath, hargs, hv, rfl⟩))

theorem isLayout_exist_iff_form {path : List String} (hpath : IsPath path) {text : String} :
    IsLayout "Exist" path text ↔
      ∃ body, form (trimChars text.toList) = .exist body ∧ arguments? body = some path := by
  simp only [isLayout_iff isKeyword_exist hpath, form_eq_exist_iff]
  constructor
  · rintro ⟨body, hline, hargs, htrim⟩
    exact ⟨body, ⟨htrim, hline⟩, hargs⟩
  · rintro ⟨body, ⟨htrim, hline⟩, hargs⟩
    exact ⟨body, hline, hargs, htrim⟩

theorem isLayout_eq_iff_form {tokens : List String} (htokens : IsPath tokens) {text : String} :
    IsLayout "EQ" tokens text ↔
      ∃ body, form (trimChars text.toList) = .eq body ∧ arguments? body = some tokens := by
  simp only [isLayout_iff isKeyword_eq htokens, form_eq_eq_iff]
  constructor
  · rintro ⟨body, hline, hargs, htrim⟩
    exact ⟨body, ⟨htrim, hline⟩, hargs⟩
  · rintro ⟨body, ⟨htrim, hline⟩, hargs⟩
    exact ⟨body, hline, hargs, htrim⟩

/-- The arguments that a text of either form has are segments. -/
theorem isPath_of_form_exist {cs body : List Char} {args : List String}
    (hform : form cs = .exist body) (hargs : arguments? body = some args) : IsPath args :=
  ((arguments?_eq_some_iff (form_eq_exist_iff.mp hform).2).mp hargs).1

theorem isPath_of_form_eq {cs body : List Char} {args : List String}
    (hform : form cs = .eq body) (hargs : arguments? body = some args) : IsPath args :=
  ((arguments?_eq_some_iff (form_eq_eq_iff.mp hform).2).mp hargs).1

theorem compile_of_isLayout_eq (factory : RendererFactory) {path : List String} {token : String}
    {v : Value} (hpath : IsPath path) (htoken : IsSegment token) (hv : Literal.read token = .ok v)
    {text : String} (hlayout : IsLayout "EQ" (path ++ [token]) text) :
    (compile factory (.str text)).1 = .ok (ofPathValue (Text.trim text) path v) := by
  have htokens := isPath_append_singleton_iff.mpr ⟨hpath.2, htoken⟩
  obtain ⟨body, hform, hargs⟩ := (isLayout_eq_iff_form htokens).mp hlayout
  exact compile_eq_ok_iff.mpr
    (.inr (.inr ⟨body, path, token, v, hform, hpath.1, hargs, hv, rfl⟩))

/-- The compiler reads exactly the layouts, each as what is written in it, and no text is a
layout in two ways. -/
theorem compile_reads_exactly_layouts (factory : RendererFactory) (text : String)
    (path : List String) :
    ((∃ c, (compile factory (.str text)).1 = .ok c ∧ c.kind = .exist ∧ c.path = path) ↔
      IsPath path ∧ IsLayout "Exist" path text) ∧
    (∀ v, (∃ c, (compile factory (.str text)).1 = .ok c ∧ c.kind = .eq ∧ c.path = path ∧
        c.value = v) ↔
      IsPath path ∧ ∃ token, IsSegment token ∧ Literal.read token = .ok v ∧
        IsLayout "EQ" (path ++ [token]) text) ∧
    (∀ tokens others, IsPath tokens → IsPath others →
      ¬ (IsLayout "Exist" tokens text ∧ IsLayout "EQ" others text) ∧
        ∀ keyword ∈ ["Exist", "EQ"],
          IsLayout keyword tokens text → IsLayout keyword others text → tokens = others) := by
  refine ⟨?_, ?_, ?_⟩
  · rw [exist_of_compile_iff]
    constructor
    · rintro ⟨body, hform, hargs⟩
      have hpath := isPath_of_form_exist hform hargs
      exact ⟨hpath, (isLayout_exist_iff_form hpath).mpr ⟨body, hform, hargs⟩⟩
    · rintro ⟨hpath, hlayout⟩
      exact (isLayout_exist_iff_form hpath).mp hlayout
  · intro v
    rw [eq_of_compile_iff]
    constructor
    · rintro ⟨body, token, hform, hne, hargs, hv⟩
      have htokens := isPath_of_form_eq hform hargs
      obtain ⟨hseg, htoken⟩ := isPath_append_singleton_iff.mp htokens
      refine ⟨⟨hne, hseg⟩, token, htoken, hv, ?_⟩
      exact (isLayout_eq_iff_form htokens).mpr ⟨body, hform, hargs⟩
    · rintro ⟨⟨hne, hseg⟩, token, htoken, hv, hlayout⟩
      have htokens := isPath_append_singleton_iff.mpr ⟨hseg, htoken⟩
      obtain ⟨body, hform, hargs⟩ := (isLayout_eq_iff_form htokens).mp hlayout
      exact ⟨body, token, hform, hne, hargs, hv⟩
  · intro tokens others htokens hothers
    refine ⟨not_isLayout_exist_and_eq htokens hothers, ?_⟩
    intro keyword hkeyword h h'
    have hstart : IsKeyword keyword := by
      rcases List.mem_pair.mp hkeyword with rfl | rfl
      · exact isKeyword_exist
      · exact isKeyword_eq
    exact h.tokens_unique hstart htokens hothers h'

end Condition

end EventSieve
