import EventSieve.Proofs.Condition.Form
import EventSieve.Proofs.Results

/-!
# What compiles

The arguments of a condition are segments: texts with no comma, no line break and no
blank at either end. `arguments?_eq_some_iff` says which bodies have which arguments.
`compile_eq_ok_iff` is the inversion of the whole compiler: a compiled condition is
one of three, and each has all of its fields determined by its text. Later modules
use it and do not unfold the compiler again.
-/

namespace EventSieve

open Text

def IsInlineBlanks (cs : List Char) : Prop := IsBlanks cs ∧ '\n' ∉ cs

/-- A text that stands for itself between two commas. -/
structure IsSegment (s : String) : Prop where
  nonempty : s ≠ ""
  comma : ',' ∉ s.toList
  lineBreak : '\n' ∉ s.toList
  trimmed : IsTrimmed s.toList

theorem isSegment_iff {s : String} :
    IsSegment s ↔ s ≠ "" ∧ ',' ∉ s.toList ∧ '\n' ∉ s.toList ∧ IsTrimmed s.toList := by
  constructor
  · intro h
    exact ⟨h.nonempty, h.comma, h.lineBreak, h.trimmed⟩
  · rintro ⟨hne, hcomma, hline, htrimmed⟩
    exact ⟨hne, hcomma, hline, htrimmed⟩

instance (s : String) : Decidable (IsSegment s) := decidable_of_iff _ isSegment_iff.symm

/-- An argument as it is written, with blanks around it. -/
def IsPadded (argument : String) (part : List Char) : Prop :=
  ∃ left right, IsInlineBlanks left ∧ IsInlineBlanks right ∧
    part = left ++ (argument.toList ++ right)

theorem comma_not_mem_of_isBlanks {cs : List Char} (h : IsBlanks cs) : ',' ∉ cs := by
  intro hc
  have hblank := h ',' hc
  revert hblank
  decide

theorem IsPadded.trimChars_eq {argument : String} {part : List Char} (h : IsPadded argument part)
    (htrimmed : IsTrimmed argument.toList) : trimChars part = argument.toList := by
  obtain ⟨left, right, hleft, hright, rfl⟩ := h
  exact htrimmed.trimChars_between hleft.1 hright.1

theorem IsPadded.not_mem_comma {argument : String} {part : List Char}
    (h : IsPadded argument part) (hcomma : ',' ∉ argument.toList) : ',' ∉ part := by
  obtain ⟨left, right, hleft, hright, rfl⟩ := h
  have hl := comma_not_mem_of_isBlanks hleft.1
  have hr := comma_not_mem_of_isBlanks hright.1
  simp [hl, hr, hcomma]

theorem IsPadded.not_mem_lineBreak {argument : String} {part : List Char}
    (h : IsPadded argument part) (hline : '\n' ∉ argument.toList) : '\n' ∉ part := by
  obtain ⟨left, right, hleft, hright, rfl⟩ := h
  simp [hleft.2, hright.2, hline]

/-- A part on one line is its trimmed text with blanks around it. -/
theorem isPadded_trimChars {part : List Char} (hline : '\n' ∉ part) :
    IsPadded (String.ofList (trimChars part)) part := by
  obtain ⟨left, right, hleft, hright, hpart⟩ := exists_blanks_trimChars part
  refine ⟨left, right, ⟨hleft, ?_⟩, ⟨hright, ?_⟩, ?_⟩
  · intro h
    apply hline
    rw [hpart]
    simp [h]
  · intro h
    apply hline
    rw [hpart]
    simp [h]
  · rw [String.toList_ofList]
    exact hpart

theorem isSegment_trimChars {part : List Char} (hne : trimChars part ≠ []) (hcomma : ',' ∉ part)
    (hline : '\n' ∉ part) : IsSegment (String.ofList (trimChars part)) where
  nonempty := by simpa using hne
  comma := by
    rw [String.toList_ofList]
    exact fun h => hcomma (mem_of_mem_trimChars h)
  lineBreak := by
    rw [String.toList_ofList]
    exact fun h => hline (mem_of_mem_trimChars h)
  trimmed := by
    rw [String.toList_ofList]
    exact isTrimmed_trimChars part

namespace Condition

/-! ## Arguments -/

/-- Padded segments have no commas and no line breaks, and trimming gives them back. -/
theorem parts_of_forall₂_isPadded {args : List String} {parts : List (List Char)}
    (h : List.Forall₂ IsPadded args parts) (hseg : ∀ a ∈ args, IsSegment a) :
    (∀ part ∈ parts, ',' ∉ part ∧ '\n' ∉ part) ∧
      parts.map trimChars = args.map String.toList := by
  induction h with
  | nil => simp
  | @cons a part args parts hpad _ ih =>
      have ha := hseg a List.mem_cons_self
      obtain ⟨hparts, htrim⟩ := ih fun b hb => hseg b (List.mem_cons_of_mem a hb)
      constructor
      · intro p hp
        rcases List.mem_cons.mp hp with rfl | hp
        · exact ⟨hpad.not_mem_comma ha.comma, hpad.not_mem_lineBreak ha.lineBreak⟩
        · exact hparts p hp
      · rw [List.map_cons, List.map_cons, hpad.trimChars_eq ha.trimmed, htrim]

theorem arguments?_eq_some_iff {body : List Char} (hbody : '\n' ∉ body) {args : List String} :
    arguments? body = some args ↔
      (args ≠ [] ∧ ∀ a ∈ args, IsSegment a) ∧
        ∃ parts, List.Forall₂ IsPadded args parts ∧ body = [','].intercalate parts := by
  constructor
  · intro h
    rw [arguments?] at h
    split at h
    · cases h
    · next hempty =>
      cases h
      have hparts : [','].intercalate (body.splitOn ',') = body := List.intercalate_splitOn ','
      have hline : ∀ part ∈ body.splitOn ',', '\n' ∉ part := by
        intro part hpart hc
        apply hbody
        rw [← hparts, mem_intercalate_iff (by decide)]
        exact ⟨part, hpart, hc⟩
      refine ⟨⟨?_, ?_⟩, body.splitOn ',', ?_, hparts.symm⟩
      · simp [List.splitOn_ne_nil]
      · intro a ha
        rw [List.map_map, List.mem_map] at ha
        obtain ⟨part, hpart, rfl⟩ := ha
        have hne : trimChars part ≠ [] := by
          intro hnil
          exact hempty (List.mem_map.mpr ⟨part, hpart, hnil⟩)
        exact isSegment_trimChars hne (not_mem_of_mem_splitOn hpart) (hline part hpart)
      · rw [List.map_map, List.forall₂_map_left_iff, List.forall₂_same]
        intro part hpart
        exact isPadded_trimChars (hline part hpart)
  · rintro ⟨⟨hne, hseg⟩, parts, hpadded, rfl⟩
    obtain ⟨hparts, htrim⟩ := parts_of_forall₂_isPadded hpadded hseg
    have hpartsNe : parts ≠ [] := by
      rintro rfl
      exact hne (List.forall₂_nil_right_iff.mp hpadded)
    have hempty : [] ∉ args.map String.toList := by
      intro hmem
      obtain ⟨a, ha, hnil⟩ := List.mem_map.mp hmem
      apply (hseg a ha).nonempty
      simpa using hnil
    rw [arguments?, List.splitOn_intercalate ',' (fun part hpart => (hparts part hpart).1) hpartsNe,
      htrim, if_neg hempty, List.map_map]
    simp

/-- The last argument is what stands behind the last comma. -/
theorem eq_of_arguments?_eq_concat {front last : List Char} (h : ',' ∉ last)
    {path : List String} {token : String}
    (hargs : arguments? (front ++ ',' :: last) = some (path ++ [token])) :
    token = String.ofList (trimChars last) := by
  rw [arguments?, List.splitOn_append_cons_self, List.splitOn_eq_singleton h] at hargs
  split at hargs
  · cases hargs
  · simp only [List.map_append, List.map_cons, List.map_nil, Option.some.injEq] at hargs
    exact (List.append_singleton_inj.mp hargs).2.symm

theorem lineBreak_not_mem_intercalate {args : List String} {parts : List (List Char)}
    (h : List.Forall₂ IsPadded args parts) (hseg : ∀ a ∈ args, IsSegment a) :
    '\n' ∉ [','].intercalate parts := by
  rw [mem_intercalate_iff (by decide)]
  rintro ⟨part, hpart, hc⟩
  exact ((parts_of_forall₂_isPadded h hseg).1 part hpart).2 hc

/-! ## The three kinds of compiled conditions -/

def ofRenderer (source : String) (r : Renderer) : Condition where
  kind := .template
  source := source
  renderer := some r

def ofPath (source : String) (path : List String) : Condition where
  kind := .exist
  source := source
  path := path

def ofPathValue (source : String) (path : List String) (v : Value) : Condition where
  kind := .eq
  source := source
  path := path
  value := v

theorem templateOf_eq_ok_iff {factory : RendererFactory} {text : String} {c : Condition} :
    templateOf factory text = .ok c ↔ ∃ r, factory text = .ok r ∧ c = ofRenderer text r := by
  rw [templateOf]
  cases h : factory text with
  | error fault => simp [Except.map]
  | ok r =>
      simp only [Except.map, Except.ok.injEq, exists_eq_left']
      exact eq_comm

theorem existOf_eq_ok_iff {text : String} {body : List Char} {c : Condition} :
    existOf text body = .ok c ↔ ∃ path, arguments? body = some path ∧ c = ofPath text path := by
  rw [existOf]
  cases h : arguments? body with
  | none => simp
  | some path =>
      simp only [Except.ok.injEq, Option.some.injEq, exists_eq_left']
      exact eq_comm

theorem eqOf_eq_ok_iff {text : String} {body : List Char} {c : Condition} :
    eqOf text body = .ok c ↔
      ∃ path token v, path ≠ [] ∧ arguments? body = some (path ++ [token]) ∧
        Literal.read token = .ok v ∧ c = ofPathValue text path v := by
  rw [eqOf]
  cases h : arguments? body with
  | none => simp
  | some args =>
      simp only [Option.some.injEq]
      constructor
      · intro hc
        split at hc
        · next segment path token hpath hlast =>
          have hargs := List.dropLast_append_getLast? token hlast
          cases hv : Literal.read token with
          | error fault =>
              rw [hv] at hc
              cases hc
          | ok v =>
              rw [hv] at hc
              cases hc
              exact ⟨segment :: path, token, v, by simp, by rw [← hpath, hargs], hv, rfl⟩
        · cases hc
      · rintro ⟨path, token, v, hpath, rfl, hv, rfl⟩
        obtain ⟨segment, rest, rfl⟩ := List.exists_cons_of_ne_nil hpath
        rw [List.dropLast_concat, List.getLast?_concat]
        simp only [hv, ofPathValue]

/-- A text of the form `EQ` has an empty argument, or one argument only, or a path and a token. -/
theorem arguments?_cases (body : List Char) :
    arguments? body = none ∨ (∃ argument, arguments? body = some [argument]) ∨
      ∃ path token, path ≠ [] ∧ arguments? body = some (path ++ [token]) := by
  cases h : arguments? body with
  | none => exact .inl rfl
  | some args =>
      right
      rcases List.eq_nil_or_concat args with rfl | ⟨path, token, rfl⟩
      · rw [arguments?] at h
        split at h
        · cases h
        · simp [List.splitOn_ne_nil] at h
      · rw [List.concat_eq_append]
        by_cases hpath : path = []
        · exact .inl ⟨token, by rw [hpath, List.nil_append]⟩
        · exact .inr ⟨path, token, hpath, rfl⟩

theorem eqOf_of_arguments?_eq_none {body : List Char} (h : arguments? body = none)
    (text : String) : eqOf text body = .error (emptyArgument text) := by
  rw [eqOf, h]

theorem eqOf_of_singleton {body : List Char} {argument : String}
    (h : arguments? body = some [argument]) (text : String) :
    eqOf text body =
      .error (syntaxProblem "EQ needs at least one path segment and a value" text) := by
  rw [eqOf, h]
  rfl

theorem eqOf_of_read_eq_error {body : List Char} {path : List String} {token : String}
    {reason : LiteralFault} (hpath : path ≠ []) (h : arguments? body = some (path ++ [token]))
    (hread : Literal.read token = .error reason) (text : String) :
    eqOf text body = .error (.problem (reason.problem token)) := by
  obtain ⟨segment, rest, rfl⟩ := List.exists_cons_of_ne_nil hpath
  rw [eqOf, h]
  dsimp only
  rw [List.dropLast_concat, List.getLast?_concat]
  dsimp only
  rw [hread]

/-- The inversion of the compiler. -/
theorem compile_eq_ok_iff {factory : RendererFactory} {text : String} {c : Condition} :
    (compile factory (.str text)).1 = .ok c ↔
      (form (trimChars text.toList) = .template ∧
        ∃ r, factory (Text.trim text) = .ok r ∧ c = ofRenderer (Text.trim text) r) ∨
      (∃ body path, form (trimChars text.toList) = .exist body ∧ arguments? body = some path ∧
        c = ofPath (Text.trim text) path) ∨
      (∃ body path token v, form (trimChars text.toList) = .eq body ∧ path ≠ [] ∧
        arguments? body = some (path ++ [token]) ∧ Literal.read token = .ok v ∧
        c = ofPathValue (Text.trim text) path v) := by
  rw [compile_str, ofText, ofTrimmed, toList_trim]
  cases form (trimChars text.toList) with
  | template => simp [templateOf_eq_ok_iff]
  | exist body => simp [existOf_eq_ok_iff]
  | eq body => simp [eqOf_eq_ok_iff]
  | unknown => simp

theorem fst_compile_of_form_eq {factory : RendererFactory} {text : String} {body : List Char}
    (h : form (trimChars text.toList) = .eq body) :
    (compile factory (.str text)).1 = eqOf (Text.trim text) body := by
  rw [compile_str, ofText, ofTrimmed, toList_trim, h]

end Condition

end EventSieve
