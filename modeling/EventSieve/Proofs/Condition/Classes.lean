import EventSieve.Proofs.Condition.Refusal
import EventSieve.Proofs.Condition.Surrogates

/-!
# Classes of errors

The class of the problem that is reported for a text can be read off the text. A template
is refused for what stands between its braces; a literal is refused only behind a path
that has all of its segments; and everything else that does not compile is a problem of
the syntax, which shows the trimmed text. A template with a surrogate is the exception: it
is not reported as a problem. `ofWideTrimmed_cases` goes through all texts, each with its shape
and with what the compiler makes of it.
-/

namespace EventSieve

open Text

namespace Text.WideText

/-! ## Shapes of texts -/

/-- A text on one line that is a body between two marks. -/
def IsBetween (opening closing : String) (body text : WideText) : Prop :=
  text = ofString opening ++ (body ++ ofString closing) ∧ .char '\n' ∉ text

/-- A template that is refused for what stands between its braces. -/
def HasBadTemplate (text : WideText) : Prop :=
  ∃ body : List Char, IsBetween "\x7b\x7b" "\x7d\x7d" (body.map .char) text ∧
    Template.IsRefused body

def IsUnencodable (text : WideText) : Prop :=
  (∃ body, IsBetween "\x7b\x7b" "\x7d\x7d" body text) ∧ ∃ i, .surrogate i ∈ text

/-- The form `EQ` with at least two arguments, none of them blank, of which the last one is no
literal. -/
def HasBadLiteral (text : WideText) : Prop :=
  ∃ body path last, IsBetween "EQ(" ")" body text ∧
    body.splitOn (.char ',') = path ++ [last] ∧ path ≠ [] ∧
    (∀ part ∈ path ++ [last], ¬ IsBlanks part) ∧
    ∃ reason, Literal.readWide (trim last) = .error reason

/-- A blank argument, or an `EQ` with one argument only. -/
def LacksArgument (text : WideText) : Prop :=
  ∃ body, ((IsBetween "Exist(" ")" body text ∨ IsBetween "EQ(" ")" body text) ∧
      ∃ part ∈ body.splitOn (.char ','), IsBlanks part) ∨
    IsBetween "EQ(" ")" body text ∧ (body.splitOn (.char ',')).length = 1

def HasNoForm (text : WideText) : Prop :=
  ∀ body, ¬ IsBetween "\x7b\x7b" "\x7d\x7d" body text ∧ ¬ IsBetween "Exist(" ")" body text ∧
    ¬ IsBetween "EQ(" ")" body text

/-! ## Shapes of shadows -/

theorem IsBetween.shadow {opening closing : String} {body text : WideText}
    (h : IsBetween opening closing body text) :
    text.shadow = opening.toList ++ (body.shadow ++ closing.toList) ∧ '\n' ∉ body.shadow := by
  obtain ⟨rfl, hline⟩ := h
  rw [shadow_append, shadow_append, shadow_ofString, shadow_ofString,
    mem_shadow_iff (by decide)]
  refine ⟨rfl, fun hmem => hline ?_⟩
  exact List.mem_append_right _ (List.mem_append_left _ hmem)

theorem exists_isBetween_of_shadow (opening closing : String) {text : WideText} {cs : List Char}
    (hopening : '\uFFFD' ∉ opening.toList ∧ '\n' ∉ opening.toList)
    (hclosing : '\uFFFD' ∉ closing.toList ∧ '\n' ∉ closing.toList)
    (h : text.shadow = opening.toList ++ (cs ++ closing.toList) ∧ '\n' ∉ cs) :
    ∃ body, IsBetween opening closing body text := by
  obtain ⟨htext, hline⟩ := h
  obtain ⟨front, rest, rfl, hfront, hrest⟩ := List.map_eq_append_iff.mp htext
  obtain ⟨body, back, rfl, hbody, hback⟩ := List.map_eq_append_iff.mp hrest
  refine ⟨body, ?_, ?_⟩
  · rw [eq_map_char_of_shadow hopening.1 hfront, eq_map_char_of_shadow hclosing.1 hback]
    rfl
  · rw [← mem_shadow_iff (by decide), htext]
    simp [hopening.2, hclosing.2, hline]

theorem inner_of_isBetween {opening : String} {body text : WideText}
    (h : IsBetween opening ")" body text) : text.inner opening = body := by
  have hlength : opening.length = (ofString opening).length := by
    rw [ofString, List.length_map, String.length_toList]
  rw [inner, h.1, hlength, List.drop_left]
  exact List.dropLast_concat

end Text.WideText

open WideText

namespace Condition

/-! ## Arguments -/

/-- There are no arguments where one of them is blank. -/
theorem wideArguments?_eq_none_iff {body : WideText} :
    wideArguments? body = none ↔ ∃ part ∈ body.splitOn (.char ','), IsBlanks part := by
  have hmem : [] ∈ (body.splitOn (.char ',')).map WideText.trim ↔
      ∃ part ∈ body.splitOn (.char ','), IsBlanks part := by
    simp only [List.mem_map, trim_eq_nil_iff]
  rw [← hmem, wideArguments?]
  split
  · next h => simp [h]
  · next h => simp [h]

theorem wideArguments?_of_not_blank {body : WideText}
    (h : ∀ part ∈ body.splitOn (.char ','), ¬ IsBlanks part) :
    wideArguments? body = some ((body.splitOn (.char ',')).map WideText.trim) := by
  have hmem : [] ∉ (body.splitOn (.char ',')).map WideText.trim := by
    simp only [List.mem_map, trim_eq_nil_iff, not_exists, not_and]
    exact h
  rw [wideArguments?]
  exact if_neg hmem

theorem wideEqOf_of_concat {body : WideText} {path : List WideText} {token : WideText}
    (hpath : path ≠ []) (h : wideArguments? body = some (path ++ [token])) (text : WideText) :
    wideEqOf text body =
      match Literal.readWide token with
      | .ok v => .ok { kind := .eq, source := text, path := path, value := v }
      | .error fault => .error (.fault (.problem (fault.wideProblem token))) := by
  obtain ⟨segment, rest, rfl⟩ := List.exists_cons_of_ne_nil hpath
  have hfront : (segment :: rest ++ [token]).dropLast = segment :: rest := List.dropLast_concat
  have hlast : (segment :: rest ++ [token]).getLast? = some token := List.getLast?_concat
  rw [wideEqOf, h]
  cases hread : Literal.readWide token with
  | ok v => simp only [hfront, hlast, hread]
  | error fault => simp only [hfront, hlast, hread]

/-! ## The compiler by the form of the text -/

variable {w : Wording} {text : WideText}

theorem ofWideTrimmed_of_isTemplate
    (h : ∃ body, IsBetween "\x7b\x7b" "\x7d\x7d" body text) :
    ofWideTrimmed w text = wideTemplateOf w text := by
  obtain ⟨body, hbody⟩ := h
  rw [ofWideTrimmed, form_eq_template_iff.mpr ⟨body.shadow, hbody.shadow⟩]

theorem ofWideTrimmed_of_isExist {body : WideText} (h : IsBetween "Exist(" ")" body text) :
    ofWideTrimmed w text = wideExistOf text body := by
  rw [ofWideTrimmed, form_eq_exist_iff.mpr h.shadow]
  dsimp only
  rw [inner_of_isBetween h]

theorem ofWideTrimmed_of_isEq {body : WideText} (h : IsBetween "EQ(" ")" body text) :
    ofWideTrimmed w text = wideEqOf text body := by
  rw [ofWideTrimmed, form_eq_eq_iff.mpr h.shadow]
  dsimp only
  rw [inner_of_isBetween h]

theorem ofWideTrimmed_of_hasNoForm (h : HasNoForm text) :
    ofWideTrimmed w text =
      .error (wideSyntaxProblem (.ofString "could not build condition from " ++ text) text) := by
  rw [ofWideTrimmed]
  cases hform : form text.shadow with
  | template =>
      obtain ⟨cs, hcs⟩ := form_eq_template_iff.mp hform
      obtain ⟨body, hbody⟩ :=
        exists_isBetween_of_shadow "\x7b\x7b" "\x7d\x7d" (by decide) (by decide) hcs
      exact absurd hbody (h body).1
  | exist cs =>
      have hcs := form_eq_exist_iff.mp hform
      obtain ⟨body, hbody⟩ :=
        exists_isBetween_of_shadow "Exist(" ")" (by decide) (by decide) hcs
      exact absurd hbody (h body).2.1
  | eq cs =>
      have hcs := form_eq_eq_iff.mp hform
      obtain ⟨body, hbody⟩ :=
        exists_isBetween_of_shadow "EQ(" ")" (by decide) (by decide) hcs
      exact absurd hbody (h body).2.2
  | unknown => rfl

/-! ## From shapes to classes -/

def IsProblem (family : ProblemFamily) (result : Except WideFault (Condition WideText)) : Prop :=
  ∃ p, result = .error (.fault (.problem p)) ∧ p.family = family

def ShowsText (text : WideText) (fault : WideFault) : Prop :=
  ∃ p, fault = .fault (.problem p) ∧ p.family = .conditionSyntax ∧
    p.details = [(.ofString "condition", .str text)]

theorem showsText_wideSyntaxProblem (message text : WideText) :
    ShowsText text (wideSyntaxProblem message text) := ⟨_, rfl, rfl, rfl⟩

section Results

variable {family : ProblemFamily} {result : Except WideFault (Condition WideText)}

theorem IsProblem.not_ok (h : IsProblem family result) {c : Condition WideText} :
    result ≠ .ok c := by
  obtain ⟨p, rfl, -⟩ := h
  exact nofun

theorem IsProblem.not_unencodable (h : IsProblem family result) {error : String} :
    result ≠ .error (.unencodable error) := by
  obtain ⟨p, rfl, -⟩ := h
  exact nofun

theorem IsProblem.unique (h : IsProblem family result) {other : ProblemFamily}
    (hother : IsProblem other result) : family = other := by
  obtain ⟨p, rfl, rfl⟩ := h
  obtain ⟨q, hq, rfl⟩ := hother
  cases hq
  rfl

end Results

/-- A template without surrogates is a row of characters between braces. -/
theorem isBetween_map_char_iff {source : String} {body : List Char} :
    IsBetween "\x7b\x7b" "\x7d\x7d" (body.map .char) (ofString source) ↔
      source.toList = "\x7b\x7b".toList ++ (body ++ "\x7d\x7d".toList) ∧
        '\n' ∉ source.toList := by
  have hline : .char '\n' ∈ ofString source ↔ '\n' ∈ source.toList := by
    rw [← mem_shadow_iff (by decide), shadow_ofString]
  rw [IsBetween, hline, ofString, ofString, ofString, ← List.map_append, ← List.map_append,
    List.map_inj_right fun _ _ => CodePoint.char.inj]

theorem isProblem_of_hasBadTemplate (hnull : .char '\x00' ∉ text) (h : text.HasBadTemplate) :
    IsProblem .template (ofWideTrimmed w text) := by
  obtain ⟨body, hbody, hrefused⟩ := h
  rw [ofWideTrimmed_of_isTemplate ⟨_, hbody⟩]
  have hshadow := hbody.shadow.1
  obtain ⟨source, rfl⟩ : ∃ source, text = ofString source := by
    refine ⟨String.ofList ("\x7b\x7b".toList ++ (body ++ "\x7d\x7d".toList)), ?_⟩
    rw [ofString_ofList, List.map_append, List.map_append]
    exact hbody.1
  rw [← mem_shadow_iff (by decide), shadow_ofString] at hnull
  rcases RendererFactory.standard_cases w (isBetween_map_char_iff.mp hbody).1 hnull with
    ⟨haccepted, -⟩ | ⟨-, p, hp, hfamily⟩
  · exact absurd hrefused haccepted
  · rw [wideTemplateOf_ofString, templateOf, hp]
    exact ⟨p.widen, rfl, hfamily⟩

theorem exists_unencodable_of_isUnencodable (h : text.IsUnencodable) :
    ∃ error, ofWideTrimmed w text = .error (.unencodable error) := by
  rw [ofWideTrimmed_of_isTemplate h.1, wideTemplateOf, string?_eq_none_iff.mpr h.2]
  exact ⟨_, rfl⟩

theorem isProblem_of_hasBadLiteral (h : text.HasBadLiteral) :
    IsProblem .literal (ofWideTrimmed w text) := by
  obtain ⟨body, path, last, hbody, hsplit, hpath, hblank, reason, hread⟩ := h
  rw [← hsplit] at hblank
  have hargs := wideArguments?_of_not_blank hblank
  rw [hsplit, List.map_append, List.map_singleton] at hargs
  have hmap : path.map WideText.trim ≠ [] := by simpa using hpath
  rw [ofWideTrimmed_of_isEq hbody, wideEqOf_of_concat hmap hargs, hread]
  exact ⟨_, rfl, reason.family_wideProblem _⟩

theorem exists_showsText_of_lacksArgument (h : text.LacksArgument) :
    ∃ fault, ofWideTrimmed w text = .error fault ∧ ShowsText text fault := by
  obtain ⟨body, ⟨hbody | hbody, hblank⟩ | ⟨hbody, hlength⟩⟩ := h
  · rw [ofWideTrimmed_of_isExist hbody, wideExistOf, wideArguments?_eq_none_iff.mpr hblank]
    exact ⟨_, rfl, showsText_wideSyntaxProblem _ _⟩
  · rw [ofWideTrimmed_of_isEq hbody, wideEqOf, wideArguments?_eq_none_iff.mpr hblank]
    exact ⟨_, rfl, showsText_wideSyntaxProblem _ _⟩
  · rw [ofWideTrimmed_of_isEq hbody, wideEqOf]
    obtain ⟨part, hpart⟩ := List.length_eq_one_iff.mp hlength
    cases hargs : wideArguments? body with
    | none => exact ⟨_, rfl, showsText_wideSyntaxProblem _ _⟩
    | some arguments =>
        rw [wideArguments?, hpart] at hargs
        split at hargs
        · cases hargs
        · cases hargs
          exact ⟨_, rfl, showsText_wideSyntaxProblem _ _⟩

theorem exists_showsText_of_lacksArgument_or_hasNoForm
    (h : text.LacksArgument ∨ text.HasNoForm) :
    ∃ fault, ofWideTrimmed w text = .error fault ∧ ShowsText text fault := by
  rcases h with h | h
  · exact exists_showsText_of_lacksArgument h
  · rw [ofWideTrimmed_of_hasNoForm h]
    exact ⟨_, rfl, showsText_wideSyntaxProblem _ _⟩

/-! ## From classes to shapes -/

theorem exists_ok_or_template_shape (hnull : .char '\x00' ∉ text)
    (h : ∃ body, IsBetween "\x7b\x7b" "\x7d\x7d" body text) :
    (∃ c, wideTemplateOf w text = .ok c) ∨ text.HasBadTemplate ∨ text.IsUnencodable := by
  cases hstring : text.string? with
  | none => exact .inr (.inr ⟨h, string?_eq_none_iff.mp hstring⟩)
  | some source =>
      obtain rfl := string?_eq_some_iff.mp hstring
      obtain ⟨body, hbody⟩ := h
      have hsource := hbody.shadow.1
      rw [shadow_ofString] at hsource
      rw [← mem_shadow_iff (by decide), shadow_ofString] at hnull
      rcases RendererFactory.standard_cases w hsource hnull with ⟨-, r, hr⟩ | ⟨hrefused, -⟩
      · left
        rw [wideTemplateOf_ofString, templateOf, hr]
        exact ⟨_, rfl⟩
      · refine .inr (.inl ⟨body.shadow, isBetween_map_char_iff.mpr ⟨hsource, ?_⟩, hrefused⟩)
        rw [← shadow_ofString, mem_shadow_iff (by decide)]
        exact hbody.2

theorem exists_ok_or_eq_shape {body : WideText} (h : IsBetween "EQ(" ")" body text) :
    (∃ c, wideEqOf text body = .ok c) ∨ text.HasBadLiteral ∨ text.LacksArgument := by
  by_cases hblank : ∃ part ∈ body.splitOn (.char ','), IsBlanks part
  · exact .inr (.inr ⟨body, .inl ⟨.inr h, hblank⟩⟩)
  simp only [not_exists, not_and] at hblank
  have hargs := wideArguments?_of_not_blank hblank
  rcases List.eq_nil_or_concat (body.splitOn (.char ',')) with hnil | ⟨path, last, hsplit⟩
  · exact absurd hnil (List.splitOn_ne_nil _ _)
  rw [List.concat_eq_append] at hsplit
  rw [hsplit, List.map_append, List.map_singleton] at hargs
  rw [hsplit] at hblank
  by_cases hpath : path = []
  · refine .inr (.inr ⟨body, .inr ⟨h, ?_⟩⟩)
    rw [hsplit, hpath]
    rfl
  · have hmap : path.map WideText.trim ≠ [] := by simpa using hpath
    rw [wideEqOf_of_concat hmap hargs]
    cases hread : Literal.readWide (WideText.trim last) with
    | ok v => exact .inl ⟨_, rfl⟩
    | error reason =>
        exact .inr (.inl ⟨body, path, last, h, hsplit, hpath, hblank, reason, hread⟩)

/-- A text without null characters compiles, or has one of the shapes that do not. -/
theorem exists_ok_or_shape (w : Wording) (hnull : .char '\x00' ∉ text) :
    (∃ c, ofWideTrimmed w text = .ok c) ∨ text.HasBadLiteral ∨ text.HasBadTemplate ∨
      text.IsUnencodable ∨ text.LacksArgument ∨ text.HasNoForm := by
  by_cases htemplate : ∃ body, IsBetween "\x7b\x7b" "\x7d\x7d" body text
  · rw [ofWideTrimmed_of_isTemplate htemplate]
    rcases exists_ok_or_template_shape (w := w) hnull htemplate with h | h | h
    · exact .inl h
    · exact .inr (.inr (.inl h))
    · exact .inr (.inr (.inr (.inl h)))
  by_cases hexist : ∃ body, IsBetween "Exist(" ")" body text
  · obtain ⟨body, hbody⟩ := hexist
    rw [ofWideTrimmed_of_isExist hbody, wideExistOf]
    cases hargs : wideArguments? body with
    | some path => exact .inl ⟨_, rfl⟩
    | none =>
        have hblank := wideArguments?_eq_none_iff.mp hargs
        exact .inr (.inr (.inr (.inr (.inl ⟨body, .inl ⟨.inl hbody, hblank⟩⟩))))
  by_cases heq : ∃ body, IsBetween "EQ(" ")" body text
  · obtain ⟨body, hbody⟩ := heq
    rw [ofWideTrimmed_of_isEq hbody]
    rcases exists_ok_or_eq_shape hbody with h | h | h
    · exact .inl h
    · exact .inr (.inl h)
    · exact .inr (.inr (.inr (.inr (.inl h))))
  · refine .inr (.inr (.inr (.inr (.inr fun body => ⟨?_, ?_, ?_⟩))))
    · exact fun h => htemplate ⟨body, h⟩
    · exact fun h => hexist ⟨body, h⟩
    · exact fun h => heq ⟨body, h⟩

theorem ShowsText.isProblem {fault : WideFault} (h : ShowsText text fault)
    (hresult : ofWideTrimmed w text = .error fault) :
    IsProblem .conditionSyntax (ofWideTrimmed w text) := by
  obtain ⟨p, rfl, hfamily, -⟩ := h
  exact ⟨p, hresult, hfamily⟩

/-- The family of the problem tells the shape of the text. -/
theorem IsProblem.shape {family : ProblemFamily} (h : IsProblem family (ofWideTrimmed w text))
    (hnull : .char '\x00' ∉ text) :
    family = .literal ∧ text.HasBadLiteral ∨ family = .template ∧ text.HasBadTemplate ∨
      family = .conditionSyntax ∧ (text.LacksArgument ∨ text.HasNoForm) := by
  rcases exists_ok_or_shape w hnull with ⟨c, hc⟩ | hliteral | htemplate | hencoding | hsyntax
  · exact absurd hc h.not_ok
  · exact .inl ⟨h.unique (isProblem_of_hasBadLiteral hliteral), hliteral⟩
  · exact .inr (.inl ⟨h.unique (isProblem_of_hasBadTemplate hnull htemplate), htemplate⟩)
  · obtain ⟨error, herror⟩ := exists_unencodable_of_isUnencodable (w := w) hencoding
    exact absurd herror h.not_unencodable
  · obtain ⟨fault, hfault, hshows⟩ :=
      exists_showsText_of_lacksArgument_or_hasNoForm (w := w) hsyntax
    exact .inr (.inr ⟨h.unique (hshows.isProblem hfault), hsyntax⟩)

theorem isUnencodable_of_error {error : String} (hnull : .char '\x00' ∉ text)
    (h : ofWideTrimmed w text = .error (.unencodable error)) : text.IsUnencodable := by
  rcases exists_ok_or_shape w hnull with ⟨c, hc⟩ | hliteral | htemplate | hencoding | hsyntax
  · rw [hc] at h
    cases h
  · exact absurd h (isProblem_of_hasBadLiteral hliteral).not_unencodable
  · exact absurd h (isProblem_of_hasBadTemplate hnull htemplate).not_unencodable
  · exact hencoding
  · obtain ⟨fault, hfault, hshows⟩ :=
      exists_showsText_of_lacksArgument_or_hasNoForm (w := w) hsyntax
    exact absurd h (hshows.isProblem hfault).not_unencodable

theorem null_not_mem_trim (hnull : .char '\x00' ∉ text) : .char '\x00' ∉ text.trim := by
  rw [← mem_shadow_iff (by decide), shadow_trim]
  rw [← mem_shadow_iff (by decide)] at hnull
  exact fun h => hnull (mem_of_mem_trimChars h)

/-- The class of the error that a text without null characters gives, if any, is read off its
trimmed text: a bad literal, a bad template, or otherwise the syntax, with the trimmed text in
the details. What lacks an argument is never blamed on its literal. Of no class is the error of a
template that cannot be encoded, which is the case where a surrogate is in it. -/
theorem errors_classified_by_shape (w : Wording) (hnull : .char '\x00' ∉ text) :
    (IsProblem .literal (ofWideText w text) ↔ text.trim.HasBadLiteral) ∧
    (IsProblem .template (ofWideText w text) ↔ text.trim.HasBadTemplate) ∧
    ((∃ error, ofWideText w text = .error (.unencodable error)) ↔ text.trim.IsUnencodable) ∧
    ((∃ fault, ofWideText w text = .error fault ∧ ShowsText text.trim fault) ↔
      text.trim.LacksArgument ∨ text.trim.HasNoForm) ∧
    ∀ fault, ofWideText w text = .error fault → ¬ text.trim.HasBadLiteral →
      ¬ text.trim.HasBadTemplate → ¬ text.trim.IsUnencodable → ShowsText text.trim fault := by
  have htrim : ofWideText w text = ofWideTrimmed w text.trim := rfl
  replace hnull := null_not_mem_trim hnull
  rw [htrim]
  refine ⟨⟨?_, isProblem_of_hasBadLiteral⟩, ⟨?_, isProblem_of_hasBadTemplate hnull⟩,
    ⟨?_, exists_unencodable_of_isUnencodable⟩,
    ⟨?_, exists_showsText_of_lacksArgument_or_hasNoForm⟩, ?_⟩
  · intro h
    rcases h.shape hnull with ⟨-, hliteral⟩ | ⟨hfamily, -⟩ | ⟨hfamily, -⟩
    · exact hliteral
    · cases hfamily
    · cases hfamily
  · intro h
    rcases h.shape hnull with ⟨hfamily, -⟩ | ⟨-, htemplate⟩ | ⟨hfamily, -⟩
    · cases hfamily
    · exact htemplate
    · cases hfamily
  · rintro ⟨error, h⟩
    exact isUnencodable_of_error hnull h
  · rintro ⟨fault, hfault, hshows⟩
    rcases (hshows.isProblem hfault).shape hnull with ⟨hfamily, -⟩ | ⟨hfamily, -⟩ | ⟨-, hsyntax⟩
    · cases hfamily
    · cases hfamily
    · exact hsyntax
  · intro fault hfault hliteral htemplate hencoding
    rcases exists_ok_or_shape w hnull with ⟨c, hc⟩ | h | h | h | hsyntax
    · rw [hc] at hfault
      cases hfault
    · exact absurd h hliteral
    · exact absurd h htemplate
    · exact absurd h hencoding
    · obtain ⟨other, hother, hshows⟩ :=
        exists_showsText_of_lacksArgument_or_hasNoForm (w := w) hsyntax
      rw [hother] at hfault
      cases hfault
      exact hshows

/-- A literal is to blame behind a path, and not behind a blank argument. -/
theorem blank_argument_before_bad_literal :
    (.char '\x00' ∉ ofString " EQ(a, 1.x) " ∧
        IsProblem .literal (ofWideText default (ofString " EQ(a, 1.x) "))) ∧
      .char '\x00' ∉ ofString "EQ(a, , 1.x)" ∧ ∃ fault,
        ofWideText default (ofString "EQ(a, , 1.x)") = .error fault ∧
          ShowsText (ofString "EQ(a, , 1.x)") fault := by
  have hbad : (ofString " EQ(a, 1.x) ").trim.HasBadLiteral := by
    refine ⟨ofString "a, 1.x", [ofString "a"], ofString " 1.x", ⟨by decide, by decide⟩,
      by decide, by decide, ?_, .notDouble, by rfl⟩
    simp only [← trim_eq_nil_iff]
    decide
  have hlacks : (ofString "EQ(a, , 1.x)").trim.LacksArgument := by
    refine ⟨ofString "a, , 1.x", .inl ⟨.inr ⟨by decide, by decide⟩, ofString " ", by decide, ?_⟩⟩
    rw [← trim_eq_nil_iff]
    decide
  have hnull : .char '\x00' ∉ ofString " EQ(a, 1.x) " := by decide
  have hother : .char '\x00' ∉ ofString "EQ(a, , 1.x)" := by decide
  exact ⟨⟨hnull, (errors_classified_by_shape default hnull).1.mpr hbad⟩, hother,
    (errors_classified_by_shape default hother).2.2.2.1.mpr (.inl hlacks)⟩

/-- A surrogate in a template gives an error that is reported as no problem. -/
theorem surrogate_in_template_unreported :
    ofWideText default
        (ofString "\x7b\x7b '" ++ [.surrogate 0] ++ ofString "' \x7d\x7d") =
      .error (.unencodable
        ("'utf-8' codec can't encode character '\\ud800' in position 1: " ++
          "surrogates not allowed")) := by
  rfl

end Condition

end EventSieve
