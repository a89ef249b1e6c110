import EventSieve.Proofs.Condition.Compile

/-!
# Texts of templates

What a template is is decided twice: by the form of a condition text, which has to
stand on one line, and by the reader of templates, which looks at the ends of the text
only. `form_eq_template_iff_isWrapped` says how they differ. So the compiler and the
reader agree on every text but a template that goes over several lines, which the
compiler refuses before any factory sees it. What the factory sees is what it is handed:
the outcome of a compilation depends on the factory there and nowhere else.
-/

namespace EventSieve

open Text

/-! ## What the factory is handed -/

def Note.template? : Note → Option String
  | .made template => some template
  | _ => none

def factoryCalls (notes : List Note) : List String := notes.filterMap Note.template?

@[simp] theorem factoryCalls_nil : factoryCalls [] = [] := rfl

@[simp] theorem factoryCalls_append (notes more : List Note) :
    factoryCalls (notes ++ more) = factoryCalls notes ++ factoryCalls more :=
  List.filterMap_append

@[simp] theorem factoryCalls_entry (e : Entry) : factoryCalls [.entry e] = [] := rfl

@[simp] theorem factoryCalls_made (template : String) :
    factoryCalls [.made template] = [template] := rfl

/-! ## Texts between double braces -/

namespace Template

def IsWrapped (cs : List Char) : Prop := "\x7b\x7b".toList <+: cs ∧ "\x7d\x7d".toList <:+ cs

instance (cs : List Char) : Decidable (IsWrapped cs) :=
  inferInstanceAs (Decidable ("\x7b\x7b".toList <+: cs ∧ "\x7d\x7d".toList <:+ cs))

theorem isWrapped_iff {cs : List Char} :
    IsWrapped cs ↔ ∃ body, cs = "\x7b\x7b".toList ++ (body ++ "\x7d\x7d".toList) := by
  constructor
  · rintro ⟨⟨rest, hrest⟩, left, hleft⟩
    rw [← hrest] at hleft ⊢
    -- what stands before the closing braces is long enough to hold the opening ones
    match left with
    | [] => simp at hleft
    | [c] => simp at hleft
    | c :: d :: body =>
        refine ⟨body, ?_⟩
        rw [List.append_cancel_left_eq]
        simpa using (List.cons.inj (List.cons.inj hleft).2).2.symm
  · rintro ⟨body, rfl⟩
    exact ⟨List.prefix_append _ _, (List.suffix_append body _).trans (List.suffix_append _ _)⟩

theorem unwrap?_braces (body : List Char) :
    unwrap? ("\x7b\x7b".toList ++ (body ++ "\x7d\x7d".toList)) = some body := by
  have hreverse : (body ++ "\x7d\x7d".toList).reverse = '\x7d' :: '\x7d' :: body.reverse := by
    simp
  have hcs : "\x7b\x7b".toList ++ (body ++ "\x7d\x7d".toList) =
      '\x7b' :: '\x7b' :: (body ++ "\x7d\x7d".toList) := by
    simp
  rw [hcs, unwrap?, hreverse]
  simp

theorem isWrapped_of_unwrap? {cs body : List Char} (h : unwrap? cs = some body) : IsWrapped cs := by
  unfold unwrap? at h
  split at h
  · next rest =>
    split at h
    · next inner hinner =>
      have hrest : rest = inner.reverse ++ "\x7d\x7d".toList := by
        rw [← List.reverse_reverse rest, hinner]
        simp
      exact isWrapped_iff.mpr ⟨inner.reverse, by simp [hrest]⟩
    · cases h
  · cases h

/-- What is read as a template is wrapped. -/
theorem isWrapped_of_read {source : String} {t : Template} (h : read source = .ok t) :
    IsWrapped source.toList := by
  rw [read] at h
  split at h
  · cases h
  · next body hbody => exact isWrapped_of_unwrap? hbody

end Template

open Template

namespace Condition

/-- A condition text has the form of a template if it is wrapped and stands on one line. -/
theorem form_eq_template_iff_isWrapped {cs : List Char} :
    form cs = .template ↔ IsWrapped cs ∧ '\n' ∉ cs := by
  rw [form_eq_template_iff, isWrapped_iff]
  constructor
  · rintro ⟨body, rfl, hline⟩
    exact ⟨⟨body, rfl⟩, by simpa using hline⟩
  · rintro ⟨⟨body, rfl⟩, hline⟩
    exact ⟨body, rfl, by simpa using hline⟩

theorem form_of_isWrapped_of_mem {cs : List Char} (h : IsWrapped cs) (hline : '\n' ∈ cs) :
    form cs = .unknown := by
  obtain ⟨body, hbody⟩ := isWrapped_iff.mp h
  cases hform : form cs with
  | template => exact absurd hline (form_eq_template_iff_isWrapped.mp hform).2
  | exist inner =>
      have hcs := (form_eq_exist_iff.mp hform).1
      rw [hbody] at hcs
      simp at hcs
  | eq inner =>
      have hcs := (form_eq_eq_iff.mp hform).1
      rw [hbody] at hcs
      simp at hcs
  | unknown => rfl

/-! ## Compiling templates -/

theorem fst_compile_of_form_template {factory : RendererFactory} {text : String}
    (h : form (trimChars text.toList) = .template) :
    (compile factory (.str text)).1 =
      (factory (Text.trim text)).map (ofRenderer (Text.trim text)) := by
  rw [compile_str, ofText, ofTrimmed, toList_trim, h]
  rfl

theorem compile_of_form_unknown {factory : RendererFactory} {text : String}
    (h : form (trimChars text.toList) = .unknown) :
    compile factory (.str text) =
      (.error (syntaxProblem ("could not build condition from " ++ Text.trim text)
        (Text.trim text)), []) := by
  have hof : ofText factory text = .error (syntaxProblem
      ("could not build condition from " ++ Text.trim text) (Text.trim text)) := by
    rw [ofText, ofTrimmed, toList_trim, h]
  rw [compile_str, hof, compileNotes, factoryNotes, toList_trim, h]
  rfl

theorem factoryCalls_compileNotes (text : String) (result : Except CompileFault Condition) :
    factoryCalls (compileNotes text result) =
      if form text.toList = .template then [text] else [] := by
  have hcalls : factoryCalls (compileNotes text result) = factoryCalls (factoryNotes text) := by
    cases result with
    | error fault => rw [compileNotes.eq_def, List.append_nil]
    | ok c =>
        rw [compileNotes.eq_def, factoryCalls_append, factoryCalls_entry, List.append_nil]
  rw [hcalls, factoryNotes]
  split
  · exact factoryCalls_made text
  · exact factoryCalls_nil

theorem factoryCalls_compile (factory : RendererFactory) (text : String) :
    factoryCalls (compile factory (.str text)).2 =
      if form (trimChars text.toList) = .template then [Text.trim text] else [] := by
  rw [compile_str, factoryCalls_compileNotes, toList_trim]

/-- The outcome of a compilation depends on the factory only where it is handed a template. -/
theorem compile_congr {factory other : RendererFactory} {v : Value}
    (h : ∀ template ∈ factoryCalls (compile factory v).2, other template = factory template) :
    compile other v = compile factory v := by
  by_cases hv : ∃ text, v = .str text
  · obtain ⟨text, rfl⟩ := hv
    rw [factoryCalls_compile] at h
    have hof : ofText other text = ofText factory text := by
      rw [ofText, ofText, ofTrimmed, ofTrimmed, toList_trim]
      cases hform : form (trimChars text.toList) with
      | template =>
          rw [if_pos hform] at h
          show templateOf other (Text.trim text) = templateOf factory (Text.trim text)
          rw [templateOf, templateOf, h _ (List.mem_singleton.mpr rfl)]
      | exist body => rfl
      | eq body => rfl
      | unknown => rfl
    rw [compile_str, compile_str, hof]
  · have htext : ∀ text, v ≠ .str text := fun text hv' => hv ⟨text, hv'⟩
    rw [compile_of_ne_str htext, compile_of_ne_str htext]

end Condition

variable {w : Wording}

theorem RendererFactory.standard_eq_ok_iff {source : String} {r : Renderer} :
    standard w source = .ok r ↔ ∃ t, Template.read source = .ok t ∧ r = .ofTemplate w t := by
  rw [standard]
  cases hread : Template.read source with
  | ok t =>
      simp only [Except.ok.injEq, exists_eq_left']
      exact eq_comm
  | error fault =>
      cases hproblem : fault.problem? w source with
      | none => simp [hproblem]
      | some p => simp [hproblem]

theorem RendererFactory.standard_of_problem {source : String} {fault : TemplateFault} {p : Problem}
    (hread : Template.read source = .error fault) (hproblem : fault.problem? w source = some p) :
    standard w source = .error (.problem p) := by
  simp only [standard, hread, hproblem]

/-! ## Agreement -/

namespace Condition

/-- The compiler and the reader of templates agree on a text: if the trimmed text is wrapped,
it goes to the factory as it is, and a renderer that the factory makes of it gives a
condition; the standard factory gives a condition of a template exactly where the reader
accepts the trimmed text, and a problem of the reader is the problem of the compiler. -/
structure AgreesOnTemplate (w : Wording) (text : String) : Prop where
  handed : IsWrapped (Text.trim text).toList → ∀ factory,
    factoryCalls (compile factory (.str text)).2 = [Text.trim text]
  accepted : IsWrapped (Text.trim text).toList → ∀ (factory : RendererFactory) (r : Renderer),
    factory (Text.trim text) = .ok r →
      (compile factory (.str text)).1 = .ok (ofRenderer (Text.trim text) r)
  read : (∃ c, (compile (.standard w) (.str text)).1 = .ok c ∧ c.kind = .template) ↔
    ∃ t, Template.read (Text.trim text) = .ok t
  refused : IsWrapped (Text.trim text).toList → ∀ fault p,
    Template.read (Text.trim text) = .error fault → fault.problem? w (Text.trim text) = some p →
      (compile (.standard w) (.str text)).1 = .error (.problem p)

def SpansLines (text : String) : Prop :=
  IsWrapped (Text.trim text).toList ∧ '\n' ∈ (Text.trim text).toList

theorem compile_of_spansLines {text : String} (h : SpansLines text) (factory : RendererFactory) :
    compile factory (.str text) =
      (.error (syntaxProblem ("could not build condition from " ++ Text.trim text)
        (Text.trim text)), []) := by
  obtain ⟨hwrapped, hline⟩ := h
  rw [toList_trim] at hwrapped hline
  exact compile_of_form_unknown (form_of_isWrapped_of_mem hwrapped hline)

/-- The kind of a compiled condition is that of a template where the text has the form of one
and the factory makes a renderer. -/
theorem exists_template_iff {factory : RendererFactory} {text : String} :
    (∃ c, (compile factory (.str text)).1 = .ok c ∧ c.kind = .template) ↔
      form (trimChars text.toList) = .template ∧ ∃ r, factory (Text.trim text) = .ok r := by
  constructor
  · rintro ⟨c, hc, hkind⟩
    rcases compile_eq_ok_iff.mp hc with
      ⟨hform, r, hr, rfl⟩ | ⟨body, path, -, -, rfl⟩ | ⟨body, path, token, v, -, -, -, -, rfl⟩
    · exact ⟨hform, r, hr⟩
    · cases hkind
    · cases hkind
  · rintro ⟨hform, r, hr⟩
    exact ⟨_, compile_eq_ok_iff.mpr (.inl ⟨hform, r, hr, rfl⟩), rfl⟩

theorem agreesOnTemplate_of_not_spansLines {text : String} (h : ¬ SpansLines text) :
    AgreesOnTemplate w text := by
  have hform : IsWrapped (Text.trim text).toList → form (trimChars text.toList) = .template := by
    intro hwrapped
    rw [← toList_trim, form_eq_template_iff_isWrapped]
    exact ⟨hwrapped, fun hline => h ⟨hwrapped, hline⟩⟩
  constructor
  · intro hwrapped factory
    rw [factoryCalls_compile, if_pos (hform hwrapped)]
  · intro hwrapped factory r hr
    rw [fst_compile_of_form_template (hform hwrapped), hr]
    rfl
  · rw [exists_template_iff]
    simp only [RendererFactory.standard_eq_ok_iff]
    constructor
    · rintro ⟨-, r, t, ht, -⟩
      exact ⟨t, ht⟩
    · rintro ⟨t, ht⟩
      exact ⟨hform (isWrapped_of_read ht), _, t, ht, rfl⟩
  · intro hwrapped fault p hread hproblem
    rw [fst_compile_of_form_template (hform hwrapped),
      RendererFactory.standard_of_problem hread hproblem]
    rfl

theorem agreesOnTemplate_iff {text : String} : AgreesOnTemplate w text ↔ ¬ SpansLines text := by
  constructor
  · intro hagrees hspans
    have hcalls := hagrees.handed hspans.1 (.standard w)
    rw [compile_of_spansLines hspans] at hcalls
    cases hcalls
  · exact agreesOnTemplate_of_not_spansLines

/-- The compiler and the reader of templates agree on a text exactly if it is no template
over several lines. Such a text is refused for its syntax, whatever the factory, which does
not see it. -/
theorem agrees_unless_spansLines (w : Wording) (text : String) :
    (AgreesOnTemplate w text ↔ ¬ SpansLines text) ∧
    (SpansLines text → ∀ factory, compile factory (.str text) =
      (.error (syntaxProblem ("could not build condition from " ++ Text.trim text)
        (Text.trim text)), [])) :=
  ⟨agreesOnTemplate_iff, compile_of_spansLines⟩

/-- A choice in parentheses, over two lines: the reader accepts it. -/
theorem two_line_template_disagrees :
    (∃ t, Template.read "\x7b\x7b ('y' if a == 1\n else 'n') \x7d\x7d" = .ok t) ∧
      ∀ w, ¬ AgreesOnTemplate w "\x7b\x7b ('y' if a == 1\n else 'n') \x7d\x7d" := by
  constructor
  · have hread : (Template.read "\x7b\x7b ('y' if a == 1\n else 'n') \x7d\x7d").toOption.isSome :=
      by decide +kernel
    cases h : Template.read "\x7b\x7b ('y' if a == 1\n else 'n') \x7d\x7d" with
    | error fault =>
        rw [h] at hread
        cases hread
    | ok t => exact ⟨t, rfl⟩
  · intro w
    rw [agreesOnTemplate_iff, not_not]
    exact ⟨by decide +kernel, by decide +kernel⟩

end Condition

end EventSieve
