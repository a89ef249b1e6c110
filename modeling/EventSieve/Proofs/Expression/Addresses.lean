import EventSieve.Proofs.Expression.Plain

/-!
# Operands in two memories

An operand is shown alike in two memories if it is plain, and so is a text in which it is
filled in. What an operator, a format or a function makes of such operands is therefore the
same in both memories. A text that is filled in hands its argument on from directive to
directive, and each of them leaves it as it is, uses it up, or puts a field in its place.
-/

namespace EventSieve.Expression

open Text

/-! ## How operands are shown -/

namespace Operand

/-- An operand is shown alike in two memories: they are the same, or it is plain. -/
def IsSteady (m m' : Memory) (o : Operand) : Prop := m = m' ∨ o.isPlain = true

variable {m m' : Memory}

theorem written?_eq_of_isSteady {o : Operand} (h : IsSteady m m' o) :
    o.written? m = o.written? m' := by
  rcases h with rfl | h
  · rfl
  · cases o with
    | function f =>
        cases f with
        | lower => cases h
        | upper => cases h
        | _ => rfl
    | method r n object => cases h
    | member k n callable => cases h
    | _ => rfl

theorem text?_eq_of_isSteady {o : Operand} (h : IsSteady m m' o) : o.text? m = o.text? m' := by
  unfold text?
  split
  · rfl
  · rw [written?_eq_of_isSteady h]

theorem toText?_eq_of_isSteady {o : Operand} (h : IsSteady m m' o) :
    o.toText? m = o.toText? m' := by
  unfold toText?
  split
  · rfl
  · rw [text?_eq_of_isSteady h]

theorem piece?_eq_of_isSteady {o : Operand} (h : IsSteady m m' o) : piece? m o = piece? m' o := by
  rw [piece?, piece?, toText?_eq_of_isSteady h]

theorem format?_eq_of_isSteady {o : Operand} (h : IsSteady m m' o) (cs : WideText) :
    o.format? m cs = o.format? m' cs := by
  have hchars : o.formatChars? m = o.formatChars? m' := by
    funext spec
    unfold formatChars?
    rw [text?_eq_of_isSteady h]
  unfold format?
  rw [hchars]

theorem formatted?_eq_of_isSteady {o : Operand} (h : IsSteady m m' o) (spec : Operand) :
    formatted? m o spec = formatted? m' o spec := by
  simp only [formatted?, format?_eq_of_isSteady h]

end Operand

/-! ## Texts that are filled in -/

namespace Directive

open Operand

variable {m m' : Memory} {o : Operand}

theorem asciiForm?_eq_of_isSteady (h : IsSteady m m' o) : asciiForm? m o = asciiForm? m' o := by
  rw [asciiForm?, asciiForm?, written?_eq_of_isSteady h]

theorem showInText?_eq_of_isSteady (d : Directive) (h : IsSteady m m' o) :
    d.showInText? m o = d.showInText? m' o := by
  rw [showInText?, showInText?, text?_eq_of_isSteady h, written?_eq_of_isSteady h,
    asciiForm?_eq_of_isSteady h]

theorem showInBytes?_eq_of_isSteady (d : Directive) (h : IsSteady m m' o) :
    d.showInBytes? m o = d.showInBytes? m' o := by
  unfold showInBytes?
  rw [asciiForm?_eq_of_isSteady h]

theorem takeCount?_argument {bound : Nat} {cs rest : WideText} {argument left : Option Operand}
    {n : Option Int} (h : takeCount? bound cs argument = some (n, rest, left)) :
    left = argument ∨ left = none := by
  unfold takeCount? at h
  split at h
  · obtain ⟨o, -, h⟩ := Option.bind_eq_some_iff.mp h
    obtain ⟨k, -, h⟩ := Option.bind_eq_some_iff.mp h
    split at h
    · cases h
    · cases h
      exact .inr rfl
  · dsimp only at h
    split at h
    · cases h
      exact .inl rfl
    · split at h
      · cases h
      · cases h
        exact .inl rfl

theorem takePrecision?_argument {cs rest : WideText} {argument left : Option Operand}
    {n : Option Nat} (h : takePrecision? cs argument = some (n, rest, left)) :
    left = argument ∨ left = none := by
  unfold takePrecision? at h
  split at h
  · obtain ⟨⟨k, more, kept⟩, hk, h⟩ := Option.bind_eq_some_iff.mp h
    cases h
    exact takeCount?_argument hk
  · cases h
    exact .inl rfl

theorem take?_argument {cs rest : WideText} {argument left : Option Operand} {d : Directive}
    (h : take? cs argument = some (d, rest, left)) : left = argument ∨ left = none := by
  unfold take? at h
  obtain ⟨⟨width, cs, afterWidth⟩, hwidth, h⟩ := Option.bind_eq_some_iff.mp h
  obtain ⟨⟨precision, cs, afterPrecision⟩, hprecision, h⟩ := Option.bind_eq_some_iff.mp h
  have hleft : left = afterPrecision := by
    dsimp only at h
    split at h
    · cases h
      rfl
    · cases h
  rw [hleft]
  rcases takePrecision?_argument hprecision with rfl | rfl
  · exact takeCount?_argument hwidth
  · exact .inr rfl

end Directive

namespace Fill

open Operand Directive

variable {m m' : Memory}

theorem show?_eq_of_isSteady (f : Fill) (d : Directive) {o : Operand} (h : IsSteady m m' o) :
    f.show? m d o = f.show? m' d o := by
  rw [show?, show?, showInBytes?_eq_of_isSteady d h, showInText?_eq_of_isSteady d h]

theorem isSteady_of_field? {f : Fill} {key : WideText} {o : Operand} (h : f.field? key = some o) :
    IsSteady m m' o := by
  unfold field? at h
  split at h
  · split at h
    · cases h
    · exact .inr (plain?_item? _ _ o h)
  · cases h

/-- The argument of a text that is filled in, if it is still there, is shown alike. -/
def IsSteadyArgument (m m' : Memory) (argument : Option Operand) : Prop :=
  ∀ o, argument = some o → IsSteady m m' o

/-- A key in parentheses puts a field in the place of the argument. -/
theorem isSteadyArgument_of_subject? {f : Fill} {cs rest : WideText}
    {argument left : Option Operand} (hargument : IsSteadyArgument m m' argument)
    (h : f.subject? cs argument = some (rest, left)) : IsSteadyArgument m m' left := by
  unfold subject? at h
  split at h
  · split at h
    · obtain ⟨o, ho, h⟩ := Option.map_eq_some_iff.mp h
      cases h
      rintro _ ⟨⟩
      exact isSteady_of_field? ho
    · cases h
  · cases h
    exact hargument

theorem isSteadyArgument_of_take? {cs rest : WideText} {argument left : Option Operand}
    {d : Directive} (hargument : IsSteadyArgument m m' argument)
    (h : take? cs argument = some (d, rest, left)) : IsSteadyArgument m m' left := by
  rcases take?_argument h with rfl | rfl
  · exact hargument
  · exact nofun

theorem directive?_eq_of_isSteadyArgument (f : Fill) (cs : WideText) {argument : Option Operand}
    (h : IsSteadyArgument m m' argument) :
    f.directive? m cs argument = f.directive? m' cs argument := by
  unfold directive?
  refine Option.bind_congr fun (cs, taken) hsubject => ?_
  refine Option.bind_congr fun (d, rest, left) htake => ?_
  have hleft := isSteadyArgument_of_take? (isSteadyArgument_of_subject? h hsubject) htake
  dsimp only
  split
  · rfl
  · refine Option.bind_congr fun o ho => ?_
    rw [show?_eq_of_isSteady f d (hleft o ho)]

theorem isSteadyArgument_of_directive? {f : Fill} {cs rest : WideText}
    {argument left : Option Operand} {part : Part} (h : IsSteadyArgument m m' argument)
    (hdirective : f.directive? m' cs argument = some (part, rest, left)) :
    IsSteadyArgument m m' left := by
  unfold directive? at hdirective
  obtain ⟨⟨cs, taken⟩, hsubject, hdirective⟩ := Option.bind_eq_some_iff.mp hdirective
  obtain ⟨⟨d, rest, kept⟩, htake, hdirective⟩ := Option.bind_eq_some_iff.mp hdirective
  have hkept := isSteadyArgument_of_take? (isSteadyArgument_of_subject? h hsubject) htake
  dsimp only at hdirective
  split at hdirective
  · cases hdirective
    exact hkept
  · obtain ⟨o, -, hdirective⟩ := Option.bind_eq_some_iff.mp hdirective
    obtain ⟨shown, -, hdirective⟩ := Option.bind_eq_some_iff.mp hdirective
    cases hdirective
    exact nofun

theorem parts?_eq_of_isSteadyArgument (f : Fill) (fuel : Nat) (cs : WideText)
    {argument : Option Operand} (h : IsSteadyArgument m m' argument) :
    f.parts? m fuel cs argument = f.parts? m' fuel cs argument := by
  induction fuel generalizing cs argument with
  | zero => rfl
  | succ fuel ih =>
      cases cs with
      | nil => rfl
      | cons c cs =>
          unfold parts?
          dsimp only
          split
          · rw [ih _ h]
          · split
            · rw [ih _ h]
            · rw [directive?_eq_of_isSteadyArgument f _ h]
              split
              · next hdirective => rw [ih _ (isSteadyArgument_of_directive? h hdirective)]
              · rfl

/-! ### What stands for a text that is filled in -/

theorem plain?_whole? (f : Fill) (d : Directive) (o : Operand) (text : WideText) :
    Plain? (f.whole? d o text) := by
  unfold whole?
  split
  · exact plain?_none
  · split
    · split <;> simp
    · simp

theorem plain?_whole_of_directive? {f : Fill} {cs rest : WideText}
    {argument left : Option Operand} {part : Part}
    (h : f.directive? m cs argument = some (part, rest, left)) : Plain? part.whole := by
  unfold directive? at h
  obtain ⟨⟨cs, taken⟩, -, h⟩ := Option.bind_eq_some_iff.mp h
  obtain ⟨⟨d, rest, kept⟩, -, h⟩ := Option.bind_eq_some_iff.mp h
  dsimp only at h
  split at h
  · cases h
    exact plain?_none
  · obtain ⟨o, -, h⟩ := Option.bind_eq_some_iff.mp h
    obtain ⟨shown, hshown, h⟩ := Option.bind_eq_some_iff.mp h
    obtain ⟨body, -, hshown⟩ := Option.bind_eq_some_iff.mp hshown
    obtain ⟨laidOut, -, hshown⟩ := Option.bind_eq_some_iff.mp hshown
    cases h
    cases hshown
    exact plain?_whole? f d o laidOut

theorem plain?_whole_of_map_cons {part : Part} {rest : Option (List Part)} {parts : List Part}
    (hpart : Plain? part.whole)
    (hrest : ∀ more, rest = some more → ∀ part ∈ more, Plain? part.whole)
    (h : rest.map (part :: ·) = some parts) : ∀ part ∈ parts, Plain? part.whole := by
  obtain ⟨more, hmore, rfl⟩ := Option.map_eq_some_iff.mp h
  exact List.forall_mem_cons.mpr ⟨hpart, hrest more hmore⟩

theorem plain?_whole_of_parts? {f : Fill} {fuel : Nat} {cs : WideText}
    {argument : Option Operand} {parts : List Part} (h : f.parts? m fuel cs argument = some parts) :
    ∀ part ∈ parts, Plain? part.whole := by
  induction fuel generalizing cs argument parts with
  | zero => cases h
  | succ fuel ih =>
      cases cs with
      | nil =>
          rw [parts?] at h
          split at h
          · cases h
          · cases h
            exact List.forall_mem_nil _
      | cons c cs =>
          unfold parts? at h
          dsimp only at h
          split at h
          · exact plain?_whole_of_map_cons plain?_none (fun _ hmore => ih hmore) h
          · split at h
            · exact plain?_whole_of_map_cons plain?_none (fun _ hmore => ih hmore) h
            · split at h
              · next hdirective =>
                exact plain?_whole_of_map_cons (plain?_whole_of_directive? hdirective)
                  (fun _ hmore => ih hmore) h
              · cases h

theorem isPlain_combine {parts : List Part} (h : ∀ part ∈ parts, Plain? part.whole) :
    (combine parts).isPlain = true := by
  unfold combine
  dsimp only
  split
  · next last hlast =>
    split
    · next o ho =>
      split
      · exact h last (List.mem_of_getLast? hlast) o ho
      · rfl
    · rfl
  · rfl

end Fill

namespace Operand

variable {m m' : Memory} {a b : Operand}

theorem remainder?_eq_of_isSteady (a : Operand) (hb : IsSteady m m' b) :
    a.remainder? m b = a.remainder? m' b := by
  have hargument : Fill.IsSteadyArgument m m' (some b) := by
    rintro _ ⟨⟩
    exact hb
  unfold remainder?
  split
  · rw [fillText?, fillText?, Fill.parts?_eq_of_isSteadyArgument _ _ _ hargument]
  · rw [fillBytes?, fillBytes?, Fill.parts?_eq_of_isSteadyArgument _ _ _ hargument]
  · rfl

theorem result?_eq_of_isSteady (op : BinaryOp) (a : Operand) (hb : IsSteady m m' b) :
    op.result? m a b = op.result? m' a b := by
  cases op with
  | mod => exact remainder?_eq_of_isSteady a hb
  | _ => rfl

theorem plain?_remainder? (m : Memory) (a b : Operand) : Plain? (a.remainder? m b) := by
  unfold remainder?
  split
  · refine plain?_bind fun parts hparts => ?_
    split
    · exact plain?_some.mpr (Fill.isPlain_combine (Fill.plain?_whole_of_parts? hparts))
    · simp
  · exact plain?_bind fun _ _ => by simp
  · exact plain?_mod? _ b

theorem plain?_binary? (m : Memory) (op : BinaryOp) (ha : a.isPlain = true)
    (hb : b.isPlain = true) : Plain? (op.result? m a b) := by
  cases op with
  | add => exact plain?_add? a b
  | sub => exact plain?_sub? a b
  | mul => exact plain?_mul? a b
  | div => exact plain?_div? a b
  | floorDiv => exact plain?_floorDiv? a b
  | mod => exact plain?_remainder? m a b
  | pow => exact plain?_pow? a b
  | matMul => exact plain?_none
  | shiftLeft =>
      rw [BinaryOp.result?]
      exact plain?_shift? a b _
  | shiftRight =>
      rw [BinaryOp.result?]
      exact plain?_shift? a b _
  | bitOr => exact plain?_bitOr? ha hb
  | bitXor => exact plain?_bits? a b _
  | bitAnd => exact plain?_bits? a b _

end Operand

/-! ## Arguments -/

structure Arguments.AreSteady (m m' : Memory) (a : Arguments) : Prop where
  positional : ∀ o ∈ a.positional, Operand.IsSteady m m' o
  keywords : ∀ o ∈ a.keywords.map (·.2), Operand.IsSteady m m' o

namespace Arguments.AreSteady

open Operand

variable {m m' : Memory} {a : Arguments}

theorem keyword? (h : a.AreSteady m m') {name : String} {o : Operand}
    (ho : a.keyword? name = some o) : IsSteady m m' o := by
  obtain ⟨front, back, hkeywords, -⟩ := List.lookup_eq_some_iff.mp ho
  apply h.keywords
  rw [hkeywords]
  simp

theorem assign? (h : a.AreSteady m m') {names : List String} {os : List (Option Operand)}
    (hos : a.assign? names = some os) {o : Operand} (ho : some o ∈ os) : IsSteady m m' o := by
  simp only [Arguments.assign?] at hos
  split at hos
  · cases hos
  · cases hos
    rcases List.mem_append.mp ho with ho | ho
    · exact h.positional o (by simpa using ho)
    · obtain ⟨name, -, hname⟩ := List.mem_map.mp ho
      exact h.keyword? hname

end Arguments.AreSteady

theorem Function.result?_eq_of_areSteady (f : Function) {m m' : Memory} {a : Arguments}
    (h : a.AreSteady m m') : f.result? m a = f.result? m' a := by
  cases f with
  | str =>
      show applyStr? m a = applyStr? m' a
      refine Option.bind_congr fun os hos => ?_
      split
      · next object encoding errors =>
        refine Option.bind_congr fun encoding _ => Option.bind_congr fun errors _ => ?_
        split
        · rfl
        · next o => rw [Operand.toText?_eq_of_isSteady (h.assign? hos (by simp))]
      · rfl
  | _ => rfl

end EventSieve.Expression
