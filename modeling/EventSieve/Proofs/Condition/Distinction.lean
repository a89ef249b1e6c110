import EventSieve.Proofs.Condition.WellFormed
import EventSieve.Proofs.Path.Branches
import EventSieve.Proofs.Value.Equality

/-!
# Questions that are told apart

A condition of the form `Exist` or `EQ` asks what a path leads to. Two of them have the
same answer on every event exactly if they ask the same question: of the same kind, for
the same path and, if they ask for a value, for strictly equal values. Where they do not,
the branch of one of them tells them apart: it is the event that has the path of the
condition, with its value at the end, and nothing else. A condition passes on its own
branch and fails on the empty event, so none of them has one answer on all events.
-/

namespace EventSieve

/-! ## Equality with what a literal denotes -/

namespace Literal

theorem IsDenoted.strictEqual_self {v : Value} (h : IsDenoted v) : v.strictEqual v = true := by
  cases v with
  | str s => exact Value.strictEqual_str_iff.mpr rfl
  | int n => exact Value.strictEqual_int_iff.mpr rfl
  | float x => exact Value.strictEqual_float_iff.mpr ⟨x, rfl, rfl, h⟩
  | _ => exact h.elim

theorem IsDenoted.strictEqual_congr {v w : Value} (hw : IsDenoted w)
    (h : v.strictEqual w = true) (u : Value) : u.strictEqual v = u.strictEqual w := by
  cases w with
  | str s => rw [Value.strictEqual_str_iff.mp h]
  | int n => rw [Value.strictEqual_int_iff.mp h]
  | float x =>
      obtain ⟨y, rfl, hexact, hdefined⟩ := Value.strictEqual_float_iff.mp h
      have hundefined : Binary64.isUndefined y = Binary64.isUndefined x := by
        rw [Binary64.isUndefined, Binary64.isUndefined, hexact]
      rw [Bool.eq_iff_iff, Value.strictEqual_float_iff, Value.strictEqual_float_iff, hexact,
        hundefined]
  | _ => exact hw.elim

theorem IsDenoted.isMap {v : Value} (h : IsDenoted v) : v.isMap = false := by
  cases v with
  | map fields => exact h.elim
  | _ => rfl

theorem IsDenoted.null_strictEqual {v : Value} (h : IsDenoted v) :
    Value.null.strictEqual v = false := by
  cases v with
  | null => exact h.elim
  | _ => rfl

end Literal

open Expression

namespace Condition

/-! ## Questions about a path -/

/-- A condition that asks what its path leads to: whether to anything, or whether to its
value. -/
structure IsLookup (c : Condition) : Prop where
  path : c.path ≠ []
  value : c.kind = .exist ∧ c.value = .null ∨ c.kind = .eq ∧ Literal.IsDenoted c.value

theorem WellFormed.isLookup {c : Condition} (h : c.WellFormed)
    (hkind : c.kind = .exist ∨ c.kind = .eq) : c.IsLookup := by
  obtain ⟨-, hfields⟩ := h
  rcases hkind with hkind | hkind
  · rw [hkind] at hfields
    exact ⟨hfields.2.1.1, .inl ⟨hkind, hfields.2.2⟩⟩
  · rw [hkind] at hfields
    exact ⟨hfields.2.1.1, .inr ⟨hkind, hfields.2.2⟩⟩

/-- What a condition asks of the value at the end of its path. -/
def accepts (c : Condition) (v : Value) : Bool :=
  match c.kind with
  | .exist => true
  | .eq => v.strictEqual c.value
  | _ => false

theorem accepts_of_exist {c : Condition} (h : c.kind = .exist) (v : Value) :
    c.accepts v = true := by
  rw [accepts, h]

theorem accepts_of_eq {c : Condition} (h : c.kind = .eq) (v : Value) :
    c.accepts v = v.strictEqual c.value := by
  rw [accepts, h]

/-- Two conditions that ask the same. -/
def SameQuestion (c d : Condition) : Prop :=
  c.kind = d.kind ∧ c.path = d.path ∧ (c.kind = .eq → c.value.strictEqual d.value = true)

def Disagree (m : Memory) (c d : Condition) (event : Event) : Prop :=
  ∃ b, (c.evaluate m event).1 = .ok b ∧ (d.evaluate m event).1 = .ok (!b)

variable {m : Memory}

theorem Disagree.symm {c d : Condition} {event : Event} (h : Disagree m c d event) :
    Disagree m d c event := by
  obtain ⟨b, hc, hd⟩ := h
  exact ⟨!b, hd, by rw [hc, Bool.not_not]⟩

theorem Disagree.evaluate_ne {c d : Condition} {event : Event} (h : Disagree m c d event) :
    (c.evaluate m event).1 ≠ (d.evaluate m event).1 := by
  obtain ⟨b, hc, hd⟩ := h
  rw [hc, hd]
  simp

namespace IsLookup

theorem evaluate {c : Condition} (h : c.IsLookup) (m : Memory) (event : Event) :
    (c.evaluate m event).1 = .ok ((Path.find? event c.path).any c.accepts) := by
  have hresolve := resolve_of_path_ne_nil h.path event
  rw [Condition.evaluate]
  rcases h.value with ⟨hkind, -⟩ | ⟨hkind, -⟩
  · rw [hkind]
    simp only [hresolve, Except.map]
    cases Path.find? event c.path with
    | none => rfl
    | some v => rw [Option.any_some, accepts_of_exist hkind, Option.isSome_some]
  · rw [hkind]
    simp only [hresolve, Except.map]
    cases Path.find? event c.path with
    | none => rfl
    | some v => rw [Option.any_some, accepts_of_eq hkind]

theorem accepts_value {c : Condition} (h : c.IsLookup) : c.accepts c.value = true := by
  rcases h.value with ⟨hkind, -⟩ | ⟨hkind, hvalue⟩
  · exact accepts_of_exist hkind c.value
  · rw [accepts_of_eq hkind, hvalue.strictEqual_self]

theorem isMap_value {c : Condition} (h : c.IsLookup) : c.value.isMap = false := by
  rcases h.value with ⟨-, hvalue⟩ | ⟨-, hvalue⟩
  · rw [hvalue]
    rfl
  · exact hvalue.isMap

/-! ## One question -/

theorem evaluate_nil {c : Condition} (h : c.IsLookup) : (c.evaluate m []).1 = .ok false := by
  rw [h.evaluate, Path.find?_empty]
  rfl

theorem evaluate_branch {c : Condition} (h : c.IsLookup) (v : Value) :
    (c.evaluate m (Path.branch v c.path)).1 = .ok (c.accepts v) := by
  rw [h.evaluate, Path.find?_branch_self v h.path, Option.any_some]

/-- A condition fails on the branch of a path that its own path is no initial part of. -/
theorem evaluate_branch_of_not_prefix {c : Condition} (h : c.IsLookup) {v : Value}
    (hv : v.isMap = false) {path : List String} (hpath : ¬ c.path <+: path) :
    (c.evaluate m (Path.branch v path)).1 = .ok false := by
  rw [h.evaluate, Path.find?_branch_eq_none hv hpath]
  rfl

/-! ## Two questions -/

theorem sameQuestion {c d : Condition} (hc : c.IsLookup) (hd : d.IsLookup)
    (hpath : c.path = d.path) (hcd : c.accepts d.value = true) (hdc : d.accepts c.value = true) :
    SameQuestion c d := by
  rcases hc.value with ⟨hck, hcv⟩ | ⟨hck, hcv⟩ <;> rcases hd.value with ⟨hdk, hdv⟩ | ⟨hdk, hdv⟩
  · exact ⟨hck.trans hdk.symm, hpath, fun heq => by simp [hck] at heq⟩
  · rw [accepts_of_eq hdk, hcv, hdv.null_strictEqual] at hdc
    cases hdc
  · rw [accepts_of_eq hck, hdv, hcv.null_strictEqual] at hcd
    cases hcd
  · exact ⟨hck.trans hdk.symm, hpath, fun _ => by rwa [accepts_of_eq hdk] at hdc⟩

theorem evaluate_eq_of_sameQuestion {c d : Condition} (hc : c.IsLookup) (hd : d.IsLookup)
    (h : SameQuestion c d) (event : Event) : (c.evaluate m event).1 = (d.evaluate m event).1 := by
  obtain ⟨hkind, hpath, hvalue⟩ := h
  have haccepts : c.accepts = d.accepts := by
    funext v
    rcases hd.value with ⟨hdk, -⟩ | ⟨hdk, hdv⟩
    · rw [accepts_of_exist hdk, accepts_of_exist (hkind.trans hdk)]
    · have hck := hkind.trans hdk
      rw [accepts_of_eq hdk, accepts_of_eq hck, hdv.strictEqual_congr (hvalue hck)]
  rw [hc.evaluate, hd.evaluate, hpath, haccepts]

/-- Different questions about one path have different answers on the branch of one of them. -/
theorem disagree_of_path_eq {c d : Condition} (hc : c.IsLookup) (hd : d.IsLookup)
    (hpath : c.path = d.path) (h : ¬ SameQuestion c d) :
    Disagree m c d (Path.branch c.value c.path) ∨ Disagree m c d (Path.branch d.value d.path) := by
  by_cases hdc : d.accepts c.value = true
  · have hcd : c.accepts d.value = false := by
      rw [← Bool.not_eq_true]
      exact fun hcd => h (hc.sameQuestion hd hpath hcd hdc)
    right
    refine ⟨false, ?_, ?_⟩
    · rw [← hpath, hc.evaluate_branch, hcd]
    · rw [hd.evaluate_branch, hd.accepts_value]
      rfl
  · left
    refine ⟨true, ?_, ?_⟩
    · rw [hc.evaluate_branch, hc.accepts_value]
    · rw [hpath, hd.evaluate_branch, Bool.eq_false_iff.mpr hdc]
      rfl

/-- A condition passes on its own branch, where another fails whose path is no initial part. -/
theorem disagree_of_not_prefix {c d : Condition} (hc : c.IsLookup) (hd : d.IsLookup)
    (hpath : ¬ d.path <+: c.path) : Disagree m c d (Path.branch c.value c.path) := by
  refine ⟨true, ?_, ?_⟩
  · rw [hc.evaluate_branch, hc.accepts_value]
  · exact hd.evaluate_branch_of_not_prefix hc.isMap_value hpath

theorem disagree_of_not_sameQuestion {c d : Condition} (hc : c.IsLookup) (hd : d.IsLookup)
    (h : ¬ SameQuestion c d) :
    Disagree m c d (Path.branch c.value c.path) ∨ Disagree m c d (Path.branch d.value d.path) := by
  by_cases hdc : d.path <+: c.path
  · by_cases hcd : c.path <+: d.path
    · have hpath := hcd.eq_of_length (Nat.le_antisymm hcd.length_le hdc.length_le)
      exact hc.disagree_of_path_eq hd hpath h
    · exact .inr (hd.disagree_of_not_prefix hc hcd).symm
  · exact .inl (hc.disagree_of_not_prefix hd hdc)

end IsLookup

/-- Compiled conditions about paths have the same answer on every event exactly if they ask the
same question, and otherwise differ on the branch of one of them. Each fails on the empty
event and passes on its own branch, with any value at the end if it asks for none. -/
theorem agree_iff_sameQuestion {factory other : RendererFactory} {text second : String}
    {c d : Condition} (hc : (compile factory (.str text)).1 = .ok c)
    (hd : (compile other (.str second)).1 = .ok d) (hck : c.kind = .exist ∨ c.kind = .eq)
    (hdk : d.kind = .exist ∨ d.kind = .eq) (m : Memory) :
    ((∀ event, ∃ b, (c.evaluate m event).1 = .ok b ∧ (d.evaluate m event).1 = .ok b) ↔
      SameQuestion c d) ∧
    (¬ SameQuestion c d →
      Disagree m c d (Path.branch c.value c.path) ∨ Disagree m c d (Path.branch d.value d.path)) ∧
    (c.evaluate m []).1 = .ok false ∧
    (c.kind = .exist → ∀ v, (c.evaluate m (Path.branch v c.path)).1 = .ok true) ∧
    (c.kind = .eq → (c.evaluate m (Path.branch c.value c.path)).1 = .ok true) := by
  have hc := (wellFormed_of_compile hc).isLookup hck
  have hd := (wellFormed_of_compile hd).isLookup hdk
  have hdisagree := hc.disagree_of_not_sameQuestion (m := m) hd
  refine ⟨⟨?_, ?_⟩, hdisagree, hc.evaluate_nil, ?_, ?_⟩
  · intro hagree
    by_contra hsame
    have heq : ∀ event, (c.evaluate m event).1 = (d.evaluate m event).1 := by
      intro event
      obtain ⟨b, hcb, hdb⟩ := hagree event
      rw [hcb, hdb]
    rcases hdisagree hsame with hown | hother
    · exact hown.evaluate_ne (heq _)
    · exact hother.evaluate_ne (heq _)
  · intro hsame event
    have hanswer := hc.evaluate m event
    exact ⟨_, hanswer, (hc.evaluate_eq_of_sameQuestion hd hsame event).symm.trans hanswer⟩
  · intro hkind v
    rw [hc.evaluate_branch, accepts_of_exist hkind]
  · intro _
    rw [hc.evaluate_branch, hc.accepts_value]

/-- Zero is one value with either sign, and a path is told apart from a longer one. -/
theorem zeros_agree_and_longer_path_disagrees :
    ∃ c d e, (compile (.standard default) (.str "EQ(a, 0.0)")).1 = .ok c ∧
      (compile (.standard default) (.str "EQ(a, -0.0)")).1 = .ok d ∧
      (compile (.standard default) (.str "Exist(a, b)")).1 = .ok e ∧
      (∀ event, ∃ b, (c.evaluate default event).1 = .ok b ∧
        (d.evaluate default event).1 = .ok b) ∧
      (Disagree default c e (Path.branch c.value c.path) ∨
        Disagree default c e (Path.branch e.value e.path)) := by
  have hc : (compile (.standard default) (.str "EQ(a, 0.0)")).1 =
      .ok (ofPathValue "EQ(a, 0.0)" ["a"] (.float (Binary64.signedZero false))) := by rfl
  have hd : (compile (.standard default) (.str "EQ(a, -0.0)")).1 =
      .ok (ofPathValue "EQ(a, -0.0)" ["a"] (.float (Binary64.signedZero true))) := by rfl
  have he : (compile (.standard default) (.str "Exist(a, b)")).1 =
      .ok (ofPath "Exist(a, b)" ["a", "b"]) := by rfl
  have hzeros : (.float (Binary64.signedZero false) : Value).strictEqual
      (.float (Binary64.signedZero true)) = true := by decide +kernel
  refine ⟨_, _, _, hc, hd, he, ?_, ?_⟩
  · exact (agree_iff_sameQuestion hc hd (.inr rfl) (.inr rfl) _).1.mpr ⟨rfl, rfl, fun _ => hzeros⟩
  · refine (agree_iff_sameQuestion hc he (.inr rfl) (.inl rfl) _).2.1 ?_
    rintro ⟨hkind, -⟩
    cases hkind

end Condition

end EventSieve
