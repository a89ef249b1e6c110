import EventSieve.Expression.Evaluation
import EventSieve.Proofs.Expression.Subtrees

/-!
# Names that an expression reads

A name in an expression stands for a field of the event, but for the callee of a call,
which is looked up among the functions only. `readNames` lists the names of the first
kind. Two events are the same under names that stand for the same operands in both.
-/

namespace EventSieve.Expression

/-! ## Names -/

namespace Expr

def identifier? : Expr → Option String
  | name id => some id
  | _ => none

/-- The trees directly below a tree, apart from a callee that is a plain name. -/
def operandTrees : Expr → List Expr
  | call (name _) es ks => es ++ ks.map (·.2)
  | e => e.children

/-- The names in a tree that are no callees. -/
def readNames (e : Expr) : List String :=
  (e :: e.subtrees.flatMap operandTrees).filterMap identifier?

theorem identifier?_eq_some_iff {e : Expr} {id : String} :
    e.identifier? = some id ↔ e = name id := by
  cases e <;> simp [identifier?]

theorem mem_readNames_iff {e : Expr} {id : String} :
    id ∈ e.readNames ↔ e = name id ∨ ∃ sub : Expr, sub.Within e ∧ name id ∈ sub.operandTrees := by
  simp only [readNames, List.mem_filterMap, List.mem_cons, List.mem_flatMap, mem_subtrees_iff,
    identifier?_eq_some_iff]
  constructor
  · rintro ⟨found, rfl | ⟨sub, hsub, hfound⟩, rfl⟩
    · exact .inl rfl
    · exact .inr ⟨sub, hsub, hfound⟩
  · rintro (rfl | ⟨sub, hsub, hfound⟩)
    · exact ⟨_, .inl rfl, rfl⟩
    · exact ⟨_, .inr ⟨sub, hsub, hfound⟩, rfl⟩

theorem mem_children_of_mem_operandTrees {child e : Expr} (h : child ∈ e.operandTrees) :
    child ∈ e.children := by
  cases e with
  | call callee es ks =>
      cases callee with
      | name id => exact List.mem_cons_of_mem _ h
      | _ => exact h
  | _ => exact h

/-- What a tree reads that is not just skipped as a callee, the tree above it reads too. -/
theorem mem_readNames_of_mem_operandTrees {child e : Expr} (h : child ∈ e.operandTrees)
    {id : String} (hid : id ∈ child.readNames) : id ∈ e.readNames := by
  rw [mem_readNames_iff] at hid ⊢
  right
  rcases hid with rfl | ⟨sub, hsub, hname⟩
  · exact ⟨e, Within.refl e, h⟩
  · exact ⟨sub, hsub.trans (within_of_mem_children (mem_children_of_mem_operandTrees h)), hname⟩

end Expr

/-! ## Events that agree -/

/-- Two events give the same operands under names. -/
def SameUnder (names : List String) (e₁ e₂ : Event) : Prop :=
  ∀ id ∈ names, lookup? e₁ id = lookup? e₂ id

variable {e₁ e₂ : Event}

theorem SameUnder.mono {names more : List String} (h : SameUnder more e₁ e₂)
    (hsub : ∀ id ∈ names, id ∈ more) : SameUnder names e₁ e₂ := fun id hid => h id (hsub id hid)

theorem SameUnder.of_mem_operandTrees {child e : Expr} (h : SameUnder e.readNames e₁ e₂)
    (hchild : child ∈ e.operandTrees) : SameUnder child.readNames e₁ e₂ :=
  h.mono fun _ hid => Expr.mem_readNames_of_mem_operandTrees hchild hid

theorem SameUnder.of_get? {names : List String} (hevent : "event" ∉ names)
    (h : ∀ id ∈ names, Fields.get? e₁ id = Fields.get? e₂ id) : SameUnder names e₁ e₂ := by
  intro id hid
  have hne : id ≠ "event" := ne_of_mem_of_not_mem hid hevent
  rw [lookup?, lookup?, if_neg hne, if_neg hne, h id hid]

/-- No part of a tree is an attribute, and no name in it stands for a function without a name
of its own. -/
structure Expr.ShowsNoAddress (e : Expr) : Prop where
  field : ∀ object attr, ¬ (Expr.field object attr).Within e
  lower : "lower" ∉ e.readNames
  upper : "upper" ∉ e.readNames

theorem Expr.ShowsNoAddress.of_mem_operandTrees {child e : Expr} (h : e.ShowsNoAddress)
    (hchild : child ∈ e.operandTrees) : child.ShowsNoAddress where
  field object attr hwithin := h.field object attr
    (hwithin.trans (within_of_mem_children (mem_children_of_mem_operandTrees hchild)))
  lower hname := h.lower (mem_readNames_of_mem_operandTrees hchild hname)
  upper hname := h.upper (mem_readNames_of_mem_operandTrees hchild hname)

end EventSieve.Expression
