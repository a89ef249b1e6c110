import EventSieve.Proofs.Expression.Applications
import Mathlib.Data.List.Basic

/-!
# Parts that an evaluation needs

An evaluation that succeeds has evaluated some parts of the expression on the way, whatever
the event: both sides of an operator, the test of a choice, the arguments of a call. If one
of these parts fails, the whole fails with it. A call of a name that none of the functions
has fails on every event, and so does every expression that needs such a call.
-/

namespace EventSieve.Expression

/-! ## Evaluations that fail -/

namespace Evaluation

variable {α β : Type}

/-- An evaluation has no result, whatever was noted before. -/
def Fails (m : Evaluation α) : Prop := ∀ noted, ∃ failure, (m.run.run noted).1 = .error failure

theorem fails_fail : Fails (fail : Evaluation α) := fun _ => ⟨.other, rfl⟩

theorem Fails.bind {m : Evaluation α} (h : Fails m) (f : α → Evaluation β) : Fails (m >>= f) := by
  intro noted
  obtain ⟨failure, hnoted⟩ := h noted
  rw [run_run_bind]
  rcases hrun : m.run.run noted with ⟨reason | a, after⟩
  · exact ⟨reason, rfl⟩
  · rw [hrun] at hnoted
    cases hnoted

theorem fails_bind {m : Evaluation α} {f : α → Evaluation β} (h : ∀ a, Fails (f a)) :
    Fails (m >>= f) := by
  intro noted
  rw [run_run_bind]
  rcases m.run.run noted with ⟨failure | a, after⟩
  · exact ⟨failure, rfl⟩
  · exact h a after

end Evaluation

open Evaluation

namespace Expr

/-! ## Rows of expressions -/

section Rows

variable {m : Memory} {event : Event} {node : List Nat} {i : Nat} {e : Expr}

theorem fails_evalList {es : List Expr} (he : e ∈ es) (h : ∀ node, Fails (e.eval m event node)) :
    Fails (evalList m event node i es) := by
  induction es generalizing i with
  | nil => cases he
  | cons first es ih =>
      rw [evalList]
      rcases List.mem_cons.mp he with rfl | he
      · exact (h _).bind _
      · exact fails_bind fun _ => (ih he).bind _

theorem fails_evalPieces {es : List Expr} (he : e ∈ es) (h : ∀ node, Fails (e.eval m event node)) :
    Fails (evalPieces m event node i es) := by
  induction es generalizing i with
  | nil => cases he
  | cons first es ih =>
      rw [evalPieces]
      rcases List.mem_cons.mp he with rfl | he
      · exact (h _).bind _
      · exact fails_bind fun _ => fails_bind fun _ => (ih he).bind _

theorem fails_evalKeywords {keywords : List (Option String × Expr)}
    (he : e ∈ keywords.map (·.2)) (h : ∀ node, Fails (e.eval m event node)) :
    Fails (evalKeywords m event node i keywords) := by
  induction keywords generalizing i with
  | nil => cases he
  | cons keyword keywords ih =>
      rw [evalKeywords]
      rcases List.mem_cons.mp he with rfl | he
      · exact (h _).bind _
      · exact fails_bind fun _ => (ih he).bind _

theorem fails_evalOption {o : Option Expr} (he : e ∈ o.toList)
    (h : ∀ node, Fails (e.eval m event node)) : Fails (evalOption m event node o) := by
  cases o with
  | none => cases he
  | some bound =>
      rw [Option.toList_some, List.mem_singleton] at he
      rw [evalOption, ← he]
      exact h node

/-- The arguments of a call are evaluated before the callee is applied. -/
theorem fails_eval_call {callee : Expr} {es : List Expr} {keywords : List (Option String × Expr)}
    (he : e ∈ es ++ keywords.map (·.2)) (h : ∀ node, Fails (e.eval m event node)) :
    Fails ((call callee es keywords).eval m event node) := by
  have harguments : ∀ (f : List Operand → List (Option String × Operand) → Evaluation Operand),
      Fails (do
        let positional ← evalList m event (0 :: node) 0 es
        let named ← evalKeywords m event (1 :: node) 0 keywords
        f positional named) := by
    intro f
    rcases List.mem_append.mp he with he | he
    · exact (fails_evalList he h).bind _
    · exact fails_bind fun _ => (fails_evalKeywords he h).bind _
  cases callee with
  | name id =>
      rw [eval]
      split
      · exact fails_fail
      · exact harguments _
  | field object attr =>
      rw [eval]
      exact fails_bind fun _ => harguments _
  | _ => exact fails_fail

theorem fails_eval_subscript_slice {object : Expr} {lower upper step : Option Expr}
    (he : e ∈ object :: (slice lower upper step).children)
    (h : ∀ node, Fails (e.eval m event node)) :
    Fails ((subscript object (slice lower upper step)).eval m event node) := by
  rw [children, List.mem_cons, List.mem_append, List.mem_append] at he
  rw [eval]
  rcases he with rfl | (he | he) | he
  · exact (h _).bind _
  · exact fails_bind fun _ => (fails_evalOption he h).bind _
  · exact fails_bind fun _ => fails_bind fun _ => (fails_evalOption he h).bind _
  · exact fails_bind fun _ => fails_bind fun _ => fails_bind fun _ =>
      (fails_evalOption he h).bind _

end Rows

/-! ## Needed parts -/

/-- The trees directly below a tree that an evaluation of it evaluates if it succeeds. -/
def operandsNeeded : Expr → List Expr
  | unary _ e => [e]
  | binary _ l r => [l, r]
  | connected _ es => es.take 1
  | compared e rest => e :: (rest.take 1).map (·.2)
  | choice test _ _ => [test]
  | call _ es keywords => es ++ keywords.map (·.2)
  | field e _ => [e]
  | subscript e (slice lower upper step) => e :: (slice lower upper step).children
  | subscript e index => [e, index]
  | interpolated es => es
  | formatted e spec => e :: spec.toList
  | _ => []

/-- A part of a tree that an evaluation of the tree evaluates if it succeeds. -/
def Needed (sub e : Expr) : Prop := Relation.ReflTransGen (fun a b => b ∈ a.operandsNeeded) e sub

theorem within_of_mem_operandsNeeded {child e : Expr} (h : child ∈ e.operandsNeeded) :
    child.Within e := by
  cases e with
  | unary op e => exact within_of_mem_children h
  | binary op l r => exact within_of_mem_children h
  | connected op es => exact within_of_mem_children (List.mem_of_mem_take h)
  | compared e rest =>
      rcases List.mem_cons.mp h with rfl | h
      · exact within_of_mem_children List.mem_cons_self
      · rw [List.map_take] at h
        exact within_of_mem_children (List.mem_cons_of_mem _ (List.mem_of_mem_take h))
  | choice test body alternative =>
      rw [List.mem_singleton.mp h]
      exact within_of_mem_children List.mem_cons_self
  | call callee es keywords => exact within_of_mem_children (List.mem_cons_of_mem _ h)
  | field object attr => exact within_of_mem_children h
  | subscript object index =>
      cases index with
      | slice lower upper step =>
          rcases List.mem_cons.mp h with rfl | h
          · exact within_of_mem_children List.mem_cons_self
          · have hslice : slice lower upper step ∈
                (subscript object (slice lower upper step)).children := by simp [children]
            exact (within_of_mem_children h).trans (within_of_mem_children hslice)
      | _ => exact within_of_mem_children h
  | interpolated es => exact within_of_mem_children h
  | formatted e spec => exact within_of_mem_children h
  | _ => cases h

theorem Needed.within {sub e : Expr} (h : sub.Needed e) : sub.Within e := by
  induction h with
  | refl => exact Within.refl e
  | tail _ hchild ih => exact (within_of_mem_operandsNeeded hchild).trans ih

theorem fails_of_mem_operandsNeeded {m : Memory} {event : Event} {child e : Expr}
    (hchild : child ∈ e.operandsNeeded) (h : ∀ node, Fails (child.eval m event node))
    (node : List Nat) : Fails (e.eval m event node) := by
  cases e with
  | unary op e =>
      rw [List.mem_singleton.mp hchild] at h
      rw [eval]
      exact (h _).bind _
  | binary op l r =>
      rw [eval]
      split
      · exact fails_fail
      · rcases List.mem_pair.mp hchild with rfl | rfl
        · exact (h _).bind _
        · exact fails_bind fun _ => (h _).bind _
  | connected op es =>
      cases es with
      | nil => cases hchild
      | cons first es =>
          rw [List.mem_singleton.mp hchild] at h
          rw [eval, evalConnected]
          exact (h _).bind _
  | compared e rest =>
      rw [eval]
      rcases List.mem_cons.mp hchild with rfl | hchild
      · exact (h _).bind _
      · cases rest with
        | nil => cases hchild
        | cons pair rest =>
            rw [List.mem_singleton.mp hchild] at h
            refine fails_bind fun a => ?_
            rw [evalCompared]
            exact (h _).bind _
  | choice test body alternative =>
      rw [List.mem_singleton.mp hchild] at h
      rw [eval]
      exact (h _).bind _
  | call callee es keywords => exact fails_eval_call hchild h
  | field object attr =>
      rw [List.mem_singleton.mp hchild] at h
      rw [eval]
      split
      · exact fails_fail
      · exact (h _).bind _
  | subscript object index =>
      cases index with
      | slice lower upper step => exact fails_eval_subscript_slice hchild h
      | _ =>
          rcases List.mem_pair.mp hchild with rfl | rfl
          · exact (h _).bind _
          · exact fails_bind fun _ => (h _).bind _
  | interpolated es =>
      rw [eval]
      exact (fails_evalPieces hchild h).bind _
  | formatted e spec =>
      cases spec with
      | none =>
          rw [eval, ← List.mem_singleton.mp hchild]
          exact h _
      | some spec =>
          rw [eval]
          rcases List.mem_pair.mp hchild with rfl | rfl
          · exact fails_bind fun _ => (h _).bind _
          · exact (h _).bind _
  | _ => cases hchild

/-- An expression fails where any part fails that it needs. -/
theorem Needed.fails {m : Memory} {event : Event} {sub e : Expr} (hsub : sub.Needed e)
    (h : ∀ node, Fails (sub.eval m event node)) : ∀ node, Fails (e.eval m event node) := by
  induction hsub using Relation.ReflTransGen.head_induction_on with
  | refl => exact h
  | head hchild _ ih => exact fails_of_mem_operandsNeeded hchild ih

/-! ## Calls of unknown names -/

def isUnknownCall : Expr → Bool
  | call (name id) _ _ => (Function.named? id).isNone
  | _ => false

theorem isUnknownCall_iff {e : Expr} :
    e.isUnknownCall = true ↔
      ∃ id positional keywords, e = call (name id) positional keywords ∧
        Function.named? id = none := by
  constructor
  · intro h
    unfold isUnknownCall at h
    split at h
    · next id positional keywords =>
      exact ⟨id, positional, keywords, rfl, Option.isNone_iff_eq_none.mp h⟩
    · cases h
  · rintro ⟨id, positional, keywords, rfl, hid⟩
    exact Option.isNone_iff_eq_none.mpr hid

/-- A call of an unknown name fails before its arguments are looked at. -/
theorem eval_of_isUnknownCall {e : Expr} (h : e.isUnknownCall = true) (m : Memory)
    (event : Event) (node : List Nat) : e.eval m event node = fail := by
  obtain ⟨id, positional, keywords, rfl, hid⟩ := isUnknownCall_iff.mp h
  rw [eval, hid]

theorem evaluate_of_isUnknownCall {e : Expr} (h : e.isUnknownCall = true) (m : Memory)
    (event : Event) : e.evaluate m event = .error .other := by
  rw [evaluate, eval_of_isUnknownCall h]
  rfl

def NeedsUnknown (e : Expr) : Prop := ∃ sub : Expr, sub.Needed e ∧ sub.isUnknownCall = true

theorem NeedsUnknown.evaluate_eq_error {e : Expr} (h : e.NeedsUnknown) (m : Memory)
    (event : Event) : ∃ failure, e.evaluate m event = .error failure := by
  obtain ⟨sub, hsub, hunknown⟩ := h
  exact hsub.fails (fun node => eval_of_isUnknownCall hunknown m event node ▸ fails_fail) [] []

end Expr

end EventSieve.Expression
