import EventSieve.Expression.Tree
import Mathlib.Logic.Relation

/-!
# Trees within trees

A tree is within another if a row of steps from a tree to one directly below it leads
there. `mem_subtrees_iff` says that the walk `subtrees` visits exactly the trees
within a tree, so that `callees` misses no call at any depth, and `callsPlainNames`
holds exactly if every call within a tree has a plain name for its callee.
-/

namespace EventSieve.Expression.Expr

/-- A tree stands in another at any depth, or is the other. -/
def Within (sub e : Expr) : Prop := Relation.ReflTransGen (fun a b => b ∈ a.children) e sub

theorem Within.refl (e : Expr) : e.Within e := Relation.ReflTransGen.refl

theorem Within.trans {a b c : Expr} (hab : a.Within b) (hbc : b.Within c) : a.Within c :=
  Relation.ReflTransGen.trans hbc hab

theorem within_of_mem_children {child e : Expr} (h : child ∈ e.children) : child.Within e :=
  Relation.ReflTransGen.single h

/-! ## Induction -/

-- trees stand in rows, in pairs and in options, each of which needs a companion
mutual

theorem induction_children {P : Expr → Prop}
    (step : ∀ e : Expr, (∀ child ∈ e.children, P child) → P e) : (e : Expr) → P e
  | constant c => step _ (by simp [children])
  | name id => step _ (by simp [children])
  | unary op e => step _ (List.forall_mem_singleton.mpr (induction_children step e))
  | binary op l r =>
    step _ (by simp [children, induction_children step l, induction_children step r])
  | connected op es => step _ (induction_list step es)
  | compared e rest =>
    step _ (List.forall_mem_cons.mpr ⟨induction_children step e, induction_pairs step rest⟩)
  | choice t b a =>
    step _ (by simp [children, induction_children step t, induction_children step b,
      induction_children step a])
  | call f es ks =>
    step _ (List.forall_mem_cons.mpr ⟨induction_children step f,
      List.forall_mem_append.mpr ⟨induction_list step es, induction_keywords step ks⟩⟩)
  | field e attr => step _ (List.forall_mem_singleton.mpr (induction_children step e))
  | subscript e i =>
    step _ (by simp [children, induction_children step e, induction_children step i])
  | slice l u s =>
    step _ (List.forall_mem_append.mpr ⟨List.forall_mem_append.mpr
      ⟨induction_option step l, induction_option step u⟩, induction_option step s⟩)
  | interpolated es => step _ (induction_list step es)
  | formatted e spec =>
    step _ (List.forall_mem_cons.mpr ⟨induction_children step e, induction_option step spec⟩)
  | refused form es => step _ (induction_list step es)

theorem induction_list {P : Expr → Prop}
    (step : ∀ e : Expr, (∀ child ∈ e.children, P child) → P e) :
    (es : List Expr) → ∀ e ∈ es, P e
  | [] => List.forall_mem_nil _
  | e :: es => List.forall_mem_cons.mpr ⟨induction_children step e, induction_list step es⟩

theorem induction_pairs {P : Expr → Prop}
    (step : ∀ e : Expr, (∀ child ∈ e.children, P child) → P e) :
    (rest : List (Comparison × Expr)) → ∀ e ∈ rest.map (·.2), P e
  | [] => List.forall_mem_nil _
  | (_, e) :: rest =>
    List.forall_mem_cons.mpr ⟨induction_children step e, induction_pairs step rest⟩

theorem induction_keywords {P : Expr → Prop}
    (step : ∀ e : Expr, (∀ child ∈ e.children, P child) → P e) :
    (ks : List (Option String × Expr)) → ∀ e ∈ ks.map (·.2), P e
  | [] => List.forall_mem_nil _
  | (_, e) :: ks =>
    List.forall_mem_cons.mpr ⟨induction_children step e, induction_keywords step ks⟩

theorem induction_option {P : Expr → Prop}
    (step : ∀ e : Expr, (∀ child ∈ e.children, P child) → P e) :
    (o : Option Expr) → ∀ e ∈ o.toList, P e
  | none => List.forall_mem_nil _
  | some e => List.forall_mem_singleton.mpr (induction_children step e)

end

theorem within_iff {sub e : Expr} :
    sub.Within e ↔ sub = e ∨ ∃ child ∈ e.children, sub.Within child := by
  rw [Within, Relation.ReflTransGen.cases_head_iff, eq_comm]
  rfl

/-- The induction on trees, for a step that needs more than the trees directly below. -/
theorem induction_within {P : Expr → Prop}
    (step : ∀ e : Expr, (∀ child ∈ e.children, ∀ sub : Expr, sub.Within child → P sub) → P e)
    (e : Expr) : P e := by
  suffices h : ∀ sub : Expr, sub.Within e → P sub from h e (Within.refl e)
  induction e using induction_children with
  | step e ih =>
    intro sub hsub
    rcases within_iff.mp hsub with rfl | ⟨child, hchild, hsub⟩
    · exact step sub ih
    · exact ih child hchild sub hsub

/-! ## The walk -/

theorem subtreesOfList_eq_flatMap (es : List Expr) : subtreesOfList es = es.flatMap subtrees := by
  induction es with
  | nil => rfl
  | cons e es ih => rw [subtreesOfList, ih, List.flatMap_cons]

theorem subtreesOfPairs_eq_flatMap (rest : List (Comparison × Expr)) :
    subtreesOfPairs rest = (rest.map (·.2)).flatMap subtrees := by
  induction rest with
  | nil => rfl
  | cons pair rest ih => rw [subtreesOfPairs, ih, List.map_cons, List.flatMap_cons]

theorem subtreesOfKeywords_eq_flatMap (keywords : List (Option String × Expr)) :
    subtreesOfKeywords keywords = (keywords.map (·.2)).flatMap subtrees := by
  induction keywords with
  | nil => rfl
  | cons keyword keywords ih => rw [subtreesOfKeywords, ih, List.map_cons, List.flatMap_cons]

theorem subtreesOfOption_eq_flatMap (o : Option Expr) :
    subtreesOfOption o = o.toList.flatMap subtrees := by
  cases o with
  | none => rfl
  | some e => rw [subtreesOfOption, Option.toList_some, List.flatMap_singleton]

/-- The walk visits the tree and then walks through the trees directly below it, whatever its
form. -/
theorem subtrees_eq_cons (e : Expr) : e.subtrees = e :: e.children.flatMap subtrees := by
  cases e <;>
    simp [subtrees, children, subtreesOfList_eq_flatMap, subtreesOfPairs_eq_flatMap,
      subtreesOfKeywords_eq_flatMap, subtreesOfOption_eq_flatMap]

/-- The walk visits exactly the trees within a tree. -/
theorem mem_subtrees_iff {sub e : Expr} : sub ∈ e.subtrees ↔ sub.Within e := by
  constructor
  · induction e using induction_within with
    | step e ih =>
      intro h
      rw [subtrees_eq_cons] at h
      rcases List.mem_cons.mp h with rfl | h
      · exact Within.refl sub
      · obtain ⟨child, hchild, hsub⟩ := List.mem_flatMap.mp h
        exact (ih child hchild child (Within.refl child) hsub).trans
          (within_of_mem_children hchild)
  · intro h
    induction h using Relation.ReflTransGen.head_induction_on with
    | refl =>
        rw [subtrees_eq_cons]
        exact List.mem_cons_self
    | head hchild _ ih =>
        rw [subtrees_eq_cons]
        exact List.mem_cons_of_mem _ (List.mem_flatMap.mpr ⟨_, hchild, ih⟩)

/-! ## Callees -/

theorem mem_callees_iff {callee e : Expr} :
    callee ∈ e.callees ↔
      ∃ positional keywords, (Expr.call callee positional keywords).Within e := by
  rw [callees, List.mem_filterMap]
  constructor
  · rintro ⟨sub, hsub, hcallee⟩
    cases sub with
    | call f positional keywords =>
        cases hcallee
        exact ⟨positional, keywords, mem_subtrees_iff.mp hsub⟩
    | _ => cases hcallee
  · rintro ⟨positional, keywords, h⟩
    exact ⟨_, mem_subtrees_iff.mpr h, rfl⟩

theorem isName_iff {e : Expr} : e.isName = true ↔ ∃ id, e = .name id := by
  cases e <;> simp [isName]

theorem callsPlainNames_iff {e : Expr} :
    e.callsPlainNames = true ↔
      ∀ callee positional keywords, (Expr.call callee positional keywords).Within e →
        ∃ id, callee = .name id := by
  rw [callsPlainNames, List.all_eq_true]
  constructor
  · intro h callee positional keywords hcall
    exact isName_iff.mp (h callee (mem_callees_iff.mpr ⟨positional, keywords, hcall⟩))
  · intro h callee hcallee
    obtain ⟨positional, keywords, hcall⟩ := mem_callees_iff.mp hcallee
    exact isName_iff.mpr (h callee positional keywords hcall)

end EventSieve.Expression.Expr
