import EventSieve.Proofs.Expression.Subtrees
import EventSieve.Template

/-!
# What expressions apply

An evaluation notes every callee that it applies. `OnlyApplies` says what these can
be, and it is kept by each way in which evaluations are put together. An expression
applies only what its own calls name: the function with the name that is a callee, or
whatever a callee with a field evaluates to. Templates have calls of the first kind
alone, so they apply the six functions and nothing else, whatever the event holds.
-/

namespace EventSieve.Expression

/-! ## Names of functions -/

namespace Function

@[simp] theorem named?_name (f : Function) : named? f.name = some f := by
  cases f <;> rfl

theorem named?_eq_some_iff {id : String} {f : Function} : named? id = some f ↔ id = f.name := by
  constructor
  · intro h
    rw [named?] at h
    repeat' split at h
    all_goals cases h
    all_goals assumption
  · rintro rfl
    exact named?_name f

end Function

/-! ## Evaluations that apply only certain callees -/

namespace Evaluation

variable {α β : Type} {P : Applied → Prop}

/-- Whatever was noted before stays, and all that is noted after it has a property. -/
def OnlyApplies (P : Applied → Prop) (m : Evaluation α) : Prop :=
  ∀ noted, ∃ more, (m.run.run noted).2 = noted ++ more ∧ ∀ a ∈ more, P a

theorem onlyApplies_fail : OnlyApplies P (fail : Evaluation α) := fun noted =>
  ⟨[], (List.append_nil noted).symm, by simp⟩

theorem onlyApplies_pure (a : α) : OnlyApplies P (pure a : Evaluation α) := fun noted =>
  ⟨[], (List.append_nil noted).symm, by simp⟩

theorem onlyApplies_ofResult (a : Except Failure α) : OnlyApplies P (ofResult a) := fun noted =>
  ⟨[], (List.append_nil noted).symm, by simp⟩

theorem onlyApplies_ofOption (a : Option α) : OnlyApplies P (ofOption a) := onlyApplies_ofResult _

theorem onlyApplies_note {a : Applied} (h : P a) : OnlyApplies P (note a) := fun noted =>
  ⟨[a], rfl, by simpa using h⟩

/-- An evaluation after another starts from the notes that the first one leaves, unless that
fails. -/
theorem run_run_bind (m : Evaluation α) (f : α → Evaluation β) (noted : List Applied) :
    (m >>= f).run.run noted =
      match m.run.run noted with
      | (.error failure, after) => (.error failure, after)
      | (.ok a, after) => (f a).run.run after := by
  rw [ExceptT.run_bind, StateT.run_bind]
  rcases m.run.run noted with ⟨failure | a, after⟩
  · rfl
  · rfl

theorem onlyApplies_bind {m : Evaluation α} {f : α → Evaluation β} (hm : OnlyApplies P m)
    (hf : ∀ a, OnlyApplies P (f a)) : OnlyApplies P (m >>= f) := by
  intro noted
  obtain ⟨first, hfirst, hfirstP⟩ := hm noted
  rw [run_run_bind]
  rcases hrun : m.run.run noted with ⟨failure | a, after⟩
  · rw [hrun] at hfirst
    exact ⟨first, hfirst, hfirstP⟩
  · rw [hrun] at hfirst
    obtain ⟨second, hsecond, hsecondP⟩ := hf a after
    have hafter : after = noted ++ first := hfirst
    refine ⟨first ++ second, ?_, List.forall_mem_append.mpr ⟨hfirstP, hsecondP⟩⟩
    rw [hsecond, hafter, List.append_assoc]

end Evaluation

open Evaluation

namespace Expr

/-! ## Rows of expressions -/

section Rows

variable {P : Applied → Prop} {m : Memory} {event : Event} {node : List Nat} {i : Nat}

theorem onlyApplies_evalList {es : List Expr}
    (h : ∀ e ∈ es, ∀ node, OnlyApplies P (e.eval m event node)) :
    OnlyApplies P (evalList m event node i es) := by
  induction es generalizing i with
  | nil => exact onlyApplies_pure _
  | cons e es ih =>
      rw [List.forall_mem_cons] at h
      rw [evalList]
      exact onlyApplies_bind (h.1 _) fun _ => onlyApplies_bind (ih h.2) fun _ => onlyApplies_pure _

theorem onlyApplies_evalPieces {es : List Expr}
    (h : ∀ e ∈ es, ∀ node, OnlyApplies P (e.eval m event node)) :
    OnlyApplies P (evalPieces m event node i es) := by
  induction es generalizing i with
  | nil => exact onlyApplies_pure _
  | cons e es ih =>
      rw [List.forall_mem_cons] at h
      rw [evalPieces]
      refine onlyApplies_bind (h.1 _) fun _ => onlyApplies_bind (onlyApplies_ofOption _) fun _ => ?_
      exact onlyApplies_bind (ih h.2) fun _ => onlyApplies_pure _

theorem onlyApplies_evalKeywords {keywords : List (Option String × Expr)}
    (h : ∀ e ∈ keywords.map (·.2), ∀ node, OnlyApplies P (e.eval m event node)) :
    OnlyApplies P (evalKeywords m event node i keywords) := by
  induction keywords generalizing i with
  | nil => exact onlyApplies_pure _
  | cons keyword keywords ih =>
      rw [List.map_cons, List.forall_mem_cons] at h
      rw [evalKeywords]
      exact onlyApplies_bind (h.1 _) fun _ => onlyApplies_bind (ih h.2) fun _ => onlyApplies_pure _

theorem onlyApplies_evalConnected {op : Connective} {last : Operand} {es : List Expr}
    (h : ∀ e ∈ es, ∀ node, OnlyApplies P (e.eval m event node)) :
    OnlyApplies P (evalConnected m event node i op last es) := by
  induction es generalizing last i with
  | nil => exact onlyApplies_pure _
  | cons e es ih =>
      rw [List.forall_mem_cons] at h
      rw [evalConnected]
      refine onlyApplies_bind (h.1 _) fun o => ?_
      split
      · exact onlyApplies_pure _
      · exact ih h.2

theorem onlyApplies_evalCompared {a : Operand} {rest : List (Comparison × Expr)}
    (h : ∀ e ∈ rest.map (·.2), ∀ node, OnlyApplies P (e.eval m event node)) :
    OnlyApplies P (evalCompared m event node i a rest) := by
  induction rest generalizing a i with
  | nil => exact onlyApplies_pure _
  | cons pair rest ih =>
      rw [List.map_cons, List.forall_mem_cons] at h
      rw [evalCompared]
      refine onlyApplies_bind (h.1 _) fun o => ?_
      refine onlyApplies_bind (onlyApplies_ofOption _) fun holds => ?_
      split
      · exact ih h.2
      · exact onlyApplies_pure _

theorem onlyApplies_evalOption {o : Option Expr}
    (h : ∀ e ∈ o.toList, ∀ node, OnlyApplies P (e.eval m event node)) :
    OnlyApplies P (evalOption m event node o) := by
  cases o with
  | none => exact onlyApplies_pure _
  | some e => exact h e (List.mem_singleton.mpr rfl) node

/-! ## Calls and slices -/

/-- A call of a name applies the function with that name, which no field of the event takes
the place of. -/
theorem onlyApplies_eval_call_name {id : String} {es : List Expr}
    {keywords : List (Option String × Expr)}
    (hfunction : ∀ f, Function.named? id = some f → P (.function f))
    (hes : ∀ e ∈ es, ∀ node, OnlyApplies P (e.eval m event node))
    (hkeywords : ∀ e ∈ keywords.map (·.2), ∀ node, OnlyApplies P (e.eval m event node)) :
    OnlyApplies P ((call (name id) es keywords).eval m event node) := by
  rw [eval]
  split
  · exact onlyApplies_fail
  · next f hf =>
    refine onlyApplies_bind (onlyApplies_evalList hes) fun _ => ?_
    refine onlyApplies_bind (onlyApplies_evalKeywords hkeywords) fun _ => ?_
    refine onlyApplies_bind (onlyApplies_ofOption _) fun _ => ?_
    exact onlyApplies_bind (onlyApplies_note (hfunction f hf)) fun _ => onlyApplies_ofOption _

/-- A call of a field applies whatever the field evaluates to. -/
theorem onlyApplies_eval_call_field {object : Expr} {attr : String} {es : List Expr}
    {keywords : List (Option String × Expr)} (hcomputed : ∀ o, P (.computed o))
    (hcallee : OnlyApplies P ((field object attr).eval m event (2 :: node)))
    (hes : ∀ e ∈ es, ∀ node, OnlyApplies P (e.eval m event node))
    (hkeywords : ∀ e ∈ keywords.map (·.2), ∀ node, OnlyApplies P (e.eval m event node)) :
    OnlyApplies P ((call (field object attr) es keywords).eval m event node) := by
  rw [eval]
  refine onlyApplies_bind hcallee fun o => ?_
  refine onlyApplies_bind (onlyApplies_evalList hes) fun _ => ?_
  refine onlyApplies_bind (onlyApplies_evalKeywords hkeywords) fun _ => ?_
  refine onlyApplies_bind (onlyApplies_ofOption _) fun _ => ?_
  exact onlyApplies_bind (onlyApplies_note (hcomputed o)) fun _ => onlyApplies_fail

/-- The bounds of a slice are evaluated by the subscript: a slice has no operand of its own. -/
theorem onlyApplies_eval_subscript_slice {object : Expr} {lower upper step : Option Expr}
    (hobject : OnlyApplies P (object.eval m event (0 :: node)))
    (hbounds : ∀ e ∈ (slice lower upper step).children,
      ∀ node, OnlyApplies P (e.eval m event node)) :
    OnlyApplies P ((subscript object (slice lower upper step)).eval m event node) := by
  rw [children, List.forall_mem_append, List.forall_mem_append] at hbounds
  obtain ⟨⟨hlower, hupper⟩, hstep⟩ := hbounds
  rw [eval]
  refine onlyApplies_bind hobject fun _ => ?_
  refine onlyApplies_bind (onlyApplies_evalOption hlower) fun _ => ?_
  refine onlyApplies_bind (onlyApplies_evalOption hupper) fun _ => ?_
  exact onlyApplies_bind (onlyApplies_evalOption hstep) fun _ => onlyApplies_ofOption _

end Rows

/-! ## Expressions -/

/-- What the calls within a tree account for: the function that a callee names, or anything
that a callee with a field may evaluate to. -/
def Accounts (root : Expr) : Applied → Prop
  | .function f => .name f.name ∈ root.callees
  | .computed _ => ∃ object attr, .field object attr ∈ root.callees

/-- The evaluation of a tree within another applies only what calls within the other account
for. -/
theorem onlyApplies_eval {root e : Expr} (m : Memory) (event : Event) (h : e.Within root)
    (node : List Nat) : OnlyApplies (Accounts root) (e.eval m event node) := by
  -- only calls note anything: every other case hands the property on from the trees below
  induction e using induction_within generalizing node with
  | step e ih =>
    have hchild : ∀ child ∈ e.children, ∀ node,
        OnlyApplies (Accounts root) (child.eval m event node) :=
      fun child hmem =>
        ih child hmem child (Within.refl child) ((within_of_mem_children hmem).trans h)
    cases e with
    | constant c =>
        rw [eval]
        exact onlyApplies_ofOption _
    | name id =>
        rw [eval]
        exact onlyApplies_ofOption _
    | unary op e =>
        rw [eval]
        exact onlyApplies_bind (hchild e (by simp [children]) _) fun _ => onlyApplies_ofOption _
    | binary op l r =>
        rw [eval]
        split
        · exact onlyApplies_fail
        · exact onlyApplies_bind (hchild l (by simp [children]) _) fun _ =>
            onlyApplies_bind (hchild r (by simp [children]) _) fun _ => onlyApplies_ofOption _
    | connected op es =>
        rw [eval]
        exact onlyApplies_evalConnected hchild
    | compared e rest =>
        rw [eval]
        rw [children, List.forall_mem_cons] at hchild
        exact onlyApplies_bind (hchild.1 _) fun _ => onlyApplies_evalCompared hchild.2
    | choice test body alternative =>
        rw [eval]
        refine onlyApplies_bind (hchild test (by simp [children]) _) fun _ => ?_
        split
        · exact hchild body (by simp [children]) _
        · exact hchild alternative (by simp [children]) _
    | call callee es keywords =>
        have hcallee : callee ∈ root.callees := mem_callees_iff.mpr ⟨es, keywords, h⟩
        rw [children, List.forall_mem_append, List.forall_mem_cons] at hchild
        obtain ⟨⟨hobject, hes⟩, hkeywords⟩ := hchild
        cases callee with
        | name id =>
            refine onlyApplies_eval_call_name ?_ hes hkeywords
            intro f hf
            rwa [Function.named?_eq_some_iff.mp hf] at hcallee
        | field object attr =>
            exact onlyApplies_eval_call_field (fun _ => ⟨object, attr, hcallee⟩) (hobject _) hes
              hkeywords
        | _ => exact onlyApplies_fail
    | field object attr =>
        rw [eval]
        split
        · exact onlyApplies_fail
        · exact onlyApplies_bind (hchild object (by simp [children]) _) fun _ =>
            onlyApplies_ofOption _
    | subscript object index =>
        have hobject := hchild object (by simp [children])
        cases index with
        | slice lower upper step =>
            have hslice : slice lower upper step ∈
                (subscript object (slice lower upper step)).children := by simp [children]
            -- the bounds are two levels down, so the induction has to reach below the children
            refine onlyApplies_eval_subscript_slice (hobject _) fun bound hbound => ?_
            have hwithin := within_of_mem_children hbound
            exact ih _ hslice bound hwithin
              ((hwithin.trans (within_of_mem_children hslice)).trans h)
        | _ =>
            exact onlyApplies_bind (hobject _) fun _ =>
              onlyApplies_bind (hchild _ (by simp [children]) _) fun _ => onlyApplies_ofResult _
    | slice lower upper step =>
        rw [eval]
        exact onlyApplies_fail
    | interpolated es =>
        rw [eval]
        exact onlyApplies_bind (onlyApplies_evalPieces hchild) fun _ => onlyApplies_pure _
    | formatted e spec =>
        have he := hchild e (by simp [children])
        cases spec with
        | none =>
            rw [eval]
            exact he _
        | some spec =>
            rw [eval]
            exact onlyApplies_bind (hchild spec (by simp [children]) _) fun _ =>
              onlyApplies_bind (he _) fun _ => onlyApplies_ofOption _
    | refused form es =>
        rw [eval]
        exact onlyApplies_fail

/-- Calls within a tree account for every application that its evaluation makes. -/
theorem accounts_of_mem_applications {e : Expr} {m : Memory} {event : Event} {a : Applied}
    (h : a ∈ e.applications m event) : e.Accounts a := by
  obtain ⟨more, hmore, hP⟩ := onlyApplies_eval m event (Within.refl e) [] []
  rw [applications, hmore, List.nil_append] at h
  exact hP a h

end Expr

end EventSieve.Expression

/-! ## Templates -/

namespace EventSieve.Template

open Expression

theorem callsPlainNames_of_read {source : String} {t : Template} (h : read source = .ok t) :
    t.tree.callsPlainNames = true := by
  rw [read] at h
  simp only at h
  repeat' split at h
  all_goals cases h
  assumption

/-- Every call in a template has a plain name for its callee, and rendering applies only
those of the six functions that calls of the template name. -/
theorem applies_only_named_functions {source : String} {t : Template} (h : read source = .ok t)
    (m : Memory) (event : Event) :
    (∀ callee positional keywords, (Expr.call callee positional keywords).Within t.tree →
      ∃ id, callee = .name id) ∧
    ∀ a ∈ t.tree.applications m event, ∃ f : Function,
      a = .function f ∧ .name f.name ∈ t.tree.callees := by
  have hplain := Expr.callsPlainNames_iff.mp (callsPlainNames_of_read h)
  refine ⟨hplain, ?_⟩
  intro a ha
  have hcallee := Expr.accounts_of_mem_applications ha
  cases a with
  | function f => exact ⟨f, rfl, hcallee⟩
  | computed o =>
      obtain ⟨object, attr, hfield⟩ := hcallee
      obtain ⟨positional, keywords, hcall⟩ := Expr.mem_callees_iff.mp hfield
      obtain ⟨id, hid⟩ := hplain _ positional keywords hcall
      cases hid

/-- Fields that are named like functions take the place of no function that is called. -/
theorem shadowed_names_apply_functions :
    ∃ t, read "\x7b\x7b upper(str(len)) \x7d\x7d" = .ok t ∧
      (t.tree.applications default [("len", .int 5), ("upper", .str "no")]).length = 2 ∧
      (∀ callee positional keywords, (Expr.call callee positional keywords).Within t.tree →
        ∃ id, callee = .name id) ∧
      ∀ a ∈ t.tree.applications default [("len", .int 5), ("upper", .str "no")], ∃ f : Function,
        a = .function f ∧ .name f.name ∈ t.tree.callees := by
  have hread : (read "\x7b\x7b upper(str(len)) \x7d\x7d").toOption.map (fun t =>
      (t.tree.applications default [("len", .int 5), ("upper", .str "no")]).length) = some 2 := by
    decide +kernel
  cases ht : read "\x7b\x7b upper(str(len)) \x7d\x7d" with
  | error fault =>
      rw [ht] at hread
      cases hread
  | ok t =>
      rw [ht] at hread
      exact ⟨t, rfl, Option.some.inj hread, applies_only_named_functions ht _ _⟩

end EventSieve.Template
