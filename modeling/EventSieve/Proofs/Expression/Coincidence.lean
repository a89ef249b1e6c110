import EventSieve.Proofs.Expression.Addresses
import EventSieve.Proofs.Expression.Applications
import EventSieve.Proofs.Expression.Names

/-!
# Evaluations that agree

To an expression two events with the same operands under the names that it reads are the
same in one memory: each of its parts evaluates alike on both, or fails on both. They are
also the same in two memories in which the same places of the events are one object, unless
the expression may show an address. That takes an attribute, or a function that has no name
of its own.
-/

namespace EventSieve.Expression

open Evaluation

variable {e₁ e₂ : Event}

/-! ## Relating two evaluations -/

namespace Evaluation

variable {α β : Type} {P : α → Prop} {Q : β → Prop}

/-- Two evaluations are the same, and what they give has a property. -/
def Agree (P : α → Prop) (x y : Evaluation α) : Prop :=
  x = y ∧ ∀ noted a, (x.run.run noted).1 = .ok a → P a

theorem agree_pure {a : α} (h : P a) : Agree P (pure a) (pure a) := by
  refine ⟨rfl, fun _ b hb => ?_⟩
  cases hb
  exact h

theorem agree_fail : Agree P fail fail := ⟨rfl, fun _ _ => nofun⟩

theorem agree_note (a : Applied) : Agree (fun _ => True) (note a) (note a) :=
  ⟨rfl, fun _ _ _ => trivial⟩

theorem agree_ofResult {a : Except Failure α} (h : ∀ b, a = .ok b → P b) :
    Agree P (ofResult a) (ofResult a) := ⟨rfl, fun _ b hb => h b hb⟩

theorem agree_ofOption {a b : Option α} (hab : a = b) (h : ∀ c, a = some c → P c) :
    Agree P (ofOption a) (ofOption b) := by
  subst hab
  refine ⟨rfl, fun _ c hc => ?_⟩
  cases a with
  | none => cases hc
  | some d =>
      cases hc
      exact h _ rfl

theorem Agree.bind {x y : Evaluation α} {f g : α → Evaluation β} (h : Agree P x y)
    (hfg : ∀ a, P a → Agree Q (f a) (g a)) : Agree Q (x >>= f) (y >>= g) := by
  obtain ⟨rfl, hP⟩ := h
  refine ⟨?_, fun noted b hb => ?_⟩
  · refine StateT.ext fun noted => ?_
    show (x >>= f).run.run noted = (x >>= g).run.run noted
    rw [run_run_bind, run_run_bind]
    rcases hrun : x.run.run noted with ⟨failure | a, after⟩
    · rfl
    · show (f a).run.run after = (g a).run.run after
      rw [(hfg a (hP noted a (by rw [hrun]))).1]
  · rw [run_run_bind] at hb
    rcases hrun : x.run.run noted with ⟨failure | a, after⟩
    · rw [hrun] at hb
      cases hb
    · rw [hrun] at hb
      exact (hfg a (hP noted a (by rw [hrun]))).2 after b hb

end Evaluation

open Operand

namespace Expr

variable {m₁ m₂ : Memory}

/-! ## Rows of expressions -/

/-- An expression evaluates alike on two events in two memories, to an operand that is shown
alike. -/
def Agrees (m₁ m₂ : Memory) (e₁ e₂ : Event) (e : Expr) : Prop :=
  ∀ node, Agree (IsSteady m₁ m₂) (e.eval m₁ e₁ node) (e.eval m₂ e₂ node)

theorem agree_evalList {es : List Expr} (h : ∀ e ∈ es, e.Agrees m₁ m₂ e₁ e₂) (node : List Nat)
    (i : Nat) :
    Agree (fun os => ∀ o ∈ os, IsSteady m₁ m₂ o) (evalList m₁ e₁ node i es)
      (evalList m₂ e₂ node i es) := by
  induction es generalizing i with
  | nil => exact agree_pure (List.forall_mem_nil _)
  | cons e es ih =>
      rw [List.forall_mem_cons] at h
      rw [evalList, evalList]
      refine (h.1 _).bind fun o ho => (ih h.2 _).bind fun os hos => ?_
      exact agree_pure (List.forall_mem_cons.mpr ⟨ho, hos⟩)

theorem agree_evalPieces {es : List Expr} (h : ∀ e ∈ es, e.Agrees m₁ m₂ e₁ e₂) (node : List Nat)
    (i : Nat) :
    Agree (fun os => ∀ o ∈ os, o.isPlain = true) (evalPieces m₁ e₁ node i es)
      (evalPieces m₂ e₂ node i es) := by
  induction es generalizing i with
  | nil => exact agree_pure (List.forall_mem_nil _)
  | cons e es ih =>
      rw [List.forall_mem_cons] at h
      rw [evalPieces, evalPieces]
      refine (h.1 _).bind fun o ho => ?_
      have hpieces := agree_ofOption (piece?_eq_of_isSteady ho) (plain?_piece? m₁ o)
      refine hpieces.bind fun piece hpiece => ?_
      exact (ih h.2 _).bind fun os hos => agree_pure (List.forall_mem_cons.mpr ⟨hpiece, hos⟩)

theorem agree_evalKeywords {ks : List (Option String × Expr)}
    (h : ∀ e ∈ ks.map (·.2), e.Agrees m₁ m₂ e₁ e₂) (node : List Nat) (i : Nat) :
    Agree (fun named => ∀ o ∈ named.map (·.2), IsSteady m₁ m₂ o) (evalKeywords m₁ e₁ node i ks)
      (evalKeywords m₂ e₂ node i ks) := by
  induction ks generalizing i with
  | nil => exact agree_pure (List.forall_mem_nil _)
  | cons keyword ks ih =>
      rw [List.map_cons, List.forall_mem_cons] at h
      rw [evalKeywords, evalKeywords]
      refine (h.1 _).bind fun o ho => (ih h.2 _).bind fun os hos => ?_
      exact agree_pure (List.forall_mem_cons.mpr ⟨ho, hos⟩)

theorem agree_evalConnected {es : List Expr} (h : ∀ e ∈ es, e.Agrees m₁ m₂ e₁ e₂)
    (op : Connective) {last : Operand} (hlast : IsSteady m₁ m₂ last) (node : List Nat) (i : Nat) :
    Agree (IsSteady m₁ m₂) (evalConnected m₁ e₁ node i op last es)
      (evalConnected m₂ e₂ node i op last es) := by
  induction es generalizing last i with
  | nil => exact agree_pure hlast
  | cons e es ih =>
      rw [List.forall_mem_cons] at h
      rw [evalConnected, evalConnected]
      refine (h.1 _).bind fun o ho => ?_
      split
      · exact agree_pure ho
      · exact ih h.2 ho _

theorem agree_evalCompared (hsharing : m₁.sharing = m₂.sharing)
    {rest : List (Comparison × Expr)} (h : ∀ e ∈ rest.map (·.2), e.Agrees m₁ m₂ e₁ e₂)
    (a : Operand) (node : List Nat) (i : Nat) :
    Agree (IsSteady m₁ m₂) (evalCompared m₁ e₁ node i a rest)
      (evalCompared m₂ e₂ node i a rest) := by
  induction rest generalizing a i with
  | nil => exact agree_pure (.inr rfl)
  | cons pair rest ih =>
      rw [List.map_cons, List.forall_mem_cons] at h
      rw [evalCompared, evalCompared, hsharing]
      refine (h.1 _).bind fun b _ => (agree_ofOption rfl fun _ _ => trivial).bind fun holds _ => ?_
      split
      · exact ih h.2 b _
      · exact agree_pure (.inr rfl)

theorem agree_evalOption {o : Option Expr} (h : ∀ e ∈ o.toList, e.Agrees m₁ m₂ e₁ e₂)
    (node : List Nat) :
    Agree (IsSteady m₁ m₂) (evalOption m₁ e₁ node o) (evalOption m₂ e₂ node o) := by
  cases o with
  | none => exact agree_pure (.inr rfl)
  | some e => exact h e (List.mem_singleton.mpr rfl) node

/-! ## Calls -/

theorem mem_of_collectKeywords? {named : List (Option String × Operand)}
    {found : List (String × Operand)} (h : collectKeywords? named = some found) {o : Operand}
    (ho : o ∈ found.map (·.2)) : o ∈ named.map (·.2) := by
  induction named generalizing found with
  | nil =>
      cases h
      cases ho
  | cons keyword named ih =>
      obtain ⟨- | name, first⟩ := keyword
      · cases h
      · obtain ⟨rest, hrest, rfl⟩ := Option.map_eq_some_iff.mp h
        rw [List.map_cons, List.mem_cons]
        split at ho
        · exact .inr (ih hrest ho)
        · exact (List.mem_cons.mp ho).imp_right (ih hrest)

theorem agree_eval_call_name {id : String} {es : List Expr} {ks : List (Option String × Expr)}
    (hes : ∀ e ∈ es, e.Agrees m₁ m₂ e₁ e₂) (hks : ∀ e ∈ ks.map (·.2), e.Agrees m₁ m₂ e₁ e₂) :
    (call (name id) es ks).Agrees m₁ m₂ e₁ e₂ := by
  intro node
  rw [eval, eval]
  split
  · exact agree_fail
  · next f _ =>
    refine (agree_evalList hes _ _).bind fun positional hpositional => ?_
    refine (agree_evalKeywords hks _ _).bind fun named hnamed => ?_
    refine (agree_ofOption (P := fun found => ∀ o ∈ found.map (·.2), IsSteady m₁ m₂ o) rfl
      fun found hfound o ho => hnamed o (mem_of_collectKeywords? hfound ho)).bind
        fun keywords hkeywords => ?_
    have hsteady : (Arguments.mk positional keywords).AreSteady m₁ m₂ := ⟨hpositional, hkeywords⟩
    refine (agree_note _).bind fun _ _ => ?_
    exact agree_ofOption (f.result?_eq_of_areSteady hsteady) fun c hc =>
      .inr (plain?_result? m₁ f _ c hc)

theorem agree_eval_call_field {object : Expr} {attr : String} {es : List Expr}
    {ks : List (Option String × Expr)} (hcallee : (field object attr).Agrees m₁ m₂ e₁ e₂)
    (hes : ∀ e ∈ es, e.Agrees m₁ m₂ e₁ e₂) (hks : ∀ e ∈ ks.map (·.2), e.Agrees m₁ m₂ e₁ e₂) :
    (call (field object attr) es ks).Agrees m₁ m₂ e₁ e₂ := by
  intro node
  rw [eval, eval]
  refine (hcallee _).bind fun callee _ => (agree_evalList hes _ _).bind fun _ _ => ?_
  refine (agree_evalKeywords hks _ _).bind fun named _ => ?_
  refine (agree_ofOption (P := fun _ => True) rfl fun _ _ => trivial).bind fun _ _ => ?_
  exact (agree_note _).bind fun _ _ => agree_fail

/-! ## Expressions -/

theorem agree_eval_subscript {object index : Expr}
    (hslice : ∀ lower upper step, index ≠ slice lower upper step)
    (hobject : object.Agrees m₁ m₂ e₁ e₂) (hindex : index.Agrees m₁ m₂ e₁ e₂) :
    (subscript object index).Agrees m₁ m₂ e₁ e₂ := by
  intro node
  rw [eval, eval]
  · refine (hobject _).bind fun container _ => (hindex _).bind fun i _ => ?_
    exact agree_ofResult fun c hc => .inr (isPlain_of_item hc)
  · exact hslice
  · exact hslice

theorem agree_eval_subscript_slice {object : Expr} {lower upper step : Option Expr}
    (hobject : object.Agrees m₁ m₂ e₁ e₂)
    (hbounds : ∀ e ∈ (slice lower upper step).children, e.Agrees m₁ m₂ e₁ e₂) :
    (subscript object (slice lower upper step)).Agrees m₁ m₂ e₁ e₂ := by
  rw [children, List.forall_mem_append, List.forall_mem_append] at hbounds
  obtain ⟨⟨hlower, hupper⟩, hstep⟩ := hbounds
  intro node
  rw [eval, eval]
  refine (hobject _).bind fun container _ => (agree_evalOption hlower _).bind fun l _ => ?_
  refine (agree_evalOption hupper _).bind fun u _ => (agree_evalOption hstep _).bind fun s _ => ?_
  exact agree_ofOption rfl fun c hc => .inr (plain?_slice? container l u s c hc)

/-- A name stands for the same operand, which is shown alike if it is no function without a
name of its own. -/
theorem agree_eval_name {id : String} (h : SameUnder (name id).readNames e₁ e₂)
    (hmemory : m₁ = m₂ ∨ (name id).ShowsNoAddress) : (name id).Agrees m₁ m₂ e₁ e₂ := by
  intro node
  have hid : id ∈ (name id).readNames := mem_readNames_iff.mpr (.inl rfl)
  rw [eval, eval]
  refine agree_ofOption (h id hid) fun c hc => ?_
  refine hmemory.imp_right fun hplain => ?_
  rw [lookup?] at hc
  split at hc
  · cases hc
    rfl
  split at hc
  · cases hc
    rfl
  · obtain ⟨f, hf, rfl⟩ := Option.map_eq_some_iff.mp hc
    have hname := Function.named?_eq_some_iff.mp hf
    cases f with
    | lower => exact absurd (hname ▸ hid) hplain.lower
    | upper => exact absurd (hname ▸ hid) hplain.upper
    | _ => rfl

/-- Every part of an expression evaluates alike on events that agree on the names it reads: to
the same operand, with the same applications on the way, or to the same failure. In two
memories this takes an expression that shows no address. -/
theorem agrees {e : Expr} (h : SameUnder e.readNames e₁ e₂) (hsharing : m₁.sharing = m₂.sharing)
    (hmemory : m₁ = m₂ ∨ e.ShowsNoAddress) : e.Agrees m₁ m₂ e₁ e₂ := by
  induction e using induction_within with
  | step e ih =>
    have hoperand : ∀ child ∈ e.operandTrees, child.Agrees m₁ m₂ e₁ e₂ :=
      fun child hmem => ih child (mem_children_of_mem_operandTrees hmem) child
        (Within.refl child) (h.of_mem_operandTrees hmem)
        (hmemory.imp_right fun hplain => hplain.of_mem_operandTrees hmem)
    cases e with
    | constant c =>
        intro node
        rw [eval, eval]
        exact agree_ofOption rfl fun o ho => .inr (plain?_operand? c o ho)
    | name id => exact agree_eval_name h hmemory
    | unary op e =>
        intro node
        rw [eval, eval]
        exact (hoperand e (by simp [operandTrees, children]) _).bind fun a _ =>
          agree_ofOption rfl fun c hc => .inr (plain?_unary? a op c hc)
    | binary op l r =>
        intro node
        rw [eval, eval]
        split
        · exact agree_fail
        · refine (hoperand l (by simp [operandTrees, children]) _).bind fun a ha => ?_
          refine (hoperand r (by simp [operandTrees, children]) _).bind fun b hb => ?_
          exact agree_ofOption (result?_eq_of_isSteady op a hb) fun c hc =>
            ha.elim .inl fun ha => hb.elim .inl fun hb => .inr (plain?_binary? m₁ op ha hb c hc)
    | connected op es =>
        intro node
        rw [eval, eval]
        exact agree_evalConnected hoperand op (.inr rfl) _ _
    | compared e rest =>
        intro node
        rw [eval, eval]
        exact (hoperand e (by simp [operandTrees, children]) _).bind fun a _ =>
          agree_evalCompared hsharing
            (fun operand hmem => hoperand operand (List.mem_cons_of_mem e hmem)) a _ _
    | choice test body alternative =>
        intro node
        rw [eval, eval]
        refine (hoperand test (by simp [operandTrees, children]) _).bind fun t _ => ?_
        split
        · exact hoperand body (by simp [operandTrees, children]) _
        · exact hoperand alternative (by simp [operandTrees, children]) _
    | call callee es ks =>
        cases callee with
        | name id =>
            -- the callee itself is looked up among the functions, not in the event
            rw [operandTrees, List.forall_mem_append] at hoperand
            exact agree_eval_call_name hoperand.1 hoperand.2
        | field object attr =>
            have hparts : ∀ e ∈ (call (field object attr) es ks).children,
                e.Agrees m₁ m₂ e₁ e₂ := hoperand
            rw [children, List.forall_mem_append, List.forall_mem_cons] at hparts
            obtain ⟨⟨hcallee, hes⟩, hks⟩ := hparts
            exact agree_eval_call_field hcallee hes hks
        | _ => exact fun _ => agree_fail
    | field object attr =>
        intro node
        rw [eval, eval]
        split
        · exact agree_fail
        · refine (hoperand object (by simp [operandTrees, children]) _).bind fun o _ => ?_
          refine agree_ofOption rfl fun c _ => hmemory.imp_right fun hplain => ?_
          exact absurd (Within.refl _) (hplain.field object attr)
    | subscript object index =>
        have hobject := hoperand object (by simp [operandTrees, children])
        cases index with
        | slice lower upper step =>
            have hslice : slice lower upper step ∈
                (subscript object (slice lower upper step)).operandTrees := by
              simp [operandTrees, children]
            -- the bounds are two levels down, so the induction has to reach below the children
            refine agree_eval_subscript_slice hobject fun bound hbound => ?_
            exact ih _ (mem_children_of_mem_operandTrees hslice) bound
              (within_of_mem_children hbound)
              ((h.of_mem_operandTrees hslice).of_mem_operandTrees hbound)
              (hmemory.imp_right fun hplain =>
                (hplain.of_mem_operandTrees hslice).of_mem_operandTrees hbound)
        | _ =>
            exact agree_eval_subscript (by rintro _ _ _ ⟨⟩) hobject
              (hoperand _ (List.mem_cons_of_mem _ List.mem_cons_self))
    | slice lower upper step => exact fun _ => agree_fail
    | interpolated es =>
        intro node
        rw [eval, eval]
        exact (agree_evalPieces hoperand _ _).bind fun pieces hpieces =>
          agree_pure (.inr (isPlain_joinPieces hpieces))
    | formatted e spec =>
        have he := hoperand e (by simp [operandTrees, children])
        intro node
        cases spec with
        | none =>
            rw [eval, eval]
            exact he _
        | some spec =>
            rw [eval, eval]
            refine (hoperand spec (by simp [operandTrees, children]) _).bind fun spec _ => ?_
            refine (he _).bind fun o ho => ?_
            exact agree_ofOption (formatted?_eq_of_isSteady ho spec) fun c hc =>
              .inr (plain?_formatted? m₁ o spec c hc)
    | refused form es => exact fun _ => agree_fail

theorem evaluate_congr {e : Expr} (h : SameUnder e.readNames e₁ e₂)
    (hsharing : m₁.sharing = m₂.sharing) (hmemory : m₁ = m₂ ∨ e.ShowsNoAddress) :
    e.evaluate m₁ e₁ = e.evaluate m₂ e₂ := by
  rw [evaluate, evaluate, (agrees h hsharing hmemory []).1]

end Expr

end EventSieve.Expression
