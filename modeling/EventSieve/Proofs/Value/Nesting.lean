import EventSieve.Value.Equality
import Mathlib.Data.List.Perm.Subperm
import Mathlib.Logic.Relation

/-!
# Values within values

A value is within another if it stands in it at any depth, as an item or under a key.
What holds everywhere in a value holds of the value and everywhere in the values directly
below it, and an induction on values goes the same way. Two properties of this kind
matter for equality: that no map has a key twice, which is so for every decoded event, and
that no double stands for nothing.
-/

namespace EventSieve

/-! ## Lookup in fields whose keys are distinct -/

namespace Fields

theorem mem_of_get?_eq_some {fields : Fields} {key : String} {v : Value}
    (h : fields.get? key = some v) : (key, v) ∈ fields := by
  induction fields with
  | nil => cases h
  | cons field fields ih =>
      obtain ⟨k, w⟩ := field
      rw [get?_cons] at h
      split at h
      · next hk =>
        cases h
        rw [hk]
        exact List.mem_cons_self
      · exact List.mem_cons_of_mem _ (ih h)

theorem get?_eq_none_iff {fields : Fields} {key : String} :
    fields.get? key = none ↔ key ∉ fields.map (·.1) := by
  induction fields with
  | nil => simp
  | cons field fields ih =>
      obtain ⟨k, w⟩ := field
      rw [get?_cons, List.map_cons, List.mem_cons, not_or, ← ih]
      by_cases hk : k = key
      · simp [hk]
      · simp [hk, Ne.symm hk]

/-- Where no key is there twice, a lookup finds every field. -/
theorem get?_eq_some_iff {fields : Fields} (h : (fields.map (·.1)).Nodup) {key : String}
    {v : Value} : fields.get? key = some v ↔ (key, v) ∈ fields := by
  refine ⟨mem_of_get?_eq_some, ?_⟩
  intro hmem
  induction fields with
  | nil => cases hmem
  | cons field fields ih =>
      obtain ⟨k, w⟩ := field
      rw [List.map_cons, List.nodup_cons] at h
      rw [get?_cons]
      rcases List.mem_cons.mp hmem with heq | hmem
      · cases heq
        rw [if_pos rfl]
      · have hk : k ≠ key := by
          rintro rfl
          exact h.1 (List.mem_map_of_mem (f := (·.1)) hmem)
        rw [if_neg hk, ih h.2 hmem]

theorem get?_perm {fields others : Fields} (h : (fields.map (·.1)).Nodup)
    (hperm : fields.Perm others) (key : String) : fields.get? key = others.get? key := by
  have hothers : (others.map (·.1)).Nodup := (hperm.map (·.1)).nodup_iff.mp h
  ext v
  rw [get?_eq_some_iff h, get?_eq_some_iff hothers, hperm.mem_iff]

end Fields

namespace Value

/-! ## Values directly below -/

section Children

variable {τ : Type}

def children : Value τ → List (Value τ)
  | list items => items
  | map fields => fields.map (·.2)
  | _ => []

@[simp] theorem children_list (items : List (Value τ)) : children (.list items) = items := rfl

@[simp] theorem children_map (fields : Fields τ) : children (.map fields) = fields.map (·.2) := rfl

-- values stand in rows of items and of fields, each of which needs a companion
mutual

theorem induction_children {P : Value τ → Prop}
    (step : ∀ v : Value τ, (∀ child ∈ v.children, P child) → P v) : (v : Value τ) → P v
  | null => step _ (List.forall_mem_nil _)
  | bool _ => step _ (List.forall_mem_nil _)
  | int _ => step _ (List.forall_mem_nil _)
  | float _ => step _ (List.forall_mem_nil _)
  | str _ => step _ (List.forall_mem_nil _)
  | list items => step _ (induction_items step items)
  | map fields => step _ (induction_fields step fields)

theorem induction_items {P : Value τ → Prop}
    (step : ∀ v : Value τ, (∀ child ∈ v.children, P child) → P v) :
    (items : List (Value τ)) → ∀ v ∈ items, P v
  | [] => List.forall_mem_nil _
  | v :: items => List.forall_mem_cons.mpr ⟨induction_children step v, induction_items step items⟩

theorem induction_fields {P : Value τ → Prop}
    (step : ∀ v : Value τ, (∀ child ∈ v.children, P child) → P v) :
    (fields : List (τ × Value τ)) → ∀ v ∈ fields.map (·.2), P v
  | [] => List.forall_mem_nil _
  | (_, v) :: fields =>
    List.forall_mem_cons.mpr ⟨induction_children step v, induction_fields step fields⟩

end

end Children

theorem mem_children_of_get? {fields : Fields} {key : String} {v : Value}
    (h : fields.get? key = some v) : v ∈ children (.map fields) :=
  List.mem_map_of_mem (f := (·.2)) (Fields.mem_of_get?_eq_some h)

/-! ## At any depth -/

def Within (sub v : Value) : Prop := Relation.ReflTransGen (fun a b => b ∈ a.children) v sub

theorem within_iff {sub v : Value} :
    sub.Within v ↔ sub = v ∨ ∃ child ∈ v.children, sub.Within child := by
  rw [Within, Relation.ReflTransGen.cases_head_iff, eq_comm]
  rfl

/-- A property of a value and of all that stands in it. -/
def Everywhere (P : Value → Prop) (v : Value) : Prop := ∀ sub : Value, sub.Within v → P sub

theorem everywhere_iff {P : Value → Prop} {v : Value} :
    Everywhere P v ↔ P v ∧ ∀ child ∈ v.children, Everywhere P child := by
  constructor
  · intro h
    refine ⟨h v (within_iff.mpr (.inl rfl)), ?_⟩
    intro child hchild sub hsub
    exact h sub (within_iff.mpr (.inr ⟨child, hchild, hsub⟩))
  · rintro ⟨hv, hchildren⟩ sub hsub
    rcases within_iff.mp hsub with rfl | ⟨child, hchild, hsub⟩
    · exact hv
    · exact hchildren child hchild sub hsub

def keys : Value → List String
  | map fields => fields.map (·.1)
  | _ => []

@[simp] theorem keys_map (fields : Fields) : keys (.map fields) = fields.map (·.1) := rfl

/-- No map in a value has a key twice. -/
def KeysDistinct (v : Value) : Prop := Everywhere (fun sub => sub.keys.Nodup) v

theorem keysDistinct_iff {v : Value} :
    v.KeysDistinct ↔ v.keys.Nodup ∧ ∀ child ∈ v.children, child.KeysDistinct := everywhere_iff

theorem KeysDistinct.nodup {v : Value} (h : v.KeysDistinct) : v.keys.Nodup :=
  (keysDistinct_iff.mp h).1

theorem KeysDistinct.child {v child : Value} (h : v.KeysDistinct) (hchild : child ∈ v.children) :
    child.KeysDistinct := (keysDistinct_iff.mp h).2 child hchild

theorem keysDistinct_of_leaf {v : Value} (hkeys : v.keys = []) (hchildren : v.children = []) :
    v.KeysDistinct := by
  rw [keysDistinct_iff, hkeys, hchildren]
  exact ⟨List.nodup_nil, List.forall_mem_nil _⟩

theorem keysDistinct_list {items : List Value} :
    (list items).KeysDistinct ↔ ∀ v ∈ items, v.KeysDistinct := by
  rw [keysDistinct_iff]
  exact and_iff_right List.nodup_nil

theorem keysDistinct_map {fields : Fields} :
    (map fields).KeysDistinct ↔
      (fields.map (·.1)).Nodup ∧ ∀ v ∈ fields.map (·.2), v.KeysDistinct := keysDistinct_iff

def HoldsUndefined (v : Value) : Prop :=
  ∃ x, (float x).Within v ∧ Binary64.isUndefined x = true

theorem not_holdsUndefined_iff {v : Value} :
    ¬ v.HoldsUndefined ↔
      Everywhere (fun sub => ∀ x, sub = float x → Binary64.isUndefined x = false) v := by
  constructor
  · intro h sub hsub x hx
    rw [hx] at hsub
    exact Bool.eq_false_iff.mpr fun hundefined => h ⟨x, hsub, hundefined⟩
  · rintro h ⟨x, hwithin, hundefined⟩
    rw [h _ hwithin x rfl] at hundefined
    cases hundefined

theorem not_holdsUndefined_iff_children {v : Value} :
    ¬ v.HoldsUndefined ↔
      (∀ x, v = float x → Binary64.isUndefined x = false) ∧
        ∀ child ∈ v.children, ¬ child.HoldsUndefined := by
  simp only [not_holdsUndefined_iff]
  exact everywhere_iff

end Value

end EventSieve
