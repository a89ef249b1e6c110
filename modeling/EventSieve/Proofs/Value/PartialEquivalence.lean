import EventSieve.Proofs.Value.Equality
import EventSieve.Proofs.Value.Nesting
import Mathlib.Data.List.Forall2

/-!
# Equality as a partial equivalence

Equality of values is symmetric and transitive, and a value is equal to itself exactly if
no double in it stands for nothing. All of it follows from one fact, `equal_iff_alike`:
equality is what `Alike` makes of itself one level up. `Alike` says what two values have to
have in common if a relation is given for the values directly below them, and it keeps
symmetry and composition. Keys are compared by lookup there, so that the order of fields,
at any depth, is of no account.
-/

namespace EventSieve

theorem forall₂_comp {α : Type} {R S : α → α → Prop} {xs ys zs : List α}
    (h : List.Forall₂ R xs ys) (h' : List.Forall₂ S ys zs) :
    List.Forall₂ (Relation.Comp R S) xs zs := by
  induction h generalizing zs with
  | nil =>
      cases h'
      exact .nil
  | cons hab _ ih =>
      cases h' with
      | cons hbc h' => exact .cons ⟨_, hab, hbc⟩ (ih h')

namespace Value

/-! ## One level of equality -/

/-- Two values of one content, for a relation of what stands directly below them: the same
text, the same exact number, items that are related in every place, or the same keys with
related values. -/
inductive Alike (R : Value → Value → Prop) : Value → Value → Prop
  | null : Alike R .null .null
  | str (s : String) : Alike R (.str s) (.str s)
  | number {v w : Value} {x : Exact} (hv : v.number? = some x) (hw : w.number? = some x)
      (hx : x ≠ .undefined) : Alike R v w
  | list {xs ys : List Value} (h : List.Forall₂ R xs ys) : Alike R (.list xs) (.list ys)
  | map {fields others : Fields}
      (hkeys : ∀ key, (fields.get? key).isSome = (others.get? key).isSome)
      (hvalues : ∀ key a b, fields.get? key = some a → others.get? key = some b → R a b) :
      Alike R (.map fields) (.map others)

namespace Alike

variable {R S : Value → Value → Prop} {u v w : Value}

/-- Of the relation only what it says of the values directly below matters. -/
theorem mono (h : Alike R v w) (hRS : ∀ a ∈ v.children, ∀ b ∈ w.children, R a b → S a b) :
    Alike S v w := by
  cases h with
  | null => exact .null
  | str s => exact .str s
  | number hv hw hx => exact .number hv hw hx
  | list h =>
      apply Alike.list
      induction h with
      | nil => exact .nil
      | @cons a b xs ys hab _ ih =>
          refine .cons (hRS a List.mem_cons_self b List.mem_cons_self hab) (ih ?_)
          intro c hc d hd
          exact hRS c (List.mem_cons_of_mem a hc) d (List.mem_cons_of_mem b hd)
  | map hkeys hvalues =>
      refine .map hkeys fun key a b ha hb => ?_
      exact hRS a (mem_children_of_get? ha) b (mem_children_of_get? hb) (hvalues key a b ha hb)

theorem symm (h : Alike R v w) : Alike (fun a b => R b a) w v := by
  cases h with
  | null => exact .null
  | str s => exact .str s
  | number hv hw hx => exact .number hw hv hx
  | list h => exact .list h.flip
  | map hkeys hvalues =>
      exact .map (fun key => (hkeys key).symm) fun key a b ha hb => hvalues key b a hb ha

theorem comp (h : Alike R u v) (h' : Alike S v w) : Alike (Relation.Comp R S) u w := by
  cases h with
  | null =>
      cases h' with
      | null => exact .null
      | number hv _ _ => cases hv
  | str s =>
      cases h' with
      | str => exact .str s
      | number hv _ _ => cases hv
  | number hu hv hx =>
      cases h' with
      | number hv' hw _ =>
          rw [hv, Option.some.injEq] at hv'
          exact .number hu (hv' ▸ hw) hx
      | _ => cases hv
  | list h =>
      cases h' with
      | list h' => exact .list (forall₂_comp h h')
      | number hv _ _ => cases hv
  | @map fields middle hkeys hvalues =>
      cases h' with
      | map hkeys' hvalues' =>
          refine .map (fun key => (hkeys key).trans (hkeys' key)) fun key a c ha hc => ?_
          have hsome : (middle.get? key).isSome := by rw [← hkeys key, ha, Option.isSome_some]
          obtain ⟨b, hb⟩ := Option.isSome_iff_exists.mp hsome
          exact ⟨b, hvalues key a b ha hb, hvalues' key b c hb hc⟩
      | number hv _ _ => cases hv

end Alike

/-! ## Equality of what is directly below -/

theorem numbersEqual_iff {v w : Value} :
    numbersEqual v w = true ↔
      ∃ x, v.number? = some x ∧ w.number? = some x ∧ x ≠ .undefined := by
  rw [numbersEqual]
  cases v.number? with
  | none => simp
  | some x =>
      cases w.number? with
      | none => simp
      | some y =>
          simp only [Exact.equal_iff, Option.some.injEq, exists_eq_left']
          constructor
          · rintro ⟨rfl, hx⟩
            exact ⟨rfl, hx⟩
          · rintro ⟨rfl, hx⟩
            exact ⟨rfl, hx⟩

theorem equalItems_iff {xs ys : List Value} :
    equalItems xs ys = true ↔ List.Forall₂ (fun a b => equal a b = true) xs ys := by
  induction xs generalizing ys with
  | nil => cases ys <;> simp [equalItems]
  | cons x xs ih =>
      cases ys with
      | nil => simp [equalItems]
      | cons y ys => rw [equalItems, Bool.and_eq_true, ih, List.forall₂_cons]

theorem equalFields_iff {fields : List (String × Value)} {others : Fields} :
    equalFields fields others = true ↔
      ∀ field ∈ fields, ∃ b, others.get? field.1 = some b ∧ equal field.2 b = true := by
  induction fields with
  | nil => simp [equalFields]
  | cons field fields ih =>
      rw [equalFields, Bool.and_eq_true, ih, List.forall_mem_cons]
      refine and_congr_left fun _ => ?_
      cases others.get? field.1 with
      | none => simp
      | some b => simp

theorem perm_keys_of_subset {fields others : Fields} (h : (fields.map (·.1)).Nodup)
    (hlength : fields.length = others.length)
    (hsub : fields.map (·.1) ⊆ others.map (·.1)) :
    (fields.map (·.1)).Perm (others.map (·.1)) := by
  apply (h.subperm hsub).perm_of_length_le
  rw [List.length_map, List.length_map]
  exact Nat.le_of_eq hlength.symm

theorem equal_map_iff {fields others : Fields} (h : (fields.map (·.1)).Nodup)
    (hothers : (others.map (·.1)).Nodup) :
    equal (.map fields) (.map others) = true ↔
      (∀ key, (fields.get? key).isSome = (others.get? key).isSome) ∧
        ∀ key a b, fields.get? key = some a → others.get? key = some b → equal a b = true := by
  have hkeys : ∀ key, (fields.get? key).isSome = (others.get? key).isSome ↔
      (key ∈ fields.map (·.1) ↔ key ∈ others.map (·.1)) := by
    intro key
    rw [Bool.eq_iff_iff, Option.isSome_iff_ne_none, Option.isSome_iff_ne_none, ne_eq, ne_eq,
      Fields.get?_eq_none_iff, Fields.get?_eq_none_iff, not_not, not_not]
  rw [equal, Bool.and_eq_true, beq_iff_eq, equalFields_iff]
  constructor
  · rintro ⟨hlength, hfields⟩
    have hsub : fields.map (·.1) ⊆ others.map (·.1) := by
      intro key hkey
      obtain ⟨field, hfield, rfl⟩ := List.mem_map.mp hkey
      obtain ⟨b, hb, -⟩ := hfields field hfield
      by_contra hnot
      rw [Fields.get?_eq_none_iff.mpr hnot] at hb
      cases hb
    refine ⟨fun key => (hkeys key).mpr (perm_keys_of_subset h hlength hsub).mem_iff, ?_⟩
    intro key a b ha hb
    obtain ⟨c, hc, hac⟩ := hfields (key, a) (Fields.mem_of_get?_eq_some ha)
    rw [hb, Option.some.injEq] at hc
    rwa [hc]
  · rintro ⟨hsame, hvalues⟩
    have hperm : (fields.map (·.1)).Perm (others.map (·.1)) :=
      (List.perm_ext_iff_of_nodup h hothers).mpr fun key => (hkeys key).mp (hsame key)
    refine ⟨by simpa using hperm.length_eq, ?_⟩
    rintro ⟨key, a⟩ hfield
    have ha := (Fields.get?_eq_some_iff h).mpr hfield
    have hsome := hsame key
    rw [ha, Option.isSome_some] at hsome
    obtain ⟨b, hb⟩ := Option.isSome_iff_exists.mp hsome.symm
    exact ⟨b, hb, hvalues key a b ha hb⟩

/-- Equality is what two values have in common for the equality of the values directly below
them. -/
theorem equal_iff_alike {v w : Value} (hv : v.keys.Nodup) (hw : w.keys.Nodup) :
    equal v w = true ↔ Alike (fun a b => equal a b = true) v w := by
  constructor
  · intro h
    cases v with
    | null =>
        cases w with
        | null => exact .null
        | _ => cases h
    | str s =>
        cases w with
        | str t =>
            rw [equal, beq_iff_eq] at h
            rw [h]
            exact .str t
        | _ => cases h
    | list xs =>
        cases w with
        | list ys => exact .list (equalItems_iff.mp h)
        | _ => cases h
    | map fields =>
        cases w with
        | map others =>
            obtain ⟨hkeys, hvalues⟩ := (equal_map_iff hv hw).mp h
            exact .map hkeys hvalues
        | _ => cases h
    | _ =>
        obtain ⟨x, hx, hy, hdefined⟩ := numbersEqual_iff.mp h
        exact .number hx hy hdefined
  · intro h
    cases h with
    | null => rfl
    | str s => rw [equal, beq_iff_eq]
    | list h => exact equalItems_iff.mpr h
    | map hkeys hvalues => exact (equal_map_iff hv hw).mpr ⟨hkeys, hvalues⟩
    | number hx hy hdefined =>
        have hnumbers := numbersEqual_iff.mpr ⟨_, hx, hy, hdefined⟩
        cases v with
        | bool b => exact hnumbers
        | int n => exact hnumbers
        | float x => exact hnumbers
        | _ => cases hx

/-! ## Symmetry and transitivity -/

theorem equal_symm {v w : Value} (hv : v.KeysDistinct) (hw : w.KeysDistinct)
    (h : equal v w = true) : equal w v = true := by
  induction v using induction_children generalizing w with
  | step v ih =>
    rw [equal_iff_alike hv.nodup hw.nodup] at h
    rw [equal_iff_alike hw.nodup hv.nodup]
    refine h.symm.mono fun b hb a ha hab => ?_
    exact ih a ha (hv.child ha) (hw.child hb) hab

theorem equal_trans {u v w : Value} (hu : u.KeysDistinct) (hv : v.KeysDistinct)
    (hw : w.KeysDistinct) (h : equal u v = true) (h' : equal v w = true) :
    equal u w = true := by
  induction u using induction_children generalizing v w with
  | step u ih =>
    rw [equal_iff_alike hu.nodup hv.nodup] at h
    rw [equal_iff_alike hv.nodup hw.nodup] at h'
    rw [equal_iff_alike hu.nodup hw.nodup]
    -- the induction needs to know that what stands between is below the middle value
    have hbelow := h.mono (S := fun a b => equal a b = true ∧ b ∈ v.children)
      fun a _ b hb hab => ⟨hab, hb⟩
    refine (hbelow.comp h').mono ?_
    rintro a ha c hc ⟨b, ⟨hab, hb⟩, hbc⟩
    exact ih a ha (hu.child ha) (hv.child hb) (hw.child hc) hab hbc

/-! ## Equality of a value with itself -/

/-- A value has its own content if it is no undefined double and what is directly below it is
related to itself. -/
theorem alike_self_iff {R : Value → Value → Prop} {v : Value} (h : v.keys.Nodup) :
    Alike R v v ↔
      (∀ x, v = float x → Binary64.isUndefined x = false) ∧
        ∀ child ∈ v.children, R child child := by
  constructor
  · intro hself
    constructor
    · rintro x rfl
      cases hself with
      | number hx _ hdefined =>
          cases hx
          rwa [Binary64.isUndefined, beq_eq_false_iff_ne]
    · intro child hchild
      cases v with
      | list items =>
          cases hself with
          | list hitems => exact List.forall₂_same.mp hitems child hchild
          | number hx _ _ => cases hx
      | map fields =>
          obtain ⟨field, hfield, rfl⟩ := List.mem_map.mp hchild
          have hget := (Fields.get?_eq_some_iff h).mpr hfield
          cases hself with
          | map _ hvalues => exact hvalues _ _ _ hget hget
          | number hx _ _ => cases hx
      | _ => cases hchild
  · rintro ⟨hdefined, hchildren⟩
    cases v with
    | null => exact .null
    | str s => exact .str s
    | bool b => exact .number rfl rfl (by simp [Exact.ofInt])
    | int n => exact .number rfl rfl (by simp [Exact.ofInt])
    | float x =>
        have hx := hdefined x rfl
        rw [Binary64.isUndefined, beq_eq_false_iff_ne] at hx
        exact .number rfl rfl hx
    | list items => exact .list (List.forall₂_same.mpr hchildren)
    | map fields =>
        refine .map (fun _ => rfl) fun key a b ha hb => ?_
        rw [ha, Option.some.injEq] at hb
        rw [← hb]
        exact hchildren a (mem_children_of_get? ha)

theorem equal_self_iff {v : Value} (h : v.KeysDistinct) :
    equal v v = true ↔ ¬ v.HoldsUndefined := by
  induction v using induction_children with
  | step v ih =>
    rw [equal_iff_alike h.nodup h.nodup, alike_self_iff h.nodup, not_holdsUndefined_iff_children]
    refine and_congr_right fun _ => forall₂_congr fun child hchild => ?_
    exact ih child hchild (h.child hchild)

theorem not_holdsUndefined_of_equal {v w : Value} (hv : v.KeysDistinct) (hw : w.KeysDistinct)
    (h : equal v w = true) : ¬ v.HoldsUndefined :=
  (equal_self_iff hv).mp (equal_trans hv hw hv h (equal_symm hv hw h))

theorem equal_self_of_mem_children {v child : Value} (h : v.KeysDistinct)
    (hdefined : ¬ v.HoldsUndefined) (hchild : child ∈ v.children) : equal child child = true :=
  (equal_self_iff (h.child hchild)).mpr
    ((not_holdsUndefined_iff_children.mp hdefined).2 child hchild)

/-! ## Values that differ in one place -/

theorem equal_list_of_item {before after : List Value} {v w : Value}
    (hself : ∀ child ∈ before ++ after, equal child child = true) (h : equal v w = true) :
    equal (.list (before ++ v :: after)) (.list (before ++ w :: after)) = true := by
  rw [List.forall_mem_append] at hself
  exact equalItems_iff.mpr (List.rel_append (List.forall₂_same.mpr hself.1)
    (.cons h (List.forall₂_same.mpr hself.2)))

theorem equal_map_of_value {before after : Fields} {key : String} {v w : Value}
    (hv : (keys (.map (before ++ (key, v) :: after))).Nodup)
    (hw : (keys (.map (before ++ (key, w) :: after))).Nodup)
    (hself : ∀ child ∈ (before ++ after).map (·.2), equal child child = true)
    (h : equal v w = true) :
    equal (.map (before ++ (key, v) :: after)) (.map (before ++ (key, w) :: after)) = true := by
  rw [List.map_append, List.forall_mem_append] at hself
  refine (equal_map_iff hv hw).mpr ⟨?_, ?_⟩
  · intro other
    simp only [Fields.get?_append, Fields.get?_cons]
    by_cases hkey : key = other
    · simp [hkey]
    · simp [hkey]
  · intro other a b ha hb
    rw [Fields.get?_append, Fields.get?_cons] at ha hb
    cases hbefore : before.get? other with
    | some c =>
        rw [hbefore, Option.some_or, Option.some.injEq] at ha hb
        rw [← ha, ← hb]
        exact hself.1 c (mem_children_of_get? hbefore)
    | none =>
        rw [hbefore, Option.none_or] at ha hb
        by_cases hkey : key = other
        · rw [if_pos hkey, Option.some.injEq] at ha hb
          rwa [← ha, ← hb]
        · rw [if_neg hkey] at ha hb
          rw [ha, Option.some.injEq] at hb
          rw [← hb]
          exact hself.2 a (mem_children_of_get? ha)

theorem equal_map_of_perm {fields others : Fields} (hv : (keys (.map fields)).Nodup)
    (hw : (keys (.map others)).Nodup) (h : fields.Perm others)
    (hself : ∀ child ∈ children (.map fields), equal child child = true) :
    equal (.map fields) (.map others) = true := by
  refine (equal_map_iff hv hw).mpr ⟨fun key => by rw [Fields.get?_perm hv h], ?_⟩
  intro key a b ha hb
  have hchild := mem_children_of_get? ha
  rw [Fields.get?_perm hv h, hb, Option.some.injEq] at ha
  rw [ha]
  exact hself a hchild

/-! ## The order of fields -/

/-- Two values that differ in the order of the fields of one map, at any depth. -/
inductive Reorders : Value → Value → Prop
  | fields {fields others : Fields} (h : fields.Perm others) :
      Reorders (.map fields) (.map others)
  | item (before after : List Value) {v w : Value} (h : Reorders v w) :
      Reorders (.list (before ++ v :: after)) (.list (before ++ w :: after))
  | value (before after : Fields) (key : String) {v w : Value} (h : Reorders v w) :
      Reorders (.map (before ++ (key, v) :: after)) (.map (before ++ (key, w) :: after))

/-- Two values that differ in the order of fields only. -/
def Reordered : Value → Value → Prop := Relation.ReflTransGen Reorders

namespace Reorders

variable {v w : Value}

/-- A property that is not about the order of fields holds everywhere in both values. -/
theorem everywhere_iff {P : Value → Prop} (hP : ∀ {v w}, Reorders v w → (P v ↔ P w))
    (h : Reorders v w) : Everywhere P v ↔ Everywhere P w := by
  induction h with
  | fields h =>
      rw [Value.everywhere_iff, Value.everywhere_iff]
      refine and_congr (hP (.fields h)) (forall_congr' fun child => ?_)
      rw [children_map, children_map, (h.map Prod.snd).mem_iff]
  | item before after h ih =>
      rw [Value.everywhere_iff, Value.everywhere_iff]
      refine and_congr (hP (.item before after h)) ?_
      rw [children_list, children_list, List.forall_mem_append, List.forall_mem_append,
        List.forall_mem_cons, List.forall_mem_cons, ih]
  | value before after key h ih =>
      rw [Value.everywhere_iff, Value.everywhere_iff]
      refine and_congr (hP (.value before after key h)) ?_
      rw [children_map, children_map, List.map_append, List.map_append, List.map_cons,
        List.map_cons, List.forall_mem_append, List.forall_mem_append, List.forall_mem_cons,
        List.forall_mem_cons, ih]

theorem keysDistinct_iff (h : Reorders v w) : v.KeysDistinct ↔ w.KeysDistinct := by
  refine everywhere_iff (fun h => ?_) h
  cases h with
  | fields h => exact (h.map Prod.fst).nodup_iff
  | item before after h => exact Iff.rfl
  | value before after key h => rw [keys_map, keys_map, List.map_append, List.map_append]; rfl

theorem holdsUndefined_iff (h : Reorders v w) : v.HoldsUndefined ↔ w.HoldsUndefined := by
  rw [← not_iff_not, not_holdsUndefined_iff, not_holdsUndefined_iff]
  refine everywhere_iff (fun h => ?_) h
  cases h with
  | fields h => simp
  | item before after h => simp
  | value before after key h => simp

theorem equal_of_not_holdsUndefined (h : Reorders v w) (hv : v.KeysDistinct)
    (hdefined : ¬ v.HoldsUndefined) : equal v w = true := by
  induction h with
  | fields h =>
      have hw := (Reorders.fields h).keysDistinct_iff.mp hv
      exact equal_map_of_perm hv.nodup hw.nodup h fun child =>
        equal_self_of_mem_children hv hdefined
  | @item before after v w h ih =>
      have hmem : v ∈ children (.list (before ++ v :: after)) := by simp
      refine equal_list_of_item (fun child hchild => ?_)
        (ih (hv.child hmem) ((not_holdsUndefined_iff_children.mp hdefined).2 v hmem))
      have hsub := (List.sublist_cons_self v after).append_left before
      exact equal_self_of_mem_children hv hdefined (hsub.subset hchild)
  | @value before after key v w h ih =>
      have hmem : v ∈ children (.map (before ++ (key, v) :: after)) := by simp
      have hw := (Reorders.value before after key h).keysDistinct_iff.mp hv
      refine equal_map_of_value hv.nodup hw.nodup (fun child hchild => ?_)
        (ih (hv.child hmem) ((not_holdsUndefined_iff_children.mp hdefined).2 v hmem))
      have hsub := (List.sublist_cons_self (key, v) after).append_left before
      exact equal_self_of_mem_children hv hdefined ((hsub.map (·.2)).subset hchild)

theorem kind_eq (h : Reorders v w) : v.kind = w.kind := by
  cases h with
  | fields _ => rfl
  | item _ _ _ => rfl
  | value _ _ _ _ => rfl

end Reorders

namespace Reordered

variable {u v w : Value}

theorem keysDistinct_iff (h : Reordered v w) : v.KeysDistinct ↔ w.KeysDistinct := by
  induction h with
  | refl => rfl
  | tail _ hstep ih => exact ih.trans hstep.keysDistinct_iff

theorem holdsUndefined_iff (h : Reordered v w) : v.HoldsUndefined ↔ w.HoldsUndefined := by
  induction h with
  | refl => rfl
  | tail _ hstep ih => exact ih.trans hstep.holdsUndefined_iff

theorem kind_eq (h : Reordered v w) : v.kind = w.kind := by
  induction h with
  | refl => rfl
  | tail _ hstep ih => exact ih.trans hstep.kind_eq

/-- Values that differ in the order of fields only are equal if no double in them stands for
nothing, and only then. -/
theorem equal_iff (h : Reordered v w) (hv : v.KeysDistinct) :
    equal v w = true ↔ ¬ v.HoldsUndefined := by
  constructor
  · exact not_holdsUndefined_of_equal hv (h.keysDistinct_iff.mp hv)
  · intro hdefined
    induction h with
    | refl => exact (equal_self_iff hv).mpr hdefined
    | tail h hstep ih =>
        have hmiddle := (keysDistinct_iff h).mp hv
        have hlast := hstep.equal_of_not_holdsUndefined hmiddle
          (mt (holdsUndefined_iff h).mpr hdefined)
        exact equal_trans hv hmiddle (hstep.keysDistinct_iff.mp hmiddle) ih hlast

/-- The order of fields is of no account to a comparison, also where doubles in them stand for
nothing. -/
theorem equal_congr (h : Reordered v w) (hv : v.KeysDistinct) (hu : u.KeysDistinct) :
    equal w u = equal v u := by
  have hw := h.keysDistinct_iff.mp hv
  rw [Bool.eq_iff_iff]
  constructor
  · intro hwu
    have hdefined := mt h.holdsUndefined_iff.mp (not_holdsUndefined_of_equal hw hu hwu)
    exact equal_trans hv hw hu ((h.equal_iff hv).mpr hdefined) hwu
  · intro hvu
    have hvw := (h.equal_iff hv).mpr (not_holdsUndefined_of_equal hv hu hvu)
    exact equal_trans hw hv hu (equal_symm hv hw hvw) hvu

end Reordered

/-! ## Strict equality -/

/-- Strict equality is symmetric and transitive on values without double keys. A value is
strictly equal to itself, and to each value that differs from it in the order of fields only,
exactly if no double in it stands for nothing, and the order of fields makes no difference to
what a value is strictly equal to. Values of two kinds are never strictly equal;
below the outermost level values are compared by `equal`, for which numbers of all kinds are
what they stand for. -/
theorem strictEqual_partial_equivalence {a b c : Value} (ha : a.KeysDistinct)
    (hb : b.KeysDistinct) (hc : c.KeysDistinct) :
    a.strictEqual b = b.strictEqual a ∧
    (a.strictEqual b = true → b.strictEqual c = true → a.strictEqual c = true) ∧
    (a.strictEqual a = true ↔ ¬ a.HoldsUndefined) ∧
    (∀ d, Reordered a d → (a.strictEqual d = true ↔ ¬ a.HoldsUndefined) ∧
      d.strictEqual b = a.strictEqual b) ∧
    (a.kind ≠ b.kind → a.strictEqual b = false) ∧
    (a.strictEqual b = true ↔ a.kind = b.kind ∧ Alike (fun v w => equal v w = true) a b) ∧
    (equal a b = true ↔ Alike (fun v w => equal v w = true) a b) := by
  have hreordered : ∀ d, Reordered a d → (a.strictEqual d = true ↔ ¬ a.HoldsUndefined) ∧
      d.strictEqual b = a.strictEqual b := by
    intro d hd
    constructor
    · rw [strictEqual_iff, and_iff_right hd.kind_eq, hd.equal_iff ha]
    · rw [Bool.eq_iff_iff, strictEqual_iff, strictEqual_iff, hd.kind_eq, hd.equal_congr ha hb]
  refine ⟨?_, ?_, (hreordered a Relation.ReflTransGen.refl).1, hreordered, ?_, ?_, ?_⟩
  · rw [Bool.eq_iff_iff, strictEqual_iff, strictEqual_iff, eq_comm]
    exact and_congr_right fun _ => ⟨equal_symm ha hb, equal_symm hb ha⟩
  · simp only [strictEqual_iff]
    rintro ⟨hkind, hequal⟩ ⟨hkind', hequal'⟩
    exact ⟨hkind.trans hkind', equal_trans ha hb hc hequal hequal'⟩
  · intro hkind
    rw [← Bool.not_eq_true, strictEqual_iff]
    exact fun h => hkind h.1
  · rw [strictEqual_iff, equal_iff_alike ha.nodup hb.nodup]
  · exact equal_iff_alike ha.nodup hb.nodup

/-- Below the outermost level one is one of every kind, in fields of any order. -/
theorem ones_strictEqual :
    (map [("m", .null), ("n", .list [.int 1, .bool true])]).strictEqual
        (map [("n", .list [.bool true, .float (Binary64.ofRatio false 1 1)]), ("m", .null)]) =
      true ∧
    (map [("n", .list [.bool true, .float (Binary64.ofRatio false 1 1)]), ("m", .null)]).strictEqual
        (map [("n", .list [.float (Binary64.ofRatio false 1 1), .int 1]), ("m", .null)]) = true ∧
    (map [("m", .null), ("n", .list [.int 1, .bool true])]).strictEqual
        (map [("n", .list [.float (Binary64.ofRatio false 1 1), .int 1]), ("m", .null)]) =
      true := by
  have hnull : Value.null.KeysDistinct := keysDistinct_of_leaf rfl rfl
  have hbool : ∀ b, (Value.bool b).KeysDistinct := fun _ => keysDistinct_of_leaf rfl rfl
  have hint : ∀ n, (Value.int n).KeysDistinct := fun _ => keysDistinct_of_leaf rfl rfl
  have hfloat : ∀ x, (Value.float x).KeysDistinct := fun _ => keysDistinct_of_leaf rfl rfl
  have ha : (map [("m", .null), ("n", .list [.int 1, .bool true])]).KeysDistinct := by
    simp [keysDistinct_map, keysDistinct_list, hnull, hbool, hint]
  have hb : (map [("n", .list [.bool true, .float (Binary64.ofRatio false 1 1)]),
      ("m", .null)]).KeysDistinct := by
    simp [keysDistinct_map, keysDistinct_list, hnull, hbool, hfloat]
  have hc : (map [("n", .list [.float (Binary64.ofRatio false 1 1), .int 1]),
      ("m", .null)]).KeysDistinct := by
    simp [keysDistinct_map, keysDistinct_list, hnull, hint, hfloat]
  have hab : (map [("m", .null), ("n", .list [.int 1, .bool true])]).strictEqual
      (map [("n", .list [.bool true, .float (Binary64.ofRatio false 1 1)]), ("m", .null)]) =
        true := by decide +kernel
  have hbc : (map [("n", .list [.bool true, .float (Binary64.ofRatio false 1 1)]),
      ("m", .null)]).strictEqual
        (map [("n", .list [.float (Binary64.ofRatio false 1 1), .int 1]), ("m", .null)]) =
          true := by decide +kernel
  exact ⟨hab, hbc, (strictEqual_partial_equivalence ha hb hc).2.1 hab hbc⟩

/-- An integer that no double stands for is equal to none. -/
example : (list [.int (2 ^ 53 + 1)] : Value).strictEqual
    (list [.float (Binary64.ofRatio false (2 ^ 53 + 1) 1)]) = false := by decide +kernel

end Value

end EventSieve
