import EventSieve.Proofs.Value.Nesting
import Mathlib.Logic.Function.Basic

/-!
# Values with other texts

Texts and keys are replaced throughout a value, one replacement after the other or both at
once. So a replacement that keeps texts apart keeps values apart. In the value of a log line
the pairs of surrogates are joined, which leaves a value of characters as it is.
-/

namespace EventSieve.Value

open Text

section MapTexts

variable {ρ τ σ : Type}

theorem mapTexts_mapTexts (g : τ → σ) (f : ρ → τ) (v : Value ρ) :
    (v.mapTexts f).mapTexts g = v.mapTexts (g ∘ f) := by
  induction v using induction_children with
  | step v ih =>
      cases v with
      | null => rfl
      | bool b => rfl
      | int n => rfl
      | float x => rfl
      | str s => rfl
      | list items =>
          rw [mapTexts, mapTexts, mapTexts, mapItems_eq_map, mapItems_eq_map, mapItems_eq_map,
            List.map_map]
          congr 1
          exact List.map_congr_left ih
      | map fields =>
          rw [mapTexts, mapTexts, mapTexts, mapFields_eq_map, mapFields_eq_map, mapFields_eq_map,
            List.map_map]
          congr 1
          apply List.map_congr_left
          intro field hfield
          exact Prod.ext rfl (ih _ (List.mem_map_of_mem hfield))

theorem mapTexts_id (v : Value τ) : v.mapTexts id = v := by
  induction v using induction_children with
  | step v ih =>
      cases v with
      | null => rfl
      | bool b => rfl
      | int n => rfl
      | float x => rfl
      | str s => rfl
      | list items =>
          have hitems : ∀ v ∈ items, mapTexts id v = v := ih
          rw [mapTexts, mapItems_eq_map, List.map_congr_left hitems, List.map_id']
      | map fields =>
          have hfields : ∀ field ∈ fields, Prod.map id (mapTexts id) field = field := by
            intro field hfield
            exact Prod.ext rfl (ih _ (List.mem_map_of_mem hfield))
          rw [mapTexts, mapFields_eq_map, List.map_congr_left hfields, List.map_id']

theorem mapTexts_injective [Nonempty τ] {f : τ → σ} (hf : f.Injective) :
    (mapTexts f).Injective := by
  intro v w h
  have hinverse : Function.invFun f ∘ f = id := (Function.leftInverse_invFun hf).comp_eq_id
  rw [← mapTexts_id v, ← mapTexts_id w, ← hinverse, ← mapTexts_mapTexts, h, mapTexts_mapTexts]

end MapTexts

/-! ## Pairs of surrogates -/

/-- A value in whose texts and keys the two halves of a pair have become one character. -/
def joined (v : Value WideText) : Value WideText := v.mapTexts WideText.joined

def joinedField (field : WideText × Value WideText) : WideText × Value WideText :=
  (field.1.joined, field.2.joined)

theorem joined_list (items : List (Value WideText)) :
    joined (.list items) = .list (items.map joined) := by
  rw [joined, mapTexts, mapItems_eq_map]
  rfl

theorem joined_map (fields : Fields WideText) :
    joined (.map fields) = .map (fields.map joinedField) := by
  rw [joined, mapTexts, mapFields_eq_map]
  rfl

theorem joined_widen (v : Value) : v.widen.joined = v.widen := by
  rw [joined, widen, mapTexts_mapTexts]
  congr 1
  funext s
  exact WideText.joined_ofString s

theorem widen_injective : widen.Injective := by
  apply mapTexts_injective
  intro s t
  exact WideText.ofString_inj.mp

end EventSieve.Value
