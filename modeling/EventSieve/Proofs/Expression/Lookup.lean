import EventSieve.Expression.Evaluation
import EventSieve.Path

/-!
# Looking up items

A row of subscripts with texts, one after the other, follows a path into the event.
`eval_subscripts` says what such an expression evaluates to, and `follow_map` that
this is the value at the end of the path: a subscript fails exactly where the path
ends too early, because no value but a map has an item under a text.
-/

namespace EventSieve.Expression

open Evaluation Text

/-! ## Evaluations without applications -/

namespace Evaluation

theorem ofResult_error_bind {α β : Type} (failure : Failure) (f : α → Evaluation β) :
    ofResult (.error failure) >>= f = ofResult (.error failure) := rfl

theorem ofResult_ok_bind {α β : Type} (a : α) (f : α → Evaluation β) :
    ofResult (.ok a) >>= f = f a := rfl

theorem ofResult_bind {α β : Type} (a : Except Failure α) (f : α → Except Failure β) :
    (do let x ← ofResult a; ofResult (f x)) = (ofResult (a >>= f) : Evaluation β) := by
  cases a with
  | error failure => exact ofResult_error_bind failure _
  | ok x => exact ofResult_ok_bind x _

end Evaluation

theorem evaluate_of_eval {e : Expr} {m : Memory} {event : Event} {o : Except Failure Operand}
    (h : e.eval m event [] = ofResult o) : e.evaluate m event = o := by
  rw [Expr.evaluate, h]
  rfl

variable {m : Memory} {event : Event}

theorem eval_constant_str (node : List Nat) {s : WideText} (hs : s.length ≤ Operand.maxLength) :
    (Expr.constant (.str s)).eval m event node = ofResult (.ok (Operand.ofText s)) := by
  rw [Expr.eval, Constant.operand?, if_neg (Nat.not_lt.mpr hs)]
  rfl

/-! ## Rows of subscripts -/

def Expr.subscripts (object : Expr) (path : List WideText) : Expr :=
  path.foldl (fun e key => .subscript e (.constant (.str key))) object

/-- The operand that subscripts with texts lead to. -/
def Operand.follow (o : Operand) : List WideText → Except Failure Operand
  | [] => .ok o
  | key :: path => do (← o.item (.ofText key)).follow path

theorem eval_subscript {node : List Nat} {object : Expr} {o : Except Failure Operand}
    {key : WideText} (hobject : object.eval m event (0 :: node) = ofResult o)
    (hkey : key.length ≤ Operand.maxLength) :
    (Expr.subscript object (.constant (.str key))).eval m event node =
      ofResult (do (← o).item (.ofText key)) := by
  rw [Expr.eval, hobject, eval_constant_str _ hkey, ← ofResult_bind]
  · rfl
  · intro lower upper step h
    cases h

theorem eval_subscripts {node : List Nat} {object : Expr} {o : Except Failure Operand}
    {path : List WideText} (hobject : ∀ node, object.eval m event node = ofResult o)
    (hpath : ∀ key ∈ path, key.length ≤ Operand.maxLength) :
    (object.subscripts path).eval m event node = ofResult (do (← o).follow path) := by
  induction path generalizing object o with
  | nil =>
      rw [Expr.subscripts, List.foldl_nil, hobject]
      cases o <;> rfl
  | cons key path ih =>
      have hkey : ∀ node, (Expr.subscript object (.constant (.str key))).eval m event node =
          ofResult (do (← o).item (.ofText key)) :=
        fun node => eval_subscript (hobject (0 :: node)) (hpath key List.mem_cons_self)
      have hrest := ih hkey fun k hk => hpath k (List.mem_cons_of_mem key hk)
      rw [Expr.subscripts, List.foldl_cons, ← Expr.subscripts, hrest, bind_assoc]
      rfl

/-! ## Following a path -/

namespace Operand

theorem findIdx?_of_get? {fields : Fields WideText} {key : WideText} {v : Value WideText}
    (h : fields.get? key = some v) : ∃ i, fields.findIdx? (·.1 == key) = some i := by
  induction fields with
  | nil => cases h
  | cons field fields ih =>
      obtain ⟨k, w⟩ := field
      rw [Fields.get?_cons] at h
      by_cases hk : k = key
      · exact ⟨0, by simp [List.findIdx?_cons, hk]⟩
      · rw [if_neg hk] at h
        obtain ⟨i, hi⟩ := ih h
        exact ⟨i + 1, by simp [List.findIdx?_cons, hk, hi]⟩

theorem item?_map (fields : Fields WideText) (origin : Origin) (key : WideText) :
    ∃ found, item? (.value (.map fields) origin) (.ofText key) =
      (fields.get? key).map fun v => .value v found := by
  cases hget : fields.get? key with
  | none =>
      refine ⟨.fresh, ?_⟩
      simp [item?, ofText, new, hget]
  | some v =>
      obtain ⟨i, hi⟩ := findIdx?_of_get? hget
      refine ⟨origin.field key i, ?_⟩
      simp [item?, ofText, new, hget, hi]

theorem item_map_of_get? {fields : Fields WideText} {key : WideText} {v : Value WideText}
    (h : fields.get? key = some v) (origin : Origin) :
    ∃ found, item (.value (.map fields) origin) (.ofText key) = .ok (.value v found) := by
  obtain ⟨found, hfound⟩ := item?_map fields origin key
  exact ⟨found, by rw [item, hfound, h, Option.map_some]⟩

theorem item_map_of_missing {fields : Fields WideText} {key : WideText}
    (h : fields.get? key = none) (origin : Origin) :
    item (.value (.map fields) origin) (.ofText key) = .error (.missingKey (.ofText key)) := by
  obtain ⟨found, hfound⟩ := item?_map fields origin key
  rw [item, hfound, h]
  rfl

theorem item_of_not_map {v : Value} (h : ∀ fields, v ≠ .map fields) (origin : Origin)
    (key : WideText) : item (.value v.widen origin) (.ofText key) = .error .other := by
  cases v with
  | map fields => exact absurd rfl (h fields)
  | null => rfl
  | bool b => rfl
  | int n => rfl
  | float x => rfl
  | str s => rfl
  | list items => rfl

end Operand

/-- A failure that is about no key, or about a text. -/
def Failure.NamesText : Failure → Prop
  | .missingKey key => ∃ s, key = .ofText s
  | .other => True

namespace Operand

/-- Subscripts from a map on lead to the value at the end of the path. -/
theorem follow_map (fields : Fields) (origin : Origin) {path : List String} (hpath : path ≠ []) :
    ∃ found failure, failure.NamesText ∧
      follow (.value (.map (Value.widenFields fields)) origin) (path.map .ofString) =
      match Path.find? fields path with
      | some v => .ok (.value v.widen found)
      | none => .error failure := by
  induction path generalizing fields origin with
  | nil => exact absurd rfl hpath
  | cons key path ih =>
      have hwide := Value.get?_widenFields fields key
      rw [List.map_cons]
      cases hget : fields.get? key with
      | none =>
          rw [hget, Option.map_none] at hwide
          refine ⟨.fresh, .missingKey (.ofText (.ofString key)), ⟨_, rfl⟩, ?_⟩
          rw [follow, item_map_of_missing hwide]
          cases path with
          | nil =>
              rw [Path.find?_singleton, hget]
              rfl
          | cons next rest =>
              rw [Path.find?_cons_cons, hget]
              rfl
      | some v =>
          rw [hget, Option.map_some] at hwide
          obtain ⟨place, hplace⟩ := item_map_of_get? hwide origin
          rw [follow, hplace]
          cases path with
          | nil =>
              refine ⟨place, .other, trivial, ?_⟩
              rw [Path.find?_singleton, hget]
              rfl
          | cons next rest =>
              by_cases hv : ∃ inner, v = .map inner
              · obtain ⟨inner, rfl⟩ := hv
                rw [Path.find?_cons_cons, hget]
                exact ih inner place (by simp)
              · have hmap : ∀ inner, v ≠ .map inner := fun inner h => hv ⟨inner, h⟩
                refine ⟨.fresh, .other, trivial, ?_⟩
                rw [Path.find?_cons_cons_of_not_map hget hmap]
                show (do
                  let o ← item (.value v.widen place) (.ofText (.ofString next))
                  o.follow (rest.map .ofString)) = _
                rw [item_of_not_map hmap]
                rfl

end Operand

end EventSieve.Expression
