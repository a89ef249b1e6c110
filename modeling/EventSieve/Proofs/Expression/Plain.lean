import EventSieve.Expression.Evaluation
import Mathlib.Tactic.Common

/-!
# Operands that are shown without an address

An address is part of how an operand is shown only if the operand is a method, a member of
a kind, or one of the two functions without a name of their own. All other operands are
`isPlain`. Operators, items, slices and the functions make plain operands only, so that an
expression comes to another operand only through an attribute or a name.
-/

namespace EventSieve.Expression

open Text

namespace Operand

/-- An operand that is shown without an address. -/
def isPlain : Operand → Bool
  | method _ _ _ | member _ _ _ => false
  | function .lower | function .upper => false
  | alternatives types => types.all fun t => t.all Function.isType
  | _ => true

@[simp] theorem isPlain_value (v : Value WideText) (o : Origin) : (value v o).isPlain = true := rfl

@[simp] theorem isPlain_new (v : Value WideText) : (new v).isPlain = true := rfl

@[simp] theorem isPlain_ofInt (n : Int) : (ofInt n).isPlain = true := rfl

@[simp] theorem isPlain_ofFloat (x : Float) : (ofFloat x).isPlain = true := rfl

@[simp] theorem isPlain_ofBool (b : Bool) : (ofBool b).isPlain = true := rfl

@[simp] theorem isPlain_ofText (s : WideText) : (ofText s).isPlain = true := rfl

@[simp] theorem isPlain_bytes (b : List UInt8) : (bytes b).isPlain = true := rfl

@[simp] theorem isPlain_complex (z : Complex) : (complex z).isPlain = true := rfl

@[simp] theorem isPlain_ellipsis : ellipsis.isPlain = true := rfl

def Plain? (o : Option Operand) : Prop := ∀ c, o = some c → c.isPlain = true

@[simp] theorem plain?_none : Plain? none := nofun

@[simp] theorem plain?_some {c : Operand} : Plain? (some c) ↔ c.isPlain = true := by
  simp [Plain?]

theorem plain?_bind {α : Type} {x : Option α} {f : α → Option Operand}
    (h : ∀ a, x = some a → Plain? (f a)) : Plain? (x >>= f) := by
  cases x with
  | none => exact plain?_none
  | some a => exact h a rfl

theorem plain?_map {α : Type} {x : Option α} {f : α → Operand}
    (h : ∀ a, (f a).isPlain = true) : Plain? (x.map f) := by
  cases x with
  | none => exact plain?_none
  | some a => exact plain?_some.mpr (h a)

/-! ## Operators -/

section Operators

variable (a b : Operand)

theorem plain?_unary? (op : UnaryOp) : Plain? (unary? op a) := by
  cases op with
  | plus =>
      rw [unary?]
      unfold plus?
      split <;> simp
  | minus =>
      rw [unary?]
      unfold minus?
      split <;> simp
  | invert => exact plain?_map fun _ => rfl
  | negation => exact plain?_some.mpr rfl

section Numbers

variable {ints : Int → Int → Option Operand} {floats : Float → Float → Option Operand}
  {complexes : Complex → Complex → Option Operand}

theorem plain?_combine? (hints : ∀ m n, Plain? (ints m n)) (hfloats : ∀ x y, Plain? (floats x y))
    (hcomplexes : ∀ z w, Plain? (complexes z w)) (x y : Number) :
    Plain? (Number.combine? ints floats complexes x y) := by
  unfold Number.combine?
  split
  · exact hints _ _
  · exact plain?_bind fun _ _ => plain?_bind fun _ _ => hcomplexes _ _
  · exact plain?_bind fun _ _ => plain?_bind fun _ _ => hcomplexes _ _
  · exact plain?_bind fun _ _ => plain?_bind fun _ _ => hfloats _ _

theorem plain?_combineNumbers? (hints : ∀ m n, Plain? (ints m n))
    (hfloats : ∀ x y, Plain? (floats x y)) (hcomplexes : ∀ z w, Plain? (complexes z w)) :
    Plain? (combineNumbers? ints floats complexes a b) :=
  plain?_bind fun _ _ => plain?_bind fun _ _ => plain?_combine? hints hfloats hcomplexes _ _

end Numbers

theorem plain?_join? : Plain? (join? a b) := by
  unfold join?
  split
  · split
    · simp
    · split <;> simp
  · simp
  · simp
  · simp

theorem plain?_add? : Plain? (add? a b) := by
  unfold add?
  split
  · split
    · simp
    · exact plain?_join? a b
  · exact plain?_combineNumbers? a b (by simp) (by simp) (by simp)

theorem plain?_sub? : Plain? (sub? a b) :=
  plain?_combineNumbers? a b (by simp) (by simp) (by simp)

theorem plain?_repeat? (count : Nat) : Plain? (repeat? a count) := by
  unfold repeat?
  split
  · split <;> simp
  · simp
  · simp
  · simp

theorem plain?_repeatChecked? (length : Nat) : Plain? (repeatChecked? a b length) := by
  unfold repeatChecked?
  split
  · split
    · simp
    · exact plain?_repeat? a _
  · simp

theorem plain?_mul? : Plain? (mul? a b) := by
  unfold mul?
  split
  · simp
  · exact plain?_repeatChecked? a b _
  · exact plain?_repeatChecked? b a _
  · exact plain?_combineNumbers? a b (by simp) (by simp) (by simp)

theorem plain?_div? : Plain? (div? a b) := by
  refine plain?_combineNumbers? a b (fun m n => ?_) (fun x y => ?_)
    fun z w => plain?_map fun _ => rfl
  · split
    · simp
    · exact plain?_map fun _ => rfl
  · split <;> simp

theorem plain?_floorDiv? : Plain? (floorDiv? a b) := by
  refine plain?_combineNumbers? a b (fun m n => ?_) (fun x y => ?_) (by simp)
  · split <;> simp
  · split <;> simp

theorem plain?_mod? : Plain? (mod? a b) := by
  refine plain?_combineNumbers? a b (fun m n => ?_) (fun x y => ?_) (by simp)
  · split <;> simp
  · split <;> simp

theorem plain?_floatPow? (x y : Float) : Plain? (floatPow? x y) := by
  simp only [floatPow?]
  repeat' split
  all_goals first
    | exact plain?_none
    | exact plain?_some.mpr rfl
    | exact plain?_map fun _ => rfl

theorem plain?_intPow? (m n : Int) : Plain? (intPow? m n) := by
  unfold intPow?
  split
  · simp
  · exact plain?_bind fun _ _ => plain?_bind fun _ _ => plain?_floatPow? _ _

theorem plain?_pow? : Plain? (pow? a b) := by
  refine plain?_bind fun x _ => plain?_bind fun y _ => ?_
  split
  · simp
  · exact plain?_combine? plain?_intPow? plain?_floatPow? (fun _ _ => plain?_map fun _ => rfl) x y

theorem plain?_shift? (move : Int → Nat → Int) : Plain? (shift? move a b) := by
  refine plain?_bind fun m _ => plain?_bind fun n _ => ?_
  split <;> simp

theorem plain?_bits? (op : Int → Int → Int) : Plain? (bits? op a b) := by
  unfold bits?
  split
  · exact plain?_bind fun _ _ => plain?_bind fun _ _ => by simp
  · exact plain?_bind fun _ _ => plain?_bind fun _ _ => by simp

/-- What a plain operand offers to a choice has a name of its own. -/
theorem isType_of_mem_types? {a : Operand} (ha : a.isPlain = true) {types : List (Option Function)}
    (h : a.types? = some types) : types.all fun t => t.all Function.isType := by
  cases a with
  | function f =>
      rw [types?] at h
      split at h
      · next hf =>
        cases h
        simp [hf]
      · cases h
  | value v o =>
      cases v with
      | null =>
          cases h
          rfl
      | _ => cases h
  | alternatives choice =>
      cases h
      exact ha
  | _ => cases h

theorem isPlain_of_isType {f : Function} (h : f.isType = true) : (function f).isPlain = true := by
  cases f with
  | lower => cases h
  | upper => cases h
  | _ => rfl

variable {a b} (ha : a.isPlain = true) (hb : b.isPlain = true)

include ha hb

theorem plain?_unite? : Plain? (unite? a b) := by
  unfold unite?
  split
  · exact plain?_none
  · refine plain?_bind fun ts hts => plain?_bind fun us hus => ?_
    have hall : (ts ++ us).eraseDups.all fun t => t.all Function.isType := by
      rw [List.all_eq_true]
      intro t ht
      have hts := List.all_eq_true.mp (isType_of_mem_types? ha hts)
      have hus := List.all_eq_true.mp (isType_of_mem_types? hb hus)
      exact (List.mem_append.mp (List.mem_eraseDups.mp ht)).elim (hts t) (hus t)
    dsimp only
    split
    · next f hf =>
      rw [hf] at hall
      exact plain?_some.mpr (isPlain_of_isType (by simpa using hall))
    · exact plain?_some.mpr hall

theorem plain?_bitOr? : Plain? (bitOr? a b) := by
  unfold bitOr?
  split
  · exact plain?_some.mpr rfl
  · split
    · next c hc => exact plain?_some.mpr (plain?_bits? a b _ c hc)
    · exact plain?_unite? ha hb

end Operators

/-! ## Items -/

theorem plain?_item? (container index : Operand) : Plain? (item? container index) := by
  unfold item?
  split
  · split
    · split <;> simp
    · simp
  · exact plain?_bind fun _ _ => plain?_bind fun _ _ => plain?_bind fun _ _ => by simp
  · exact plain?_bind fun _ _ => plain?_bind fun _ _ => plain?_bind fun _ _ => by simp
  · exact plain?_bind fun _ _ => plain?_bind fun _ _ => plain?_bind fun _ _ => by simp
  · simp

theorem isPlain_of_item {container index o : Operand} (h : container.item index = .ok o) :
    o.isPlain = true := by
  unfold item at h
  split at h
  · next found hfound =>
    cases h
    exact plain?_item? container index o hfound
  · split at h <;> cases h

theorem plain?_slice? (container lower upper step : Operand) :
    Plain? (slice? container lower upper step) := by
  refine plain?_bind fun _ _ => plain?_bind fun _ _ => plain?_bind fun _ _ =>
    plain?_bind fun _ _ => ?_
  split
  · simp
  · split
    · dsimp only
      split <;> simp
    · simp
    · simp
    · simp

/-! ## Functions and formats -/

theorem plain?_toText? (m : Memory) (o : Operand) : Plain? (toText? m o) := by
  unfold toText?
  split
  · simp
  · exact plain?_map fun _ => rfl

theorem plain?_decoded? (o : Operand) (encoding errors : Option String) :
    Plain? (decoded? o encoding errors) := by
  unfold decoded?
  split
  · simp
  · exact plain?_bind fun _ _ => plain?_bind fun _ _ => by simp
  · simp

theorem plain?_readInteger? (base : Nat) (cs : List Char) : Plain? (readInteger? base cs) := by
  unfold readInteger?
  split <;> simp

theorem plain?_toInteger? (o : Operand) : Plain? (toInteger? o) := by
  unfold toInteger?
  split
  · simp
  · simp
  · exact plain?_map fun _ => rfl
  · exact plain?_readInteger? _ _
  · exact plain?_readInteger? _ _
  · simp

theorem plain?_toIntegerIn? (o base : Operand) : Plain? (toIntegerIn? o base) := by
  refine plain?_bind fun _ _ => ?_
  split
  · simp
  · split
    · exact plain?_readInteger? _ _
    · exact plain?_readInteger? _ _
    · simp

theorem plain?_toDouble? (o : Operand) : Plain? (toDouble? o) := by
  unfold toDouble?
  split
  · simp
  · exact plain?_map fun _ => rfl
  · simp
  · exact plain?_map fun _ => rfl
  · exact plain?_map fun _ => rfl
  · simp

theorem plain?_changeCase? (chars : List Char → List Char) (byte : UInt8 → UInt8) (o : Operand) :
    Plain? (changeCase? chars byte o) := by
  unfold changeCase?
  split <;> simp

theorem plain?_result? (m : Memory) (f : Function) (a : Arguments) :
    Plain? (f.result? m a) := by
  cases f with
  | str =>
      refine plain?_bind fun assigned _ => ?_
      split
      · refine plain?_bind fun _ _ => plain?_bind fun _ _ => ?_
        split
        · simp
        · split
          · exact plain?_toText? m _
          · exact plain?_decoded? _ _ _
      · simp
  | int =>
      show Plain? (Function.applyInt? a)
      unfold Function.applyInt?
      split
      · simp
      · split
        · simp
        · exact plain?_toInteger? _
        · exact plain?_toIntegerIn? _ _
        · exact plain?_toIntegerIn? _ _
        · simp
  | float =>
      show Plain? (Function.applyFloat? a)
      unfold Function.applyFloat?
      split
      · simp
      · exact plain?_toDouble? _
      · simp
  | len => exact plain?_bind fun _ _ => plain?_bind fun _ _ => by simp
  | lower =>
      refine plain?_bind fun _ _ => ?_
      split
      · exact plain?_changeCase? _ _ _
      · simp
  | upper =>
      refine plain?_bind fun _ _ => ?_
      split
      · exact plain?_changeCase? _ _ _
      · simp

theorem plain?_formatted? (m : Memory) (o spec : Operand) : Plain? (formatted? m o spec) := by
  refine plain?_bind fun _ _ => plain?_bind fun _ _ => ?_
  split
  · split <;> simp
  · simp

theorem plain?_piece? (m : Memory) (o : Operand) : Plain? (piece? m o) := by
  refine plain?_bind fun t ht => plain?_bind fun _ _ => ?_
  split
  · simp
  · exact plain?_some.mpr (plain?_toText? m o t ht)

theorem isPlain_joinPieces {pieces : List Operand} (h : ∀ o ∈ pieces, o.isPlain = true) :
    (joinPieces pieces).isPlain = true := by
  unfold joinPieces
  split
  · next piece => exact h piece (List.mem_singleton.mpr rfl)
  · rfl

theorem plain?_operand? (c : Constant) : Plain? c.operand? := by
  cases c with
  | str s =>
      rw [Constant.operand?]
      split <;> simp
  | bytes b =>
      rw [Constant.operand?]
      split <;> simp
  | _ => exact plain?_some.mpr rfl

end Operand

end EventSieve.Expression
