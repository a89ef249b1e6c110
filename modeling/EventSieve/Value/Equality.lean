import EventSieve.Number.Binary64
import EventSieve.Value

/-!
# Equality of values

Two equalities. `equal` compares numbers by their exact value, whatever their kind,
with `true` as one and `false` as zero; texts by their characters; lists item by
item; and fields by their keys, in any order. `strictEqual` asks besides that both
values are of the same kind on the outside.
-/

namespace EventSieve

inductive ValueKind where
  | null | bool | int | float | str | list | map
deriving DecidableEq

namespace Value

variable {τ : Type}

def kind : Value τ → ValueKind
  | null => .null
  | bool _ => .bool
  | int _ => .int
  | float _ => .float
  | str _ => .str
  | list _ => .list
  | map _ => .map

def number? : Value τ → Option Exact
  | bool b => some (.ofInt (if b then 1 else 0))
  | int n => some (.ofInt n)
  | float x => some (Binary64.exact x)
  | _ => none

def numbersEqual (v w : Value τ) : Bool :=
  match v.number?, w.number? with
  | some x, some y => x.equal y
  | _, _ => false

variable [DecidableEq τ]

mutual

/-- Equality of values, in which numbers of all kinds are compared by what they are. -/
def equal : Value τ → Value τ → Bool
  | null, w =>
    match w with
    | null => true
    | _ => false
  | str s, w =>
    match w with
    | str t => s == t
    | _ => false
  | list xs, w =>
    match w with
    | list ys => equalItems xs ys
    | _ => false
  | map fs, w =>
    match w with
    | map gs => fs.length == gs.length && equalFields fs gs
    | _ => false
  | bool b, w => numbersEqual (bool b) w
  | int n, w => numbersEqual (int n) w
  | float x, w => numbersEqual (float x) w

def equalItems : List (Value τ) → List (Value τ) → Bool
  | [], ys => ys.isEmpty
  | x :: xs, ys =>
    match ys with
    | [] => false
    | y :: ys => equal x y && equalItems xs ys

def equalFields : List (τ × Value τ) → Fields τ → Bool
  | [], _ => true
  | (k, v) :: fs, gs =>
    (match gs.get? k with
     | some w => equal v w
     | none => false) && equalFields fs gs

end

/-- Equality by kind and value: one, `1.0`, `true` and `"1"` are four values. -/
def strictEqual (actual expected : Value τ) : Bool :=
  actual.kind == expected.kind && equal actual expected

end Value

end EventSieve
