import EventSieve.Number.Numeral
import EventSieve.Number.Shortest
import EventSieve.Text.Quoted
import EventSieve.Value

/-!
# Text of values

A value is `written` with quotes around texts, brackets around lists and braces around
fields. A value that holds an integer of more than 4300 digits is not `isWritable`: every
attempt to write it fails.
-/

namespace EventSieve.Value

open Text

mutual

def written : Value WideText → List Char
  | null => "None".toList
  | bool b => (if b then "True" else "False").toList
  | int n => Decimal.integer n
  | float x => (Binary64.text x).toList
  | str s => quotedWide s
  | list items => '[' :: writtenItems items ++ [']']
  | map fields => '\x7b' :: writtenFields fields ++ ['\x7d']

def writtenItems : List (Value WideText) → List Char
  | [] => []
  | [v] => written v
  | v :: w :: rest => written v ++ ',' :: ' ' :: writtenItems (w :: rest)

def writtenFields : List (WideText × Value WideText) → List Char
  | [] => []
  | [(k, v)] => quotedWide k ++ ':' :: ' ' :: written v
  | (k, v) :: f :: rest =>
    quotedWide k ++ ':' :: ' ' :: written v ++ ',' :: ' ' :: writtenFields (f :: rest)

end

/-- The least magnitude of an integer that is too long to be written. -/
def longInteger : Nat := 10 ^ 4300

def unwritableMessage : String :=
  s!"Exceeds the limit ({Numeral.maxDigits} digits) for integer string conversion; " ++
    "use sys.set_int_max_str_digits() to increase the limit"

section Writable

variable {τ : Type}

mutual

/-- Whether a value can be written: no integer in it is too long. -/
def isWritable : Value τ → Bool
  | int n => n.natAbs < longInteger
  | list items => areWritable items
  | map fields => areWritableFields fields
  | _ => true

def areWritable : List (Value τ) → Bool
  | [] => true
  | v :: vs => isWritable v && areWritable vs

def areWritableFields : List (τ × Value τ) → Bool
  | [] => true
  | (_, v) :: fs => isWritable v && areWritableFields fs

end

theorem areWritable_eq_all (vs : List (Value τ)) : areWritable vs = vs.all isWritable := by
  induction vs with
  | nil => rfl
  | cons v vs ih => rw [areWritable, List.all_cons, ih]

theorem areWritableFields_eq_all (fs : List (τ × Value τ)) :
    areWritableFields fs = fs.all fun f => f.2.isWritable := by
  induction fs with
  | nil => rfl
  | cons f fs ih => rw [areWritableFields, List.all_cons, ih]

end Writable

end EventSieve.Value
