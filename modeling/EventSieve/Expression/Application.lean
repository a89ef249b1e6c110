import EventSieve.Expression.Arithmetic
import EventSieve.Number.Reading
import EventSieve.Text.Case
import EventSieve.Text.Decoding

/-!
# Applying the functions

The six functions that an expression may call, with their positional and keyword
arguments: the text of an operand, the integer or the double that it denotes, its
length, and texts in lower or upper case. An application that has no result fails.
-/

namespace EventSieve.Expression

open Text

/-- The arguments of a call: by position, and by keyword, each keyword once. -/
structure Arguments where
  positional : List Operand
  keywords : List (String × Operand)

namespace Arguments

def keyword? (a : Arguments) (name : String) : Option Operand := a.keywords.lookup name

def usesOnly (a : Arguments) (names : List String) : Bool := a.keywords.all (names.contains ·.1)

/-- The arguments with names, each by position or by keyword; none if there are more
arguments than names, if a keyword is no name, or if an argument comes twice. -/
def assign? (a : Arguments) (names : List String) : Option (List (Option Operand)) :=
  let count := a.positional.length
  if names.length < count ∨ !a.usesOnly (names.drop count) then none
  else some (a.positional.map some ++ (names.drop count).map a.keyword?)

def single? (a : Arguments) : Option Operand :=
  match a.positional, a.keywords with
  | [o], [] => some o
  | _, _ => none

end Arguments

namespace Operand

def latinChars (b : List UInt8) : List Char := b.map fun b => Char.ofNat b.toNat

def asText? : Operand → Option WideText
  | value (.str s) _ => some s
  | _ => none

def toText? (m : Memory) (o : Operand) : Option Operand :=
  match o with
  | value (.str s) origin => some (value (.str s) origin)
  | o => (o.text? m).map fun s => value (.str s) .unshared

def decoded? (o : Operand) (encoding errors : Option String) : Option Operand :=
  match o with
  | bytes [] => some (ofText [])
  | bytes b => do
    let encoding ← Text.Encoding.named? (encoding.getD "utf-8")
    some (ofText (← Text.decode? encoding (.named (errors.getD "strict")) b))
  | _ => none

/-- A name that may be left out; where it is given it has to be a text without nulls and
surrogates. -/
def name? (o : Option Operand) : Option (Option String) :=
  match o with
  | none => some none
  | some o =>
    match o.asText?.bind WideText.string? with
    | some s => if s.toList.contains '\x00' then none else some (some s)
    | none => none

def readInteger? (base : Nat) (cs : List Char) : Option Operand :=
  match Numeral.readPlain base cs with
  | .ok n => some (ofInt n)
  | .error _ => none

/-- The integer that an operand denotes: a number is cut off at the point. -/
def toInteger? (o : Operand) : Option Operand :=
  match o with
  | value (.int n) origin => some (value (.int n) origin)
  | value (.bool b) _ => some (ofInt (if b then 1 else 0))
  | value (.float x) _ => (Binary64.toInt? x).map ofInt
  | value (.str s) _ => readInteger? 10 (Numeral.plain (WideText.shadow s))
  | bytes b => readInteger? 10 (latinChars b)
  | _ => none

def toIntegerIn? (o base : Operand) : Option Operand := do
  let base ← base.int?
  if (base < 2 ∧ base ≠ 0) ∨ 36 < base then none
  else
    match o with
    | value (.str s) _ => readInteger? base.toNat (Numeral.plain (WideText.shadow s))
    | bytes b => readInteger? base.toNat (latinChars b)
    | _ => none

def toDouble? (o : Operand) : Option Operand :=
  match o with
  | value (.float x) origin => some (value (.float x) origin)
  | value (.int n) _ => (Binary64.ofInt? n).map ofFloat
  | value (.bool b) _ => some (ofFloat (if b then 1 else 0))
  | value (.str s) _ => (Decimal.read? (String.ofList (WideText.shadow s))).map ofFloat
  | bytes b => (Decimal.readPlain? (latinChars b)).map ofFloat
  | _ => none

def changeCase? (chars : List Char → List Char) (byte : UInt8 → UInt8) (o : Operand) :
    Option Operand :=
  match o with
  | value (.str s) _ =>
    let changed := WideText.mapRows chars [] s
    some (value (.str changed) (if changed.isEmpty then .fresh else .unshared))
  | bytes b => some (bytes (b.map byte))
  | _ => none

end Operand

namespace Function

open Operand

def lowerByte (b : UInt8) : UInt8 := if 65 ≤ b ∧ b ≤ 90 then b + 32 else b

def upperByte (b : UInt8) : UInt8 := if 97 ≤ b ∧ b ≤ 122 then b - 32 else b

/-- The text of an operand, or of a byte string in an encoding. -/
def applyStr? (m : Memory) (a : Arguments) : Option Operand := do
  match ← a.assign? ["object", "encoding", "errors"] with
  | [object, encoding, errors] =>
    let encoding ← name? encoding
    let errors ← name? errors
    match object with
    | none => some (ofText [])
    | some o =>
      if encoding.isNone ∧ errors.isNone then o.toText? m else o.decoded? encoding errors
  | _ => none

def applyInt? (a : Arguments) : Option Operand :=
  if !a.usesOnly ["base"] then none
  else
    match a.positional, a.keyword? "base" with
    | [], none => some (ofInt 0)
    | [o], none => o.toInteger?
    | [o], some base | [o, base], none => o.toIntegerIn? base
    | _, _ => none

def applyFloat? (a : Arguments) : Option Operand :=
  match a.positional, a.keywords with
  | [], [] => some (ofFloat 0)
  | [o], [] => o.toDouble?
  | _, _ => none

/-- The result of a function on arguments. -/
def result? (m : Memory) (f : Function) (a : Arguments) : Option Operand :=
  match f with
  | str => applyStr? m a
  | int => applyInt? a
  | float => applyFloat? a
  | len => do some (ofInt (← (← a.single?).length?))
  | lower => do
    match ← a.assign? ["s"] with
    | [some o] => changeCase? Text.lowerChars lowerByte o
    | _ => none
  | upper => do
    match ← a.assign? ["s"] with
    | [some o] => changeCase? Text.upperChars upperByte o
    | _ => none

end Function

end EventSieve.Expression
