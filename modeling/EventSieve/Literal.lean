import EventSieve.Number.Reading
import EventSieve.Problem
import EventSieve.Text.Quoted

/-!
# Literals

The form of a literal decides its kind: text between double quotes is a text, a
token with a point is a double, and everything else is an integer of 32 bits in
decimal or in the base that it announces. A zero before octal digits announces
base eight without a letter. `Literal.read` gives the value or the fault.
-/

namespace EventSieve

/-- Why a token is not a literal. -/
inductive LiteralFault where
  | empty
  | notDouble
  | notInteger (base : Nat) (numeral : String) (fault : NumeralFault)
  | outOfRange
deriving DecidableEq

namespace Literal

open Numeral

def least : Int := -(2 ^ 31)

def greatest : Int := 2 ^ 31 - 1

def unquote? : List Char → Option (List Char)
  | '"' :: cs => if cs.getLast? = some '"' then some cs.dropLast else none
  | _ => none

def isOctalChar (c : Char) : Bool := ('0' ≤ c && c ≤ '7') || c == '_'

/-- The text without one line break at its end. -/
def dropFinalBreak (cs : List Char) : List Char :=
  if cs.getLast? = some '\n' then cs.dropLast else cs

/-- The octal digits after a zero that announces them. A line break may end them. -/
def afterZero? (cs : List Char) : Option (List Char) :=
  match dropFinalBreak cs with
  | '0' :: digits => if digits.isEmpty ∨ !digits.all isOctalChar then none else some digits
  | _ => none

/-- The octal numeral that a zero alone announces, with the sign before the zero. -/
def zeroOctal? : List Char → Option (List Char)
  | '+' :: cs => (afterZero? cs).map ('+' :: ·)
  | '-' :: cs => (afterZero? cs).map ('-' :: ·)
  | cs => afterZero? cs

/-- The base of an integer literal and the numeral that is read in it. -/
def numeral (token : String) : Nat × String :=
  match zeroOctal? token.toList with
  | some digits => (8, String.ofList digits)
  | none => (0, token)

def readInBase (base : Nat) (text : String) : Except LiteralFault Int :=
  match read base text with
  | .error fault => .error (.notInteger base text fault)
  | .ok n => if least ≤ n ∧ n ≤ greatest then .ok n else .error .outOfRange

def readInteger (token : String) : Except LiteralFault Int :=
  readInBase (numeral token).1 (numeral token).2

def read (token : String) : Except LiteralFault Value :=
  if token.isEmpty then .error .empty
  else
    match unquote? token.toList with
    | some cs => .ok (.str (String.ofList cs))
    | none =>
      if '.' ∈ token.toList then
        match Decimal.read? token with
        | some x => .ok (.float x)
        | none => .error .notDouble
      else (readInteger token).map .int

end Literal

namespace LiteralFault

/-- What is wrong with a numeral, of which no more than the start is shown. -/
def numeralReason (base : Nat) (shown : List Char) : NumeralFault → String
  | .malformed =>
    s!"invalid literal for int() with base {base}: {String.ofList (shown.take 200)}"
  | .tooLong count =>
    s!"Exceeds the limit ({Numeral.maxDigits} digits) for integer string conversion: " ++
      s!"value has {count} digits; use sys.set_int_max_str_digits() to increase the limit"

def problem (token : String) : LiteralFault → Problem
  | empty => .literal "Empty literal" (some [("token", .str token)])
  | notDouble =>
    let reason := s!"could not convert string to float: {Text.quoted token}"
    .literal s!"{token} could not convert to float"
      (some [("token", .str token), ("error", .str reason)])
  | notInteger base numeral fault =>
    let reason := numeralReason base (Text.quoted numeral).toList fault
    .literal s!"{token} could not convert to int"
      (some [("token", .str token), ("error", .str reason)])
  | outOfRange =>
    .literal s!"{token} is out of 32-bit integer range" (some [("token", .str token)])

theorem family_problem (fault : LiteralFault) (token : String) :
    (fault.problem token).family = .literal := by
  cases fault with
  | empty => rfl
  | notDouble => rfl
  | notInteger base numeral fault => rfl
  | outOfRange => rfl

end LiteralFault

end EventSieve
