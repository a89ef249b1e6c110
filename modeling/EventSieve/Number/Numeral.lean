import EventSieve.Text.Blank
import EventSieve.Text.Digit

/-!
# Whole numerals

`Numeral.read` reads a whole number in a base from two to thirty-six, or with base
zero in the base that the text itself announces by `0x`, `0o` or `0b`. Blanks may
stand around the number, one sign before it, and single underscores between its
digits. Digits of any script count as the ASCII digits they stand for. A numeral
whose base is not a power of two may have at most 4300 digits.
-/

namespace EventSieve

/-- Why a text is not a numeral. -/
inductive NumeralFault where
  | malformed
  | tooLong (digits : Nat)
deriving DecidableEq

namespace Numeral

open Text

def isAsciiBlank (c : Char) : Bool := c == ' ' || (9 ≤ c.toNat && c.toNat ≤ 13)

def digitValue? (c : Char) : Option Nat :=
  if '0' ≤ c ∧ c ≤ '9' then some (c.toNat - 48)
  else if 'a' ≤ c ∧ c ≤ 'z' then some (c.toNat - 87)
  else if 'A' ≤ c ∧ c ≤ 'Z' then some (c.toNat - 55)
  else none

def isDigitOf (base : Nat) (c : Char) : Bool :=
  match digitValue? c with
  | some d => d < base
  | none => false

def value (base : Nat) (digits : List Char) : Nat :=
  digits.foldl (fun n c => n * base + (digitValue? c).getD 0) 0

/-- A character as it is read in a number: blanks of any kind are spaces and digits of
any script ASCII digits, and what is neither stands for nothing. -/
def plainChar (c : Char) : Char :=
  if c.toNat < 127 then c
  else if isBlank c then ' '
  else
    match decimalValue? c with
    | some d => digitChar d
    | none => '?'

def plain (cs : List Char) : List Char :=
  if cs.all (·.toNat < 128) then cs else cs.map plainChar

/-- Underscores stand alone and between digits: no two in a row and none at either
end. -/
def underscoresBetween : List Char → Bool
  | [] => true
  | c :: cs => c != '_' && go c cs
where
  go (last : Char) : List Char → Bool
    | [] => last != '_'
    | c :: cs => !(last == '_' && c == '_') && go c cs

def takeSign : List Char → Bool × List Char
  | '-' :: cs => (true, cs)
  | '+' :: cs => (false, cs)
  | cs => (false, cs)

/-- The base that a letter after a zero announces. -/
def announcedBase? (c : Char) : Option Nat :=
  if c = 'x' ∨ c = 'X' then some 16
  else if c = 'o' ∨ c = 'O' then some 8
  else if c = 'b' ∨ c = 'B' then some 2
  else none

/-- What follows an announcement: one underscore may stand before the digits. -/
def afterAnnouncement : List Char → List Char
  | '_' :: cs => cs
  | cs => cs

/-- The base of an unsigned numeral, what stands after the announcement of it, and
whether only zero may be written so: with no announcement, a first zero is the
whole number. -/
def detectBase (base : Nat) (cs : List Char) : Nat × List Char × Bool :=
  match cs with
  | '0' :: c :: rest =>
    match announcedBase? c with
    | some b =>
      if base = 0 ∨ base = b then (b, afterAnnouncement rest, false) else (base, cs, false)
    | none => if base = 0 then (10, cs, true) else (base, cs, false)
  | '0' :: _ => if base = 0 then (10, cs, true) else (base, cs, false)
  | _ => (if base = 0 then 10 else base, cs, false)

/-- The most digits that a numeral may have whose base is not a power of two. -/
def maxDigits : Nat := 4300

def isBinaryBase (base : Nat) : Bool := base ∈ [2, 4, 8, 16, 32]

/-- The number that an unsigned numeral denotes. -/
def readUnsigned (base : Nat) (cs : List Char) : Except NumeralFault Nat :=
  let (base, cs, zeroOnly) := detectBase base cs
  let body := cs.takeWhile fun c => isDigitOf base c || c == '_'
  let rest := cs.drop body.length
  let digits := body.filter (· ≠ '_')
  if !underscoresBetween body then .error .malformed
  else if !isBinaryBase base ∧ maxDigits < digits.length then .error (.tooLong digits.length)
  else if digits.isEmpty then .error .malformed
  else if zeroOnly ∧ value base digits ≠ 0 then .error .malformed
  else if !rest.all isAsciiBlank then .error .malformed
  else .ok (value base digits)

def readPlain (base : Nat) (cs : List Char) : Except NumeralFault Int :=
  let (negative, cs) := takeSign (cs.dropWhile isAsciiBlank)
  (readUnsigned base cs).map fun n => if negative then -(n : Int) else n

def read (base : Nat) (s : String) : Except NumeralFault Int := readPlain base (plain s.toList)

end Numeral

end EventSieve
