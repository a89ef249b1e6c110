import EventSieve.Expression.Tree
import EventSieve.Number.Reading
import EventSieve.Text.Identifier

/-!
# Numbers in expressions

`scanNumber?` takes a number off the front of a text: a whole number in decimal or,
after `0x`, `0o` or `0b`, in another base; or a number with a fraction or an
exponent, which is a double; a `j` at the end makes it imaginary. Single
underscores may stand between digits. Other than by a keyword that may follow an
operand, no number is followed by a letter.
-/

namespace EventSieve.Expression

open Text Numeral

/-- A character of a word: an ASCII letter or digit, an underscore, or any character
beyond ASCII. -/
def isWordChar (c : Char) : Bool :=
  isAsciiLetter c || isAsciiDigit c || c == '_' || 128 ≤ c.toNat

def endsNumber : List Char → Bool
  | 'a' :: 'n' :: 'd' :: _ => true
  | 'e' :: 'l' :: 's' :: 'e' :: _ => true
  | 'f' :: 'o' :: 'r' :: _ => true
  | 'i' :: 'f' :: _ | 'i' :: 'n' :: _ | 'i' :: 's' :: _ => true
  | 'o' :: 'r' :: _ => true
  | 'n' :: 'o' :: 't' :: _ => true
  | c :: _ => !isWordChar c
  | [] => true

/-- The digits at the front of a text, with underscores between them, and the rest. -/
def takeDigits (isDigit : Char → Bool) (cs : List Char) : Option (List Char × List Char) :=
  let body := cs.takeWhile fun c => isDigit c || c == '_'
  if underscoresBetween body then some (body.filter (· ≠ '_'), cs.drop body.length) else none

def takeDecimals (cs : List Char) : Option (List Char × List Char) :=
  match cs with
  | c :: _ => if isAsciiDigit c then takeDigits isAsciiDigit cs else some ([], cs)
  | [] => some ([], [])

def scanBased? (base : Nat) (cs : List Char) : Option (Constant × List Char) := do
  let (digits, rest) ← takeDigits (isDigitOf base) ('0' :: cs)
  if digits.length < 2 then none
  else if endsNumber rest then some (.int (value base digits), rest)
  else none

/-- The exponent at the front of a text: none if there is none, and failure if a sign
is not followed by digits. -/
def takeExponent? (cs : List Char) : Option (Option Int × List Char) :=
  match cs with
  | e :: rest =>
    if e = 'e' ∨ e = 'E' then
      let (negative, rest', signed) :=
        match rest with
        | '-' :: r => (true, r, true)
        | '+' :: r => (false, r, true)
        | r => (false, r, false)
      match rest' with
      | d :: _ =>
        if isAsciiDigit d then
          (takeDigits isAsciiDigit rest').map fun (digits, r) =>
            let n : Int := value 10 digits
            (some (if negative then -n else n), r)
        else if signed then none else some (none, cs)
      | [] => if signed then none else some (none, cs)
    else some (none, cs)
  | [] => some (none, cs)

/-- The constant of a whole decimal number. Zeros may stand only before nothing but
zeros, except where the number is at once followed by a keyword that begins like
an exponent: there it is read as a double. -/
def wholeConstant? (digits rest : List Char) : Option Constant :=
  let n := value 10 digits
  if digits.head? = some '0' ∧ n ≠ 0 then
    if rest.head? = some 'e' then some (.float (Decimal.nearest false ⟨n, 0⟩)) else none
  else if maxDigits < digits.length ∧ n ≠ 0 then none
  else some (.int n)

def scanDecimal? (cs : List Char) : Option (Constant × List Char) := do
  let (whole, rest) ← takeDecimals cs
  let (part, rest, hasPoint) ←
    match rest with
    | '.' :: r => (takeDecimals r).map fun (part, r) => (part, r, true)
    | r => some ([], r, false)
  let (exponent, rest) ← takeExponent? rest
  let decimal : Decimal := ⟨value 10 (whole ++ part), exponent.getD 0 - part.length⟩
  match rest with
  | c :: after =>
    if c = 'j' ∨ c = 'J' then
      if endsNumber after then some (.imaginary (Decimal.nearest false decimal), after) else none
    else if !endsNumber rest then none
    else if hasPoint ∨ exponent.isSome then some (.float (Decimal.nearest false decimal), rest)
    else (wholeConstant? whole rest).map (·, rest)
  | [] =>
    if hasPoint ∨ exponent.isSome then some (.float (Decimal.nearest false decimal), rest)
    else (wholeConstant? whole rest).map (·, rest)

def scanNumber? (cs : List Char) : Option (Constant × List Char) :=
  match cs with
  | '0' :: c :: rest =>
    match announcedBase? c with
    | some base => scanBased? base rest
    | none => scanDecimal? cs
  | _ => scanDecimal? cs

end EventSieve.Expression
