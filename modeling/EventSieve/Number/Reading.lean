import EventSieve.Number.Numeral
import EventSieve.Number.Shortest

/-!
# Reading doubles

A decimal numeral has digits around at most one point and may end in an exponent.
Blanks may stand around it, one sign before it, and single underscores between
two digits. The names of infinity and of the undefined value are read in either
case. The numeral denotes the nearest double, which beyond the largest one is an
infinity.
-/

namespace EventSieve.Decimal

open Numeral Text

/-- An underscore stands between two digits; without the underscores the text is what
it was. `last` is the character before. -/
def dropUnderscores? (last : Char) : List Char → Option (List Char)
  | [] => if last = '_' then none else some []
  | c :: cs =>
    if c = '_' then
      if isDigitOf 10 last then dropUnderscores? c cs else none
    else if last = '_' ∧ !isDigitOf 10 c then none
    else (dropUnderscores? c cs).map (c :: ·)

/-- The exponent at the end of a numeral; none if what is left is no exponent. -/
def readExponent? : List Char → Option Int
  | [] => some 0
  | c :: cs =>
    if c = 'e' ∨ c = 'E' then
      let (negative, digits) := takeSign cs
      if digits.isEmpty ∨ !digits.all (isDigitOf 10) then none
      else
        let n : Int := value 10 digits
        some (if negative then -n else n)
    else none

def readUnsigned? (cs : List Char) : Option Decimal :=
  let whole := cs.takeWhile (isDigitOf 10)
  let (part, rest) :=
    match cs.drop whole.length with
    | '.' :: rest =>
      let part := rest.takeWhile (isDigitOf 10)
      (part, rest.drop part.length)
    | rest => ([], rest)
  if whole.isEmpty ∧ part.isEmpty then none
  else (readExponent? rest).map fun e => ⟨value 10 (whole ++ part), e - part.length⟩

/-- The double nearest to a decimal of any size: far beyond the range of doubles no
power of ten is computed. -/
def nearest (negative : Bool) (d : Decimal) : Float :=
  let top : Int := (digits d.coefficient).length + d.exponent
  if d.coefficient = 0 ∨ top < -400 then Binary64.signedZero negative
  else if 400 < top then Binary64.infinity negative
  else toFloat negative d

def named? (negative : Bool) (cs : List Char) : Option Float :=
  let name := String.ofList (cs.map Char.toLower)
  if name = "inf" ∨ name = "infinity" then some (Binary64.infinity negative)
  else if name = "nan" then some Binary64.undefined
  else none

def trimAscii (cs : List Char) : List Char :=
  ((cs.dropWhile isAsciiBlank).reverse.dropWhile isAsciiBlank).reverse

def readPlain? (cs : List Char) : Option Float := do
  let cs ← dropUnderscores? ' ' (trimAscii cs)
  let (negative, body) := takeSign cs
  match named? negative body with
  | some x => some x
  | none => (readUnsigned? body).map (nearest negative)

def read? (s : String) : Option Float := readPlain? (plain s.toList)

end EventSieve.Decimal
