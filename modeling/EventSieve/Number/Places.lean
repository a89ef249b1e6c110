import EventSieve.Number.Shortest

/-!
# Doubles with a set number of digits

A double is written in one of four styles: with a set number of digits after the
point, in scientific form with a set number of digits after the first, with a set
number of significant digits in the shorter of these two forms, or with the fewest
digits that read back. The exact value is rounded once, a half to the even digit.
-/

namespace EventSieve

inductive FloatStyle where
  | fixed | scientific | general | shortest
deriving DecidableEq

structure FloatLayout where
  style : FloatStyle
  /-- The digits after the point, after the first digit, or in all. -/
  precision : Nat
  /-- The point and, in the general style, the zeros at the end are kept. -/
  alternate : Bool
  /-- At least one digit follows the point in positional form. -/
  wholePoint : Bool
  /-- A zero that comes of rounding has no sign. -/
  plainZero : Bool
  /-- The letters are capitals. -/
  capitals : Bool

namespace FloatLayout

/-- The most significant digits that a double can have, and some more. -/
def maxSignificant : Nat := 800

/-- The first digits of a positive ratio, without the zeros at their end, and the place
of the point after them. -/
def significant (num den count : Nat) : List Char × Int :=
  let count := min count maxSignificant
  let scale := Decimal.scale num den
  let shift : Int := count - scale
  let c := Binary64.roundHalfEven (num * Nat.pow 10 shift.toNat)
      (den * Nat.pow 10 (-shift).toNat)
  let d := Decimal.strip maxSignificant ⟨c, -shift⟩
  let ds := Decimal.digits d.coefficient
  (ds, ds.length + d.exponent)

def floatDigits (l : FloatLayout) (x : Float) : List Char × Int :=
  let num := Binary64.units x
  let den := 2 ^ 1074
  if num = 0 then (['0'], 1)
  else
    match l.style with
    | .scientific => significant num den (l.precision + 1)
    | .general => significant num den (max l.precision 1)
    | _ =>
      match Decimal.shortest? x with
      | some d =>
        let ds := Decimal.digits d.coefficient
        (ds, ds.length + d.exponent)
      | none => significant num den maxSignificant

def scientific (l : FloatLayout) (ds : List Char) (point : Int) (places : Nat) : List Char :=
  Decimal.spread ds 1 places l.alternate ++
    (if l.capitals then 'E' else 'e') :: Decimal.exponentChars (point - 1)

/-- The magnitude of a finite double, and whether it is written as zero. -/
def finiteBody (l : FloatLayout) (x : Float) : List Char × Bool :=
  match l.style with
  | .fixed =>
    let n := Binary64.roundHalfEven (Binary64.units x * Nat.pow 10 l.precision) (2 ^ 1074)
    let whole := Decimal.digits (n / Nat.pow 10 l.precision)
    let part := Decimal.digits (n % Nat.pow 10 l.precision)
    let body :=
      if l.precision = 0 then if l.alternate then whole ++ ['.'] else whole
      else whole ++ '.' :: List.replicate (l.precision - part.length) '0' ++ part
    (body, n = 0)
  | .scientific =>
    let (ds, point) := l.floatDigits x
    (l.scientific ds point l.precision, ds = ['0'])
  | .general =>
    let (ds, point) := l.floatDigits x
    let count : Nat := max l.precision 1
    let most : Int := if l.wholePoint then count - 1 else count
    let body :=
      if point ≤ -4 ∨ most < point then
        l.scientific ds point (if l.alternate then count - 1 else 0)
      else
        let places : Int := if l.alternate then count - point else 0
        Decimal.spread ds point (max places.toNat (if l.wholePoint then 1 else 0)) l.alternate
    (body, ds = ['0'])
  | .shortest =>
    let (ds, point) := l.floatDigits x
    let body :=
      if point ≤ -4 ∨ 16 < point then l.scientific ds point 0
      else Decimal.spread ds point (if l.wholePoint then 1 else 0) l.alternate
    (body, ds = ['0'])

def write (l : FloatLayout) (x : Float) : Bool × List Char :=
  match Binary64.exact x with
  | .undefined => (false, (if l.capitals then "NAN" else "nan").toList)
  | .infinite negative => (negative, (if l.capitals then "INF" else "inf").toList)
  | .finite _ =>
    let (body, isZero) := l.finiteBody x
    (Binary64.isNegative x && !(l.plainZero && isZero), body)

end FloatLayout

end EventSieve
