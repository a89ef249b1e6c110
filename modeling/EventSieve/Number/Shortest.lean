import EventSieve.Number.Binary64

/-!
# Decimal text of a double

A finite double is written with the fewest digits that read back to it, and of
those the nearest to it. Positional notation serves for values from `0.0001` up
to `10^16`, with at least one digit after the point; beyond that the first digit
stands before the point and an exponent of at least two digits follows.
-/

namespace EventSieve

structure Decimal where
  coefficient : Nat
  exponent : Int
deriving DecidableEq

namespace Decimal

def digits (n : Nat) : List Char := n.repr.toList

theorem digits_eq (n : Nat) : digits n = Nat.toDigits 10 n := by simp [digits, Nat.repr]

def integer (n : Int) : List Char :=
  if n < 0 then '-' :: digits n.natAbs else digits n.natAbs

def toFloat (negative : Bool) (d : Decimal) : Float :=
  Binary64.ofRatio negative (d.coefficient * Nat.pow 10 d.exponent.toNat)
    (Nat.pow 10 (-d.exponent).toNat)

/-- The decimal without the zeros at the end of its coefficient; `fuel` bounds
their number. -/
def strip : (fuel : Nat) → Decimal → Decimal
  | 0, d => d
  | fuel + 1, d =>
    if d.coefficient ≠ 0 ∧ d.coefficient % 10 = 0 then
      strip fuel ⟨d.coefficient / 10, d.exponent + 1⟩
    else d

/-- The least `k` for which a positive ratio is below `10^k`. -/
def scale (num den : Nat) : Int :=
  let guess : Int := (Binary64.ratioLog2 num den * 30103).fdiv 100000
  let below (k : Int) : Bool :=
    if 0 ≤ k then num < den * Nat.pow 10 k.toNat else num * Nat.pow 10 (-k).toNat < den
  if below guess then guess
  else if below (guess + 1) then guess + 1
  else guess + 2

/-- Of the two neighbours of a positive ratio on the grid of `10^place`, the one
that reads back; if both do, the nearer, and the even one of two equally near. -/
def onGrid? (readsBack : Decimal → Bool) (num den : Nat) (place : Int) : Option Decimal :=
  let top := num * Nat.pow 10 (-place).toNat
  let bottom := den * Nat.pow 10 place.toNat
  let low := top / bottom
  let nearest := Binary64.roundHalfEven top bottom
  let other := if nearest = low then low + 1 else low
  if readsBack ⟨nearest, place⟩ then some ⟨nearest, place⟩
  else if readsBack ⟨other, place⟩ then some ⟨other, place⟩
  else none

/-- The first grid, from the coarsest of the given number of refinements on, with a
decimal that reads back. -/
def search (readsBack : Decimal → Bool) (num den : Nat) (scale : Int) :
    (refinements : Nat) → (digits : Nat) → Option Decimal
  | 0, _ => none
  | refinements + 1, digits =>
    match onGrid? readsBack num den (scale - digits) with
    | some d => some d
    | none => search readsBack num den scale refinements (digits + 1)

/-- The decimal of fewest digits that reads back to a positive double. Seventeen
digits always suffice. -/
def shortest? (x : Float) : Option Decimal :=
  let num := Binary64.units x
  let den := 2 ^ 1074
  let readsBack (d : Decimal) : Bool := toFloat false (strip 17 d) = Binary64.abs x
  (search readsBack num den (scale num den) 17 1).map (strip 17)

def exponentChars (e : Int) : List Char :=
  let ds := digits e.natAbs
  (if e < 0 then '-' else '+') :: (if ds.length < 2 then '0' :: ds else ds)

/-- Digits with a point after the first `point` of them, and at least `places` digits
after the point. Where there are none, the point is left out unless it is to be
kept. -/
def spread (ds : List Char) (point : Int) (places : Nat) (keepPoint : Bool) : List Char :=
  let whole :=
    if point ≤ 0 then ['0']
    else ds.take point.toNat ++ List.replicate (point.toNat - ds.length) '0'
  let part :=
    if point ≤ 0 then List.replicate (-point).toNat '0' ++ ds else ds.drop point.toNat
  let part := part ++ List.replicate (places - part.length) '0'
  if part.isEmpty then if keepPoint then whole ++ ['.'] else whole else whole ++ '.' :: part

def layout (ds : List Char) (point : Int) : List Char :=
  if -4 < point ∧ point ≤ 16 then spread ds point 1 false
  else spread ds 1 0 false ++ 'e' :: exponentChars (point - 1)

/-- The text of a positive finite double. The second case, a count of least units, is
never met; it keeps apart the texts of different doubles without an appeal to
the bound on the digits. -/
def positiveChars (x : Float) : List Char :=
  match shortest? x with
  | some d =>
    let ds := digits d.coefficient
    layout ds (ds.length + d.exponent)
  | none => digits (Binary64.units x) ++ ['u']

end Decimal

namespace Binary64

def text (x : Float) : String :=
  match exact x with
  | .undefined => "nan"
  | .infinite negative => if negative then "-inf" else "inf"
  | .finite q =>
    let body := if q = 0 then ['0', '.', '0'] else Decimal.positiveChars x
    String.ofList (if isNegative x then '-' :: body else body)

end Binary64

end EventSieve
