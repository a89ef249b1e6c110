import EventSieve.Number.Places

/-!
# Complex numbers

Pairs of doubles with the usual arithmetic. Division scales by the larger part of
the divisor; a power with a small whole exponent is a repeated product, and any
other goes through polar form. Division by zero, and a power without a finite
value, has no result.
-/

namespace EventSieve

structure Complex where
  re : Float
  im : Float

namespace Complex

def ofFloat (x : Float) : Complex := ⟨x, 0⟩

def add (a b : Complex) : Complex := ⟨a.re + b.re, a.im + b.im⟩

def sub (a b : Complex) : Complex := ⟨a.re - b.re, a.im - b.im⟩

def mul (a b : Complex) : Complex := ⟨a.re * b.re - a.im * b.im, a.re * b.im + a.im * b.re⟩

def neg (a : Complex) : Complex := ⟨-a.re, -a.im⟩

/-- The quotient, scaled by the larger part of the divisor. -/
def div? (a b : Complex) : Option Complex :=
  let re := Binary64.abs b.re
  let im := Binary64.abs b.im
  if im ≤ re then
    if re == 0 then none
    else
      let ratio := b.im / b.re
      let bottom := b.re + b.im * ratio
      some ⟨(a.re + a.im * ratio) / bottom, (a.im - a.re * ratio) / bottom⟩
  else if re ≤ im then
    let ratio := b.re / b.im
    let bottom := b.re * ratio + b.im
    some ⟨(a.re * ratio + a.im) / bottom, (a.im * ratio - a.re) / bottom⟩
  else some ⟨Binary64.undefined, Binary64.undefined⟩

def isZero (a : Complex) : Bool := a.re == 0 && a.im == 0

def magnitude (a : Complex) : Float :=
  if a.im == 0 then Binary64.abs a.re
  else if a.re == 0 then Binary64.abs a.im
  else
    match Binary64.exact a.re, Binary64.exact a.im with
    | .finite p, .finite q =>
      let large := max (Binary64.abs a.re) (Binary64.abs a.im)
      match Binary64.exact large with
      | .finite m => large * (Binary64.ofRat ((p * p + q * q) / (m * m))).sqrt
      | _ => large
    | .infinite _, _ | _, .infinite _ => Binary64.infinity false
    | _, _ => Binary64.undefined

/-- A power with a natural exponent, by squares; `fuel` bounds the binary digits of the
exponent. -/
def powNat : (fuel : Nat) → (result base : Complex) → (exponent : Nat) → Complex
  | 0, result, _, _ => result
  | fuel + 1, result, base, exponent =>
    if exponent = 0 then result
    else
      powNat fuel (if exponent % 2 = 1 then result.mul base else result) (base.mul base)
        (exponent / 2)

def powPolar (a b : Complex) : Complex :=
  let radius := a.magnitude
  let angle := Float.atan2 a.im a.re
  let length := Float.pow radius b.re
  let phase := angle * b.re
  let (length, phase) :=
    if b.im == 0 then (length, phase)
    else (length / Float.exp (angle * b.im), phase + b.im * Float.log radius)
  ⟨length * Float.cos phase, length * Float.sin phase⟩

def isInfinite (a : Complex) : Bool :=
  let infinite (x : Float) : Bool :=
    match Binary64.exact x with
    | .infinite _ => true
    | _ => false
  infinite a.re || infinite a.im

def smallExponent? (b : Complex) : Option Int :=
  match Binary64.exact b.re with
  | .finite q => if b.im == 0 ∧ q.den = 1 ∧ q.num.natAbs ≤ 100 then some q.num else none
  | _ => none

def pow? (a b : Complex) : Option Complex :=
  let power? : Option Complex :=
    match smallExponent? b with
    | some n =>
      let p := powNat 8 ⟨1, 0⟩ a n.natAbs
      if 0 < n then some p else div? ⟨1, 0⟩ p
    | none =>
      if b.isZero then some ⟨1, 0⟩
      else if a.isZero then if b.im != 0 || b.re < 0 then none else some ⟨0, 0⟩
      else some (powPolar a b)
  power?.bind fun p => if p.isInfinite then none else some p

def partLayout : FloatLayout := ⟨.shortest, 0, false, false, false, false⟩

def part (l : FloatLayout) (plus : Bool) (x : Float) : List Char :=
  let (negative, body) := l.write x
  if negative then '-' :: body else if plus then '+' :: body else body

/-- Whether the real part is left out: it is zero, and not negative. -/
def isImaginary (a : Complex) : Bool := a.re == 0 && !Binary64.isNegative a.re

/-- The text of a complex number: in parentheses, unless it is imaginary. -/
def text (a : Complex) : List Char :=
  if a.isImaginary then part partLayout false a.im ++ ['j']
  else '(' :: part partLayout false a.re ++ part partLayout true a.im ++ ['j', ')']

end Complex

end EventSieve
