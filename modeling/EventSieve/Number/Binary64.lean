/-!
# Exact values of doubles

A double stands for a rational number, for an infinity, or for nothing at all.
`exact` reads off which; comparison of numbers of any kind goes through it, so an
integer and a double are compared without rounding. In the other direction
`ofRatio` is the double nearest to a ratio, the even one of two equally near,
and infinity beyond the largest double. The operations on doubles that need more
than the hardware's four are stated through the exact value.
-/

-- A power with a literal exponent is the one that computes, whatever else is imported.
attribute [default_instance 20000] instPowNat

namespace EventSieve

/-- What a number stands for on the extended line, or that it stands for nothing. -/
inductive Exact where
  | undefined
  | infinite (negative : Bool)
  | finite (q : Rat)
deriving DecidableEq

namespace Exact

def ofInt (n : Int) : Exact := .finite n

/-- Equality of numbers: what is undefined is equal to nothing. -/
def equal : Exact → Exact → Bool
  | finite p, finite q => p == q
  | infinite s, infinite t => s == t
  | _, _ => false

def less : Exact → Exact → Bool
  | undefined, _ | _, undefined => false
  | finite p, finite q => p < q
  | finite _, infinite t => !t
  | infinite s, finite _ => s
  | infinite s, infinite t => s && !t

@[simp] theorem equal_undefined_left (x : Exact) : equal undefined x = false := by
  cases x <;> rfl

@[simp] theorem equal_undefined_right (x : Exact) : equal x undefined = false := by
  cases x <;> rfl

theorem equal_iff {x y : Exact} : equal x y ↔ x = y ∧ x ≠ undefined := by
  cases x <;> cases y <;> simp [equal]

end Exact

namespace Binary64

def isNegative (x : Float) : Bool := 2 ^ 63 ≤ x.toBits.toNat

def exponentField (x : Float) : Nat := x.toBits.toNat / 2 ^ 52 % 2 ^ 11

def fractionField (x : Float) : Nat := x.toBits.toNat % 2 ^ 52

/-- The magnitude of a finite double in units of the least positive double. -/
def units (x : Float) : Nat :=
  if exponentField x = 0 then fractionField x
  else (2 ^ 52 + fractionField x) * Nat.pow 2 (exponentField x - 1)

def magnitude (x : Float) : Rat := mkRat (units x) (2 ^ 1074)

def exact (x : Float) : Exact :=
  if exponentField x = 2047 then
    if fractionField x = 0 then .infinite (isNegative x) else .undefined
  else .finite (if isNegative x then -magnitude x else magnitude x)

def isUndefined (x : Float) : Bool := exact x == .undefined

/-- The quotient of two naturals, rounded to nearest and to the even one of two
equally near. -/
def roundHalfEven (num den : Nat) : Nat :=
  let q := num / den
  let r := num % den
  if 2 * r < den ∨ (2 * r = den ∧ q % 2 = 0) then q else q + 1

def ratioLog2 (num den : Nat) : Int :=
  let e : Int := (Nat.log2 num : Int) - (Nat.log2 den : Int)
  let reached : Bool :=
    if 0 ≤ e then den * Nat.pow 2 e.toNat ≤ num else den ≤ num * Nat.pow 2 (-e).toNat
  if reached then e else e - 1

/-- The bits of the double nearest to a positive ratio. The significand is rounded
at the place of its last bit; a carry out of it falls into the exponent field,
and a value that leaves the field is an infinity. -/
def nearestBits (num den : Nat) : Nat :=
  let place : Int := max (ratioLog2 num den - 52) (-1074)
  let significand :=
    if 0 ≤ place then roundHalfEven num (den * Nat.pow 2 place.toNat)
    else roundHalfEven (num * Nat.pow 2 (-place).toNat) den
  min ((place + 1074).toNat * 2 ^ 52 + significand) (2047 * 2 ^ 52)

/-- The double with a given sign nearest to a ratio. -/
def ofRatio (negative : Bool) (num den : Nat) : Float :=
  let bits := if num = 0 then 0 else nearestBits num den
  Float.ofBits (UInt64.ofNat (if negative then 2 ^ 63 + bits else bits))

def signedZero (negative : Bool) : Float := ofRatio negative 0 1

def infinity (negative : Bool) : Float :=
  Float.ofBits (UInt64.ofNat ((if negative then 2 ^ 63 else 0) + 2047 * 2 ^ 52))

/-- The double that stands for nothing. -/
def undefined : Float := Float.ofBits (UInt64.ofNat (2047 * 2 ^ 52 + 2 ^ 51))

def ofRat (q : Rat) : Float := ofRatio (q < 0) q.num.natAbs q.den

def ofInt? (n : Int) : Option Float :=
  let x := ofRat n
  match exact x with
  | .finite _ => some x
  | _ => none

def ofQuotient? (a b : Int) : Option Float :=
  let x := ofRatio ((a < 0) != (b < 0)) a.natAbs b.natAbs
  match exact x with
  | .finite _ => some x
  | _ => none

def largest : Nat := (2 ^ 53 - 1) * 2 ^ 971

/-- The integer that a rational number is cut to, toward zero. -/
def truncate (q : Rat) : Int := Int.tdiv q.num q.den

def toInt? (x : Float) : Option Int :=
  match exact x with
  | .finite q => some (truncate q)
  | _ => none

def copySign (x sign : Float) : Float :=
  if isNegative x == isNegative sign then x else -x

def abs (x : Float) : Float := if isNegative x then -x else x

def floor (x : Float) : Float :=
  match exact x with
  | .finite q =>
    if q.floor = 0 then signedZero (isNegative x) else ofRat q.floor
  | _ => x

/-- The remainder of the quotient cut toward zero; it has the sign of the dividend. -/
def truncatedRemainder (x y : Float) : Float :=
  match exact x, exact y with
  | .finite p, .finite q =>
    let r := p - q * truncate (p / q)
    ofRatio (isNegative x) r.num.natAbs r.den
  | .finite _, .infinite _ => x
  | _, _ => undefined

/-- The remainder that belongs to the floored quotient; it has the sign of the
divisor. The divisor is not zero. -/
def flooredRemainder (x y : Float) : Float :=
  let r := truncatedRemainder x y
  if r == 0 then copySign 0 y
  else if (y < 0) != (r < 0) then r + y
  else r

/-- The floor of the quotient, by way of the remainder. The divisor is not zero. -/
def flooredQuotient (x y : Float) : Float :=
  let r := truncatedRemainder x y
  let quotient := (x - r) / y
  let quotient := if r != 0 && (y < 0) != (r < 0) then quotient - 1 else quotient
  if quotient == 0 then copySign 0 (x / y)
  else
    let whole := floor quotient
    if quotient - whole > 0.5 then whole + 1 else whole

end Binary64

end EventSieve
