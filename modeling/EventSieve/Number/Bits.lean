/-!
# Integers as rows of bits

The bits of a negative integer are those of its complement, inverted; so every
integer has a row of bits without end, and the operations on bits are defined on
all integers.
-/

namespace EventSieve.Bits

def invert (n : Int) : Int := -n - 1

/-- The magnitude behind the bits: of a negative integer, that of its complement. -/
def magnitude (n : Int) : Nat := if n < 0 then (invert n).toNat else n.toNat

def ofMagnitude (negative : Bool) (m : Nat) : Int := if negative then invert m else m

/-- The bits that are set in one natural number and not in another. -/
def without (m n : Nat) : Nat := m ^^^ (m &&& n)

def both (a b : Int) : Int :=
  let m := magnitude a
  let n := magnitude b
  match decide (a < 0), decide (b < 0) with
  | false, false => ofMagnitude false (m &&& n)
  | false, true => ofMagnitude false (without m n)
  | true, false => ofMagnitude false (without n m)
  | true, true => ofMagnitude true (m ||| n)

def either (a b : Int) : Int := invert (both (invert a) (invert b))

def exactlyOne (a b : Int) : Int :=
  ofMagnitude ((a < 0) != (b < 0)) (magnitude a ^^^ magnitude b)

end EventSieve.Bits
