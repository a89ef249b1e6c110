import EventSieve.Expression.Operand
import EventSieve.Number.Bits

/-!
# Operators on operands

The signs and operators of expressions. Numbers are integers of any size, doubles
and complex numbers, of which the wider kind decides; booleans count as zero and
one. Texts, byte strings and lists are joined and repeated, and fields are merged.
An operation that has no result, or one that is larger than allowed, fails.
-/

namespace EventSieve.Expression.Operand

open Text

/-- The most items that a joined, repeated or written sequence may have. -/
def maxLength : Nat := 100000

def maxPower : Nat := 4000000

def maxShift : Nat := 10000

/-! ## Numbers -/

/-- A number of one of the three kinds. -/
inductive Number where
  | int (n : Int)
  | float (x : Float)
  | complex (z : Complex)

namespace Number

def float? : Number → Option Float
  | int n => Binary64.ofInt? n
  | float x => some x
  | complex _ => none

def complex? : Number → Option Complex
  | complex z => some z
  | n => n.float?.map Complex.ofFloat

/-- An operation on two numbers, by the wider of their kinds. -/
def combine? (ints : Int → Int → Option Operand) (floats : Float → Float → Option Operand)
    (complexes : Complex → Complex → Option Operand) (a b : Number) : Option Operand :=
  match a, b with
  | int m, int n => ints m n
  | complex _, _ | _, complex _ => do complexes (← a.complex?) (← b.complex?)
  | _, _ => do floats (← a.float?) (← b.float?)

end Number

def number? : Operand → Option Number
  | complex z => some (.complex z)
  | value (.float x) _ => some (.float x)
  | o => o.int?.map .int

def bool? : Operand → Option Bool
  | value (.bool b) _ => some b
  | _ => none

def combineNumbers? (ints : Int → Int → Option Operand)
    (floats : Float → Float → Option Operand)
    (complexes : Complex → Complex → Option Operand) (a b : Operand) : Option Operand := do
  Number.combine? ints floats complexes (← a.number?) (← b.number?)

/-! ## Signs -/

def plus? (a : Operand) : Option Operand :=
  match a with
  | value (.bool b) _ => some (ofInt (if b then 1 else 0))
  | value (.int _) _ | value (.float _) _ => some a
  | complex z => some (complex z)
  | _ => none

def minus? (a : Operand) : Option Operand :=
  match a.number? with
  | some (.int n) => some (ofInt (-n))
  | some (.float x) => some (ofFloat (-x))
  | some (.complex z) => some (complex z.neg)
  | none => none

def invert? (a : Operand) : Option Operand := a.int?.map fun n => ofInt (Bits.invert n)

def unary? (op : UnaryOp) (a : Operand) : Option Operand :=
  match op with
  | .plus => plus? a
  | .minus => minus? a
  | .invert => invert? a
  | .negation => some (ofBool (!a.truth))

/-! ## Sums and products -/

def itemOrigins (items : List (Value WideText)) (o : Origin) : List Origin :=
  (List.range items.length).map o.item

/-- Two sequences of one kind, one after the other; an empty text leaves the other as it
is. -/
def join? : Operand → Operand → Option Operand
  | value (.str s) o, value (.str t) p =>
    if s.isEmpty then some (value (.str t) p)
    else if t.isEmpty then some (value (.str s) o)
    else some (ofText (s ++ t))
  | value (.list xs) o, value (.list ys) p =>
    some (value (.list (xs ++ ys)) (.collected (itemOrigins xs o ++ itemOrigins ys p)))
  | bytes b, bytes c => some (bytes (b ++ c))
  | _, _ => none

def add? (a b : Operand) : Option Operand :=
  match a.length?, b.length? with
  | some m, some n => if maxLength < m + n then none else join? a b
  | _, _ =>
    combineNumbers? (fun m n => some (ofInt (m + n))) (fun x y => some (ofFloat (x + y)))
      (fun z w => some (complex (z.add w))) a b

def sub? : Operand → Operand → Option Operand :=
  combineNumbers? (fun m n => some (ofInt (m - n))) (fun x y => some (ofFloat (x - y)))
    (fun z w => some (complex (z.sub w)))

def copies {α : Type} (count : Nat) (row : List α) : List α := (List.replicate count row).flatten

def repeat? (a : Operand) (count : Nat) : Option Operand :=
  match a with
  | value (.str s) o =>
    if count = 1 then some (value (.str s) o)
    else some (ofText (copies count s))
  | value (.list xs) o =>
    some (value (.list (copies count xs)) (.collected (copies count (itemOrigins xs o))))
  | bytes b => some (bytes (copies count b))
  | _ => none

/-- Whether a number can count: it fits a word of 64 bits. -/
def isCount (n : Int) : Bool := -9223372036854775808 ≤ n && n ≤ 9223372036854775807

def repeatChecked? (a b : Operand) (length : Nat) : Option Operand :=
  match b.int? with
  | some n =>
    if !isCount n || (maxLength : Int) < n * length then none else repeat? a n.toNat
  | none => none

def mul? (a b : Operand) : Option Operand :=
  match a.length?, b.length? with
  | some _, some _ => none
  | some m, none => repeatChecked? a b m
  | none, some n => repeatChecked? b a n
  | none, none =>
    combineNumbers? (fun m n => some (ofInt (m * n))) (fun x y => some (ofFloat (x * y)))
      (fun z w => some (complex (z.mul w))) a b

/-! ## Quotients -/

def div? : Operand → Operand → Option Operand :=
  combineNumbers?
    (fun m n => if n = 0 then none else (Binary64.ofQuotient? m n).map ofFloat)
    (fun x y => if y == 0 then none else some (ofFloat (x / y)))
    (fun z w => (z.div? w).map complex)

def floorDiv? : Operand → Operand → Option Operand :=
  combineNumbers?
    (fun m n => if n = 0 then none else some (ofInt (m.fdiv n)))
    (fun x y => if y == 0 then none else some (ofFloat (Binary64.flooredQuotient x y)))
    (fun _ _ => none)

def mod? : Operand → Operand → Option Operand :=
  combineNumbers?
    (fun m n => if n = 0 then none else some (ofInt (m.fmod n)))
    (fun x y => if y == 0 then none else some (ofFloat (Binary64.flooredRemainder x y)))
    (fun _ _ => none)

/-! ## Powers -/

def exceedsPower (n : Number) : Bool :=
  let exceeds (x : Exact) : Bool := (Exact.ofInt maxPower).less x
  match n with
  | .int n => maxPower < n.natAbs
  | .float x => exceeds (Binary64.exact (Binary64.abs x))
  | .complex z => z.isInfinite || exceeds (Binary64.exact z.magnitude)

def isOddWhole (x : Float) : Bool :=
  match Binary64.exact x with
  | .finite q => q.den = 1 && q.num % 2 != 0
  | _ => false

def isWhole (x : Float) : Bool :=
  match Binary64.exact x with
  | .finite q => q.den = 1
  | _ => true

/-- The power of two doubles. A negative base with a broken exponent has a complex power;
zero has no negative power, and a power may not exceed all doubles. -/
def floatPow? (x y : Float) : Option Operand :=
  let odd := isOddWhole y
  if y == 0 then some (ofFloat 1)
  else if Binary64.isUndefined x then some (ofFloat x)
  else if Binary64.isUndefined y then some (ofFloat (if x == 1 then 1 else y))
  else
    match Binary64.exact x, Binary64.exact y with
    | _, .infinite negative =>
      let m := Binary64.abs x
      if m == 1 then some (ofFloat 1)
      else if !negative == (m > 1) then some (ofFloat (Binary64.infinity false))
      else some (ofFloat 0)
    | .infinite negative, _ =>
      if y > 0 then some (ofFloat (if odd then x else Binary64.infinity false))
      else some (ofFloat (Binary64.signedZero (odd && negative)))
    | _, _ =>
      if x == 0 then
        if y < 0 then none else some (ofFloat (if odd then x else 0))
      else if x < 0 && !isWhole y then
        (Complex.pow? (.ofFloat x) (.ofFloat y)).map complex
      else
        let base := Binary64.abs x
        let power := if base == 1 then 1 else Float.pow base y
        match Binary64.exact power with
        | .infinite _ => none
        | _ => some (ofFloat (if x < 0 && odd then -power else power))

def intPow? (m n : Int) : Option Operand :=
  if 0 ≤ n then some (ofInt (Int.pow m n.toNat))
  else do floatPow? (← Binary64.ofInt? m) (← Binary64.ofInt? n)

def pow? (a b : Operand) : Option Operand := do
  let x ← a.number?
  let y ← b.number?
  if exceedsPower x || exceedsPower y then none
  else Number.combine? intPow? floatPow? (fun z w => (z.pow? w).map complex) x y

/-! ## Bits -/

def shift? (move : Int → Nat → Int) (a b : Operand) : Option Operand := do
  let m ← a.int?
  let n ← b.int?
  if maxShift < n.natAbs ∨ Binary64.largest < m.natAbs ∨ n < 0 then none
  else some (ofInt (move m n.toNat))

/-- An operation on bits; of two booleans, a boolean. -/
def bits? (op : Int → Int → Int) (a b : Operand) : Option Operand :=
  match a.bool?, b.bool? with
  | some _, some _ => do some (ofBool (op (← a.int?) (← b.int?) != 0))
  | _, _ => do some (ofInt (op (← a.int?) (← b.int?)))

def fieldOrigin (fields : Fields WideText) (o : Origin) (key : WideText) : Origin :=
  match fields.findIdx? (·.1 == key) with
  | some i => o.field key i
  | none => .fresh

def mergeFields (fs : Fields WideText) (o : Origin) (gs : Fields WideText) (p : Origin) : Operand :=
  let merged := fs.merge gs
  let origin (field : WideText × Value WideText) : Origin :=
    if (gs.get? field.1).isSome then fieldOrigin gs p field.1 else fieldOrigin fs o field.1
  value (.map merged) (.collected (merged.map origin))

/-- The types that an operand offers to a choice of types; null stands for its own type. -/
def types? : Operand → Option (List (Option Function))
  | function f => if f.isType then some [some f] else none
  | value .null _ => some [none]
  | alternatives types => some types
  | _ => none

/-- A choice of types, each once. At least one side is a type already. -/
def unite? (a b : Operand) : Option Operand :=
  match a, b with
  | value .null _, value .null _ => none
  | _, _ => do
    let types := (← a.types?) ++ (← b.types?)
    match types.eraseDups with
    | [some f] => some (function f)
    | types => some (alternatives types)

/-- Bits that are set in at least one integer, fields merged, or a choice of types. -/
def bitOr? (a b : Operand) : Option Operand :=
  match a, b with
  | value (.map fs) o, value (.map gs) p => some (mergeFields fs o gs p)
  | _, _ =>
    match bits? Bits.either a b with
    | some c => some c
    | none => unite? a b

end EventSieve.Expression.Operand
