import EventSieve.Expression.Tree
import EventSieve.Number.Complex
import EventSieve.Value.Equality
import EventSieve.Value.Text

/-!
# Operands

What a part of an expression evaluates to: a value of the event or a new one, or
something that only expressions know, such as a byte string, a complex number or a
function. Two operands can be asked whether they are the same object, and some are
shown with the address of an object. Neither follows from the values: a `Memory` says
where the objects of one evaluation are. A value comes with its `Origin`. Two values
found in the event are the same object if they are at one address. Small integers and
short texts are shared, so that equal ones are the same object wherever they come from.
Identity matters in one other place: in a list, a number that is equal to nothing is
still the same as itself.
-/

namespace EventSieve.Expression

open Text

/-- A step from a value to one within it. -/
inductive PlaceStep where
  | key (name : WideText)
  | index (i : Nat)
deriving DecidableEq

/-- The functions that an expression may call. -/
inductive Function where
  | str | int | float | len | lower | upper
deriving DecidableEq

namespace Function

def named? (name : String) : Option Function :=
  if name = "str" then some str
  else if name = "int" then some int
  else if name = "float" then some float
  else if name = "len" then some len
  else if name = "lower" then some lower
  else if name = "upper" then some upper
  else none

def name : Function → String
  | str => "str"
  | int => "int"
  | float => "float"
  | len => "len"
  | lower => "lower"
  | upper => "upper"

/-- Whether a function is also a type. -/
def isType : Function → Bool
  | str | int | float => true
  | _ => false

end Function

inductive OperandKind where
  | null | bool | int | float | str | list | map | bytes | complex | ellipsis | function | method
deriving DecidableEq

def OperandKind.name : OperandKind → String
  | null => "NoneType"
  | bool => "bool"
  | int => "int"
  | float => "float"
  | str => "str"
  | list => "list"
  | map => "dict"
  | bytes => "bytes"
  | complex => "complex"
  | ellipsis => "ellipsis"
  | function => "function"
  | method => "builtin_function_or_method"

/-! ## Objects and their addresses -/

/-- An object whose address can be seen. -/
inductive Object where
  /-- The value at a place of the event, given by its steps, the last first. -/
  | place (steps : List PlaceStep)
  /-- What a node of the expression makes, given by its branches, the last first. -/
  | node (branches : List Nat)
  /-- The one object that all equal values are, given by its written form. -/
  | shared (written : List Char)
  | function (f : Function)
  | type (kind : OperandKind)
deriving DecidableEq

/-- Where the objects of one evaluation are. -/
structure Memory where
  address : Object → Nat

namespace Memory

def shown (m : Memory) (o : Object) : List Char :=
  '0' :: 'x' :: Nat.toDigits 16 (m.address o)

/-! A memory in which each object has an address of its own: the object is spelled out, and
the characters and marks are the digits of its address. -/

def spellText (s : List Char) : List Nat := s.map (·.toNat + 8)

def spellIndex (i : Nat) : List Nat := (Nat.toDigits 10 i).map (·.toNat + 8) ++ [1]

def spellStep : PlaceStep → List Nat
  | .key name => name.map (·.toNat + 8) ++ [2]
  | .index i => spellIndex i

def spell : Object → List Nat
  | .place steps => steps.flatMap spellStep ++ [3]
  | .node branches => branches.flatMap spellIndex ++ [4]
  | .shared written => spellText written ++ [5]
  | .function f => spellText f.name.toList ++ [6]
  | .type kind => spellText kind.name.toList ++ [7]

def apart : Memory := ⟨fun o => (spell o).foldr (fun digit n => digit + 0x110010 * n) 0⟩

instance : Inhabited Memory := ⟨apart⟩

end Memory

/-- Where a value comes from. -/
inductive Origin where
  /-- The value is new. -/
  | fresh
  /-- The value is new, and not shared although it is short. -/
  | unshared
  /-- The value stands at a place of the event, given by its steps, the last first. -/
  | place (steps : List PlaceStep)
  /-- The value is new, and holds values of these origins. -/
  | collected (items : List Origin)

namespace Origin

def item (o : Origin) (i : Nat) : Origin :=
  match o with
  | place steps => place (.index i :: steps)
  | collected items => items[i]?.getD fresh
  | _ => fresh

/-- The origin of the value of a field, which has a key and a position. -/
def field (o : Origin) (key : WideText) (i : Nat) : Origin :=
  match o with
  | place steps => place (.key key :: steps)
  | collected items => items[i]?.getD fresh
  | _ => fresh

/-- Whether a value of an origin may be shared. -/
def maySharing : Origin → Bool
  | unshared => false
  | _ => true

end Origin

/-- Which origins are one object. -/
abbrev Sharing := Origin → Origin → Bool

def Memory.sharing (m : Memory) : Sharing
  | .place s, .place t => m.address (.place s) == m.address (.place t)
  | _, _ => false

/-- What a part of an expression evaluates to. -/
inductive Operand where
  /-- A value, with its origin. -/
  | value (v : Value WideText) (origin : Origin)
  /-- A byte string. -/
  | bytes (b : List UInt8)
  /-- A complex number. -/
  | complex (z : Complex)
  /-- Three dots. -/
  | ellipsis
  /-- One of the functions. -/
  | function (f : Function)
  /-- A method of an operand, which it is bound to as an object. -/
  | method (receiver : Operand) (name : String) (object : Object)
  /-- A method or a property that belongs to a kind as a whole. -/
  | member (owner : OperandKind) (name : String) (callable : Bool)
  /-- A choice of types, or of types and null. -/
  | alternatives (types : List (Option Function))

namespace Operand

def new (v : Value WideText) : Operand := .value v .fresh

def ofInt (n : Int) : Operand := new (.int n)

def ofFloat (x : Float) : Operand := new (.float x)

def ofBool (b : Bool) : Operand := new (.bool b)

def ofText (s : WideText) : Operand := new (.str s)

def int? : Operand → Option Int
  | value (.int n) _ => some n
  | value (.bool b) _ => some (if b then 1 else 0)
  | _ => none

def length? : Operand → Option Nat
  | value (.str s) _ => some s.length
  | value (.list items) _ => some items.length
  | value (.map fields) _ => some fields.length
  | bytes b => some b.length
  | _ => none

def truth : Operand → Bool
  | value v _ =>
    match v with
    | .null => false
    | .bool b => b
    | .int n => n != 0
    | .float x => x != 0
    | .str s => !s.isEmpty
    | .list items => !items.isEmpty
    | .map fields => !fields.isEmpty
  | bytes b => !b.isEmpty
  | complex z => !z.isZero
  | _ => true

/-! ## Identity and equality -/

/-- Whether equal values of a kind are the same object. -/
def isShared : Value WideText → Bool
  | .null | .bool _ => true
  | .int n => -5 ≤ n && n ≤ 256
  | .str [] => true
  | .str [p] => p.toNat < 256
  | _ => false

/-- The object that a value is, where a node of the expression has found or made it. -/
def objectOf (v : Value WideText) (o : Origin) (node : List Nat) : Object :=
  if isShared v && o.maySharing then .shared v.written
  else
    match o with
    | .place steps => .place steps
    | _ => .node node

def object (node : List Nat) : Operand → Object
  | value v o => objectOf v o node
  | bytes b => if b.length ≤ 1 then .shared (Text.quotedBytes b) else .node node
  | function f => .function f
  | _ => .node node

section Identity

variable (sharing : Sharing)

def sameValue (v : Value WideText) (o : Origin) (w : Value WideText) (p : Origin) : Bool :=
  sharing o p || (isShared v && o.maySharing && p.maySharing && v.strictEqual w)

mutual

/-- Equality of values, in which items of lists and fields are also equal when they are
the same object. -/
def equalValues : Value WideText → Origin → Value WideText → Origin → Bool
  | .list xs, o, w, p =>
    match w with
    | .list ys => xs.length == ys.length && equalItems xs o ys p 0
    | _ => false
  | .map fs, o, w, p =>
    match w with
    | .map gs => fs.length == gs.length && equalFields fs o gs p 0
    | _ => false
  | v, _, w, _ => v.equal w

def equalItems :
    List (Value WideText) → Origin → List (Value WideText) → Origin → Nat → Bool
  | [], _, _, _, _ => true
  | x :: xs, o, ys, p, i =>
    match ys with
    | [] => true
    | y :: ys =>
      (sameValue sharing x (o.item i) y (p.item i) || equalValues x (o.item i) y (p.item i)) &&
        equalItems xs o ys p (i + 1)

def equalFields :
    List (WideText × Value WideText) → Origin → Fields WideText → Origin → Nat → Bool
  | [], _, _, _, _ => true
  | (k, v) :: fs, o, gs, p, i =>
    (match gs.findIdx? (·.1 == k), gs.get? k with
     | some j, some w =>
       sameValue sharing v (o.field k i) w (p.field k j) ||
         equalValues v (o.field k i) w (p.field k j)
     | _, _ => false) && equalFields fs o gs p (i + 1)

end

/-- Whether an item of a list is found by an operand: it is the same object, or equal. -/
def matchesItem (v : Value WideText) (o : Origin) (w : Value WideText) (p : Origin) : Bool :=
  sameValue sharing v o w p || equalValues sharing v o w p

def same : Operand → Operand → Bool
  | value v o, value w p => sameValue sharing v o w p
  | bytes b, bytes c => b.length ≤ 1 && b == c
  | ellipsis, ellipsis => true
  | function f, function g => f == g
  | member k n c, member k' n' _ =>
    k == k' && n == n' && (!c || (n != "from_bytes" && n != "fromhex" && n != "fromkeys"))
  | _, _ => false

def complexEqual (z : Complex) (x : Exact) : Bool :=
  z.im == 0 && (Binary64.exact z.re).equal x

def equal : Operand → Operand → Bool
  | value v o, value w p => equalValues sharing v o w p
  | value v _, complex z | complex z, value v _ =>
    match v.number? with
    | some x => complexEqual z x
    | none => false
  | complex z, complex w => z.re == w.re && z.im == w.im
  | bytes b, bytes c => b == c
  | ellipsis, ellipsis => true
  | function f, function g => f == g
  | method r n _, method r' n' _ => n == n' && same sharing r r'
  | member k n _, member k' n' _ => k == k' && n == n'
  | alternatives ts, alternatives us => ts.all us.contains && us.all ts.contains
  | _, _ => false

end Identity

/-! ## Order -/

/-- Whether a comparison by order holds, given whether the left is less than the right,
equal to it, and greater than it. -/
def holds (op : Comparison) (less equal greater : Bool) : Bool :=
  match op with
  | .less => less
  | .lessEqual => less || equal
  | .greater => greater
  | .greaterEqual => greater || equal
  | _ => false

def orderRows {α : Type} (lt : α → α → Bool) (op : Comparison) : List α → List α → Bool
  | [], [] => holds op false true false
  | [], _ :: _ => holds op true false false
  | _ :: _, [] => holds op false false true
  | x :: xs, y :: ys =>
    if lt x y then holds op true false false
    else if lt y x then holds op false false true
    else orderRows lt op xs ys

section Order

variable (sharing : Sharing)

mutual

def orderValues (op : Comparison) :
    Value WideText → Origin → Value WideText → Origin → Option Bool
  | .list xs, o, w, p =>
    match w with
    | .list ys => orderItems op xs o ys p 0
    | _ => none
  | .str s, _, w, _ =>
    match w with
    | .str t => some (orderRows (·.toNat < ·.toNat) op s t)
    | _ => none
  | v, _, w, _ =>
    match v.number?, w.number? with
    | some x, some y => some (holds op (x.less y) (x.equal y) (y.less x))
    | _, _ => none

def orderItems (op : Comparison) :
    List (Value WideText) → Origin → List (Value WideText) → Origin → Nat → Option Bool
  | [], _, ys, _, _ => some (holds op (!ys.isEmpty) ys.isEmpty false)
  | x :: xs, o, ys, p, i =>
    match ys with
    | [] => some (holds op false false true)
    | y :: ys =>
      if matchesItem sharing x (o.item i) y (p.item i) then orderItems op xs o ys p (i + 1)
      else orderValues op x (o.item i) y (p.item i)

end

def order (op : Comparison) : Operand → Operand → Option Bool
  | value v o, value w p => orderValues sharing op v o w p
  | bytes b, bytes c => some (orderRows (· < ·) op b c)
  | _, _ => none

end Order

/-! ## Text -/

/-- The methods that belong to a kind as a whole. -/
def kindMethods : OperandKind → List String
  | .str => ["maketrans"]
  | .bytes => ["fromhex", "maketrans"]
  | .map => ["fromkeys"]
  | .int | .bool => ["from_bytes"]
  | .float => ["fromhex"]
  | _ => []

def kindOfValue (v : Value WideText) : OperandKind :=
  match v.kind with
  | .null => .null
  | .bool => .bool
  | .int => .int
  | .float => .float
  | .str => .str
  | .list => .list
  | .map => .map

def kindOf : Operand → OperandKind
  | value v _ => kindOfValue v
  | bytes _ => .bytes
  | complex _ => .complex
  | ellipsis => .ellipsis
  | function _ => .function
  | _ => .method

def alternativesText (types : List (Option Function)) : List Char :=
  " | ".toList.intercalate (types.map fun t =>
    match t with
    | some f => f.name.toList
    | none => "None".toList)

def methodText (m : Memory) (name owner : String) (o : Object) : List Char :=
  "<built-in method ".toList ++ name.toList ++ " of ".toList ++ owner.toList ++
    " object at ".toList ++ m.shown o ++ ['>']

def memberText (role name owner : String) : List Char :=
  '<' :: role.toList ++ " '".toList ++ name.toList ++ "' of '".toList ++ owner.toList ++
    "' objects>".toList

/-- The written form of an operand, in which texts are quoted; none if it holds an integer that
is too long. -/
def written? (m : Memory) : Operand → Option (List Char)
  | value v _ => if v.isWritable then some v.written else none
  | bytes b => some (Text.quotedBytes b)
  | complex z => some z.text
  | ellipsis => some "Ellipsis".toList
  | function f =>
    match f with
    | .len => some "<built-in function len>".toList
    | .lower | .upper => some ("<function <lambda> at ".toList ++ m.shown (.function f) ++ ['>'])
    | f => some ("<class '".toList ++ f.name.toList ++ "'>".toList)
  | method r n o => some (methodText m n r.kindOf.name o)
  | member k n callable =>
    if !callable then some (memberText "attribute" n k.name)
    else if (kindMethods k).contains n then some (methodText m n "type" (.type k))
    else some (memberText "method" n k.name)
  | alternatives types => some (alternativesText types)

/-- How an operand is shown: a text as it is. -/
def text? (m : Memory) : Operand → Option WideText
  | value (.str s) _ => some s
  | o => (o.written? m).map fun s => s.map .char

end Operand

end EventSieve.Expression
