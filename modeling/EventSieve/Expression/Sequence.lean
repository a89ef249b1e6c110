import EventSieve.Expression.Operand

/-!
# Items, slices, members and attributes

What can be taken out of an operand: an item by its index or key, a slice, or an
attribute by its name. An attribute of the operand's kind comes before a field of
that name. Names that are private, or that lead out of the event, are refused.
-/

namespace EventSieve.Expression.Operand

open Text

/-! ## Items and slices -/

/-- The position that an index denotes in a row: a negative one counts from the end. -/
def position? (index : Int) (length : Nat) : Option Nat :=
  if 0 ≤ index then if index < length then some index.toNat else none
  else if 0 ≤ index + length then some (index + length).toNat
  else none

def item? (container index : Operand) : Option Operand :=
  match container with
  | value (.map fields) o =>
    match index with
    | value (.str key) _ =>
      match fields.findIdx? (·.1 == key), Fields.get? fields key with
      | some i, some v => some (value v (o.field key i))
      | _, _ => none
    | _ => none
  | value (.list items) o => do
    let i ← position? (← index.int?) items.length
    some (value (← items[i]?) (o.item i))
  | value (.str s) _ => do
    let i ← position? (← index.int?) s.length
    some (ofText [← s[i]?])
  | bytes b => do
    let i ← position? (← index.int?) b.length
    some (ofInt (← b[i]?).toNat)
  | _ => none

def bound? (o : Operand) : Option (Option Int) :=
  match o with
  | value .null _ => some none
  | o => o.int?.map some

/-- A bound moved into the range from `low` to `high`, where a negative one counts from
the end. -/
def clampBound (length : Nat) (low high bound : Int) : Int :=
  let bound := if bound < 0 then bound + length else bound
  max low (min high bound)

/-- The positions of a slice of a row: `count` of them from `start` on. -/
def slicePositions (length : Nat) (lower upper : Option Int) (step : Int) : List Nat :=
  if 0 < step then
    let start := (lower.map (clampBound length 0 length)).getD 0
    let stop := (upper.map (clampBound length 0 length)).getD length
    let count := ((stop - start + step - 1) / step).toNat
    (List.range count).map fun (k : Nat) => (start + (k : Int) * step).toNat
  else
    let start := (lower.map (clampBound length (-1) (length - 1))).getD (length - 1)
    let stop := (upper.map (clampBound length (-1) (length - 1))).getD (-1)
    let count := ((start - stop - step - 1) / -step).toNat
    (List.range count).map fun (k : Nat) => (start + (k : Int) * step).toNat

def pick {α : Type} (row : List α) (positions : List Nat) : List α :=
  let row := row.toArray
  positions.filterMap fun i => row[i]?

def slice? (container lower upper step : Operand) : Option Operand := do
  let length ← container.length?
  let step := (← bound? step).getD 1
  let lower ← bound? lower
  let upper ← bound? upper
  if step = 0 then none
  else
    let positions := slicePositions length lower upper step
    match container with
    | value (.str s) o =>
      if step = 1 ∧ positions.length = length then some (value (.str s) o)
      else
        let origin : Origin := if step = 1 ∨ positions.isEmpty then .fresh else .unshared
        some (value (.str (pick s positions)) origin)
    | value (.list items) o =>
      some (value (.list (pick items positions)) (.collected (positions.map o.item)))
    | bytes b => some (bytes (pick b positions))
    | _ => none

/-! ## Members -/

def containsRow {α : Type} [BEq α] (row : List α) : List α → Bool
  | [] => row.isEmpty
  | x :: xs => row.isPrefixOf (x :: xs) || containsRow row xs

/-- Whether an operand can be looked for among keys. -/
def isHashable : Operand → Bool
  | value (.list _) _ | value (.map _) _ => false
  | _ => true

def anyMatches (sharing : Sharing) (v : Value WideText) (p : Origin) :
    List (Value WideText) → Origin → Nat → Bool
  | [], _, _ => false
  | x :: xs, o, i => matchesItem sharing x (o.item i) v p || anyMatches sharing v p xs o (i + 1)

def contains? (sharing : Sharing) (container x : Operand) : Option Bool :=
  match container with
  | value (.str s) _ =>
    match x with
    | value (.str t) _ => some (containsRow t s)
    | _ => none
  | value (.list items) o =>
    match x with
    | value v p => some (anyMatches sharing v p items o 0)
    | x => some (items.any fun v => (new v).equal sharing x)
  | value (.map fields) _ =>
    if !x.isHashable then none
    else
      match x with
      | value (.str key) _ => some (Fields.get? fields key).isSome
      | _ => some false
  | bytes b =>
    match x with
    | bytes c => some (containsRow c b)
    | x =>
      match x.int? with
      | some n => if 0 ≤ n ∧ n < 256 then some (b.contains (UInt8.ofNat n.toNat)) else none
      | none => none
  | _ => none

/-! ## Attributes -/

def textMethods : List String := [
  "capitalize", "casefold", "center", "count", "encode", "endswith", "expandtabs", "find", "index",
  "isalnum", "isalpha", "isascii", "isdecimal", "isdigit", "isidentifier", "islower", "isnumeric",
  "isprintable", "isspace", "istitle", "isupper", "join", "ljust", "lower", "lstrip", "partition",
  "removeprefix", "removesuffix", "replace", "rfind", "rindex", "rjust", "rpartition", "rsplit",
  "rstrip", "split", "splitlines", "startswith", "strip", "swapcase", "title", "translate",
  "upper", "zfill"]

def byteMethods : List String := [
  "capitalize", "center", "count", "decode", "endswith", "expandtabs", "find", "hex", "index",
  "isalnum", "isalpha", "isascii", "isdigit", "islower", "isspace", "istitle", "isupper", "join",
  "ljust", "lower", "lstrip", "partition", "removeprefix", "removesuffix", "replace", "rfind",
  "rindex", "rjust", "rpartition", "rsplit", "rstrip", "split", "splitlines", "startswith",
  "strip", "swapcase", "title", "translate", "upper", "zfill"]

def methods : OperandKind → List String
  | .str => textMethods
  | .bytes => byteMethods
  | .list =>
    ["append", "clear", "copy", "count", "extend", "index", "insert", "pop", "remove", "reverse",
      "sort"]
  | .map => ["clear", "copy", "get", "items", "keys", "pop", "popitem", "setdefault", "update",
    "values"]
  | .int | .bool => ["as_integer_ratio", "bit_count", "bit_length", "conjugate", "to_bytes"]
  | .float => ["as_integer_ratio", "conjugate", "hex", "is_integer"]
  | .complex => ["conjugate"]
  | _ => []

def properties : OperandKind → List String
  | .int | .bool => ["real", "imag", "numerator", "denominator"]
  | .float | .complex => ["real", "imag"]
  | _ => []

def kindOfType : Function → OperandKind
  | .str => .str
  | .int => .int
  | .float => .float
  | _ => .function

def property? (o : Operand) (name : String) : Option Operand :=
  match o.int? with
  | some _ =>
    if name = "real" ∨ name = "numerator" then
      match o with
      | value (.int n) origin => some (value (.int n) origin)
      | o => o.int?.map ofInt
    else if name = "imag" then some (ofInt 0)
    else if name = "denominator" then some (ofInt 1)
    else none
  | none =>
    match o with
    | value (.float x) origin =>
      if name = "real" then some (value (.float x) origin)
      else if name = "imag" then some (ofFloat 0)
      else none
    | complex z =>
      if name = "real" then some (ofFloat z.re)
      else if name = "imag" then some (ofFloat z.im)
      else none
    | _ => none

/-- An attribute of the operand's kind, if it has one of that name. A method is bound to the
object that the operand is, where a node of the expression has made it. -/
def ownAttribute? (node : List Nat) (o : Operand) (name : String) : Option Operand :=
  match o with
  | function f =>
    if !f.isType then none
    else
      let kind := kindOfType f
      if (methods kind).contains name || (kindMethods kind).contains name then
        some (member kind name true)
      else if (properties kind).contains name then some (member kind name false)
      else none
  | o =>
    let kind := o.kindOf
    if (properties kind).contains name then o.property? name
    else if (methods kind).contains name then some (method o name (o.object node))
    else if (kindMethods kind).contains name then some (member kind name true)
    else none

def isRefused (name : String) : Bool :=
  name.startsWith "_" || name.startsWith "func_" ||
    ["format", "format_map", "mro", "tb_frame", "gi_frame", "ag_frame", "cr_frame", "exec"].contains
      name

/-- The attribute of an operand with a name that is not refused: one of its kind, or
else a field. -/
def attribute? (node : List Nat) (o : Operand) (name : String) : Option Operand :=
  match ownAttribute? node o name with
  | some a => some a
  | none => item? o (ofText (.ofString name))

end EventSieve.Expression.Operand
