import EventSieve.Text.CodePoint

/-!
# Expression trees

`Expr` is the tree of a template expression. The forms that can be evaluated have
constructors of their own; the forms that are only read, such as displays,
comprehensions and functions, share the constructor `refused`, which keeps their
parts, because calls inside them are still checked. `subtrees` lists the tree and
all trees below it, and `callees` the callees of the calls among them.
-/

namespace EventSieve.Expression

open Text

inductive Constant where
  | null
  | bool (b : Bool)
  | int (n : Int)
  | float (x : Float)
  | imaginary (x : Float)
  | str (s : WideText)
  | bytes (b : List UInt8)
  | ellipsis

inductive UnaryOp where
  | plus | minus | invert | negation
deriving DecidableEq

inductive BinaryOp where
  | add | sub | mul | div | floorDiv | mod | pow | matMul
  | shiftLeft | shiftRight | bitOr | bitXor | bitAnd
deriving DecidableEq

inductive Connective where
  | conjunction | disjunction
deriving DecidableEq

inductive Comparison where
  | equal | notEqual | less | lessEqual | greater | greaterEqual
  | same | notSame | member | notMember
deriving DecidableEq

/-- Forms that are read but never evaluated. -/
inductive Form where
  | starred | tuple | list | set | dict
  | lambda | comprehension | assignment | suspension | awaiting
deriving DecidableEq

/-- An expression. -/
inductive Expr where
  /-- A constant. -/
  | constant (c : Constant)
  /-- A name, in its normal form. -/
  | name (id : String)
  /-- An operator before an operand. -/
  | unary (op : UnaryOp) (operand : Expr)
  /-- An operator between operands. -/
  | binary (op : BinaryOp) (left right : Expr)
  /-- Operands joined by one connective. -/
  | connected (op : Connective) (operands : List Expr)
  /-- A row of comparisons. -/
  | compared (first : Expr) (rest : List (Comparison × Expr))
  /-- A choice between two expressions. -/
  | choice (test body alternative : Expr)
  /-- A call; a keyword argument without a keyword spreads a mapping. -/
  | call (callee : Expr) (arguments : List Expr) (keywords : List (Option String × Expr))
  /-- A field or other attribute of a value, by its name. -/
  | field (object : Expr) (attr : String)
  /-- An item of a value. -/
  | subscript (object index : Expr)
  /-- The bounds and the step of a slice. -/
  | slice (lower upper step : Option Expr)
  /-- A text that is put together from pieces. -/
  | interpolated (pieces : List Expr)
  /-- A piece of an interpolated text that is computed, with its format. -/
  | formatted (value : Expr) (spec : Option Expr)
  /-- A form that is never evaluated, with its parts. -/
  | refused (form : Form) (parts : List Expr)

namespace Expr

def children : Expr → List Expr
  | constant _ | name _ => []
  | unary _ e => [e]
  | binary _ l r => [l, r]
  | connected _ es => es
  | compared e rest => e :: rest.map (·.2)
  | choice t b a => [t, b, a]
  | call f es ks => f :: es ++ ks.map (·.2)
  | field e _ => [e]
  | subscript e i => [e, i]
  | slice l u s => l.toList ++ u.toList ++ s.toList
  | interpolated es => es
  | formatted e spec => e :: spec.toList
  | refused _ es => es

mutual

def subtrees : Expr → List Expr
  | constant c => [constant c]
  | name id => [name id]
  | unary op e => unary op e :: subtrees e
  | binary op l r => binary op l r :: (subtrees l ++ subtrees r)
  | connected op es => connected op es :: subtreesOfList es
  | compared e rest => compared e rest :: (subtrees e ++ subtreesOfPairs rest)
  | choice t b a => choice t b a :: (subtrees t ++ subtrees b ++ subtrees a)
  | call f es ks => call f es ks :: (subtrees f ++ subtreesOfList es ++ subtreesOfKeywords ks)
  | field e attr => field e attr :: subtrees e
  | subscript e i => subscript e i :: (subtrees e ++ subtrees i)
  | slice l u s =>
    slice l u s :: (subtreesOfOption l ++ subtreesOfOption u ++ subtreesOfOption s)
  | interpolated es => interpolated es :: subtreesOfList es
  | formatted e spec => formatted e spec :: (subtrees e ++ subtreesOfOption spec)
  | refused form es => refused form es :: subtreesOfList es

def subtreesOfList : List Expr → List Expr
  | [] => []
  | e :: es => subtrees e ++ subtreesOfList es

def subtreesOfPairs : List (Comparison × Expr) → List Expr
  | [] => []
  | (_, e) :: rest => subtrees e ++ subtreesOfPairs rest

def subtreesOfKeywords : List (Option String × Expr) → List Expr
  | [] => []
  | (_, e) :: rest => subtrees e ++ subtreesOfKeywords rest

def subtreesOfOption : Option Expr → List Expr
  | none => []
  | some e => subtrees e

end

def callee? : Expr → Option Expr
  | call f _ _ => some f
  | _ => none

def callees (e : Expr) : List Expr := e.subtrees.filterMap callee?

def isName : Expr → Bool
  | name _ => true
  | _ => false

/-- Whether every call in a tree has a plain name for its callee. -/
def callsPlainNames (e : Expr) : Bool := e.callees.all isName

end Expr

end EventSieve.Expression
