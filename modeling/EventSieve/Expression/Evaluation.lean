import EventSieve.Expression.Application
import EventSieve.Expression.Directive
import EventSieve.Expression.Tree

/-!
# Evaluating expressions

An expression is evaluated on an event. A name stands for the field of that name;
`event` stands for the event as a whole, and the names of the functions stand for
the functions where no field has them. A callee that is a name is looked up among
the functions only. The evaluation fails where an operation has no result or a form
is refused. Every application of a callee is noted, in the order in which the
applications take place, whether the evaluation succeeds or not. A node of an
expression is known by its branches, the last first.
-/

namespace EventSieve.Expression

open Text

/-- The application of a callee: of one of the functions, or of an operand that was
computed. -/
inductive Applied where
  | function (f : Function)
  | computed (callee : Operand)

/-- Why an evaluation fails. Only the first reason has a bearing on how the failure is
reported. -/
inductive Failure where
  /-- Fields are asked for a key that none of them has. -/
  | missingKey (key : Operand)
  | other

/-- What an evaluation gives, if it does not fail, and the applications on the way. -/
abbrev Evaluation (α : Type) := ExceptT Failure (StateM (List Applied)) α

namespace Evaluation

def fail {α : Type} : Evaluation α := ExceptT.mk (pure (.error .other))

def ofResult {α : Type} (a : Except Failure α) : Evaluation α := ExceptT.mk (pure a)

def ofOption {α : Type} (a : Option α) : Evaluation α :=
  ofResult (match a with | some a => .ok a | none => .error .other)

def note (a : Applied) : Evaluation Unit := ExceptT.lift (modify (· ++ [a]))

end Evaluation

open Evaluation

def lookup? (event : Event) (name : String) : Option Operand :=
  if name = "event" then some (.value (.map (Value.widenFields event)) (.place []))
  else
    match Fields.get? event name with
    | some v => some (.value v.widen (.place [.key (.ofString name)]))
    | none => (Function.named? name).map .function

def Constant.operand? : Constant → Option Operand
  | null => some (.new .null)
  | bool b => some (.ofBool b)
  | int n => some (.ofInt n)
  | float x => some (.ofFloat x)
  | imaginary x => some (.complex ⟨0, x⟩)
  | str s => if Operand.maxLength < s.length then none else some (.ofText s)
  | bytes b => if Operand.maxLength < b.length then none else some (.bytes b)
  | ellipsis => some .ellipsis

def BinaryOp.result? (m : Memory) (op : BinaryOp) (a b : Operand) : Option Operand :=
  match op with
  | add => a.add? b
  | sub => a.sub? b
  | mul => a.mul? b
  | div => a.div? b
  | floorDiv => a.floorDiv? b
  | mod => a.remainder? m b
  | pow => a.pow? b
  | matMul => none
  | shiftLeft => Operand.shift? (fun m n => m * Int.pow 2 n) a b
  | shiftRight => Operand.shift? (fun m n => m / Int.pow 2 n) a b
  | bitOr => a.bitOr? b
  | bitXor => Operand.bits? Bits.exactlyOne a b
  | bitAnd => Operand.bits? Bits.both a b

def Comparison.holds? (sharing : Sharing) (op : Comparison) (a b : Operand) : Option Bool :=
  match op with
  | equal => some (a.equal sharing b)
  | notEqual => some (!a.equal sharing b)
  | same => some (a.same sharing b)
  | notSame => some (!a.same sharing b)
  | member => b.contains? sharing a
  | notMember => (b.contains? sharing a).map not
  | less | lessEqual | greater | greaterEqual => a.order sharing op b

def Operand.item (container index : Operand) : Except Failure Operand :=
  match container.item? index with
  | some o => .ok o
  | none =>
    match container with
    | .value (.map _) _ => .error (if index.isHashable then .missingKey index else .other)
    | _ => .error .other

def Connective.stopsAt (op : Connective) (o : Operand) : Bool :=
  match op with
  | conjunction => !o.truth
  | disjunction => o.truth

/-- Keyword arguments, of which a later one with a keyword takes the place of an earlier
one. A mapping that is spread out has no keyword and is none. -/
def collectKeywords? : List (Option String × Operand) → Option (List (String × Operand))
  | [] => some []
  | (none, _) :: _ => none
  | (some name, o) :: rest =>
    (collectKeywords? rest).map fun found =>
      if found.any (·.1 == name) then found else (name, o) :: found

def piece? (m : Memory) (o : Operand) : Option Operand := do
  let t ← o.toText? m
  if Operand.maxLength < (← t.length?) then none else some t

/-- The text that pieces make up. One piece alone stands for itself. -/
def joinPieces (pieces : List Operand) : Operand :=
  match pieces with
  | [piece] => piece
  | pieces =>
    let s := pieces.flatMap fun o => o.asText?.getD []
    .value (.str s) (if s.isEmpty then .fresh else .unshared)

/-- An operand in a format that has been evaluated. A text that the format leaves as it is
stands for itself. -/
def formatted? (m : Memory) (o spec : Operand) : Option Operand := do
  let text ← o.format? m (← spec.asText?)
  match o with
  | .value (.str s) origin =>
    if s = text then some (.value (.str s) origin) else some (.ofText text)
  | _ => some (.ofText text)

namespace Expr

variable (m : Memory) (event : Event)

mutual

/-- The operand that an expression at a node stands for on an event. -/
def eval (node : List Nat) : Expr → Evaluation Operand
  | constant c => ofOption c.operand?
  | name id => ofOption (lookup? event id)
  | unary op e => do
    let a ← eval (0 :: node) e
    ofOption (Operand.unary? op a)
  | binary op l r =>
    if op = .matMul then fail
    else do
      let a ← eval (0 :: node) l
      let b ← eval (1 :: node) r
      ofOption (op.result? m a b)
  | connected op es => evalConnected node 0 op (.ofBool false) es
  | compared e rest => do
    let a ← eval (0 :: node) e
    evalCompared node 1 a rest
  | choice test body alternative => do
    let t ← eval (0 :: node) test
    if t.truth then eval (1 :: node) body else eval (2 :: node) alternative
  | call (name id) es ks =>
    match Function.named? id with
    | none => fail
    | some f => do
      let positional ← evalList (0 :: node) 0 es
      let keywords ← evalKeywords (1 :: node) 0 ks
      let keywords ← ofOption (collectKeywords? keywords)
      note (.function f)
      ofOption (f.result? m ⟨positional, keywords⟩)
  | call (field object attr) es ks => do
    let callee ← eval (2 :: node) (field object attr)
    let _ ← evalList (0 :: node) 0 es
    let keywords ← evalKeywords (1 :: node) 0 ks
    let _ ← ofOption (collectKeywords? keywords)
    note (.computed callee)
    fail
  | call _ _ _ => fail
  | field object attr =>
    if Operand.isRefused attr then fail
    else do
      let o ← eval (0 :: node) object
      ofOption (o.attribute? node attr)
  | subscript object (slice lower upper step) => do
    let container ← eval (0 :: node) object
    let lower ← evalOption (1 :: node) lower
    let upper ← evalOption (2 :: node) upper
    let step ← evalOption (3 :: node) step
    ofOption (container.slice? lower upper step)
  | subscript object index => do
    let container ← eval (0 :: node) object
    let i ← eval (1 :: node) index
    ofResult (container.item i)
  | slice _ _ _ => fail
  | interpolated es => do
    let pieces ← evalPieces node 0 es
    pure (joinPieces pieces)
  | formatted e none => eval (0 :: node) e
  | formatted e (some spec) => do
    let spec ← eval (1 :: node) spec
    let o ← eval (0 :: node) e
    ofOption (formatted? m o spec)
  | refused _ _ => fail

/-- The operands that a row of expressions stands for, of which the first is at a given
branch. -/
def evalList (node : List Nat) (i : Nat) : List Expr → Evaluation (List Operand)
  | [] => pure []
  | e :: es => do
    let o ← eval (i :: node) e
    let os ← evalList node (i + 1) es
    pure (o :: os)

def evalPieces (node : List Nat) (i : Nat) : List Expr → Evaluation (List Operand)
  | [] => pure []
  | e :: es => do
    let o ← eval (i :: node) e
    let piece ← ofOption (piece? m o)
    let pieces ← evalPieces node (i + 1) es
    pure (piece :: pieces)

def evalKeywords (node : List Nat) (i : Nat) :
    List (Option String × Expr) → Evaluation (List (Option String × Operand))
  | [] => pure []
  | (key, e) :: ks => do
    let o ← eval (i :: node) e
    let os ← evalKeywords node (i + 1) ks
    pure ((key, o) :: os)

/-- Operands joined by a connective, from one on; the last one that is evaluated is the
result. -/
def evalConnected (node : List Nat) (i : Nat) (op : Connective) :
    Operand → List Expr → Evaluation Operand
  | last, [] => pure last
  | _, e :: es => do
    let o ← eval (i :: node) e
    if op.stopsAt o then pure o else evalConnected node (i + 1) op o es

/-- A row of comparisons after its first operand, up to the first that does not hold. -/
def evalCompared (node : List Nat) (i : Nat) :
    Operand → List (Comparison × Expr) → Evaluation Operand
  | _, [] => pure (.ofBool true)
  | a, (op, e) :: rest => do
    let b ← eval (i :: node) e
    let holds ← ofOption (op.holds? m.sharing a b)
    if holds then evalCompared node (i + 1) b rest else pure (.ofBool false)

def evalOption (node : List Nat) : Option Expr → Evaluation Operand
  | none => pure (.new .null)
  | some e => eval node e

end

def evaluate (e : Expr) : Except Failure Operand := (((e.eval m event []).run).run []).1

/-- The applications that the evaluation of an expression makes, in order. -/
def applications (e : Expr) : List Applied := (((e.eval m event []).run).run []).2

end Expr

end EventSieve.Expression
