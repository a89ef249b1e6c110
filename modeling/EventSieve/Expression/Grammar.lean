import EventSieve.Expression.Interpolation
import EventSieve.Expression.Lexer
import EventSieve.Expression.Reader

/-!
# The grammar of expressions

Each reader below reads one level of the grammar, from the items of a tuple down to
atoms. Where the grammar comes back to a level above, the reader calls `self` with
the goal to be read; `parse` ties the knot, with a fuel that every such call
spends. A call is made only after a token has been taken, so that fuel beyond the
number of tokens, those within interpolated texts included, never runs out.
-/

namespace EventSieve.Expression

open Reader

/-- The levels of the grammar that lower levels come back to. -/
inductive Goal where
  /-- One expression. -/
  | expression
  /-- An expression, perhaps with a name that is given to it. -/
  | named
  /-- An item of a display: a named expression, or a starred operand. -/
  | starred
  /-- A row of expressions, which commas make a tuple. -/
  | items
  /-- An expression without a choice or a function on the outside. -/
  | disjunction
  /-- An operand of `not`. -/
  | inversion
  /-- An operand of a comparison. -/
  | operand
  /-- An operand of a sign. -/
  | factor
  /-- An atom with its calls, fields and items. -/
  | primary

namespace Grammar

variable (fuel : Nat) (self : Goal → Reader Expr)

def begins : Token → Bool
  | .word text =>
    !Token.isKeyword text || ["None", "True", "False", "not", "lambda", "await"].contains text
  | .number _ | .text _ _ => true
  | .sign text => ["(", "[", "\x7b", "+", "-", "~", "..."].contains text
  | _ => false

def beginsStarred (t : Token) : Bool := begins t || isSign "*" t

def beginsClause (t : Token) : Bool := isWord "for" t || isWord "async" t

/-- A row of items is a tuple if it has a comma. -/
def tupled (items : List Expr) (comma : Bool) : Expr :=
  match items with
  | [e] => if comma then .refused .tuple [e] else e
  | es => .refused .tuple es

/-! ## Texts -/

def literalExpr (text : Text.WideText) : List Expr :=
  if text.isEmpty then [] else [.constant (.str text)]

mutual

/-- The pieces of an interpolated text as expressions; literals next to each other are
one. The text of a literal that has not ended is `pending`. -/
def pieceExprs (self : Goal → Reader Expr) (pending : Text.WideText) :
    List Piece → Option (List Expr)
  | [] => some (literalExpr pending)
  | .literal text :: pieces => pieceExprs self (pending ++ text) pieces
  | .field source spec :: pieces => do
    let tokens ← scan? ('(' :: source ++ [')'])
    let (value, _) ← self .items tokens
    let format ← specExpr self spec
    let rest ← pieceExprs self [] pieces
    some (literalExpr pending ++ .formatted value format :: rest)

def specExpr (self : Goal → Reader Expr) : Option (List Piece) → Option (Option Expr)
  | none => some none
  | some pieces => (pieceExprs self [] pieces).map fun es => some (.interpolated es)

end

def tokenPieces? (form : TextForm) (body : List Char) : Option (List Piece) :=
  if form.formatted then Piece.scan? form.raw body
  else (textOf? form.raw body).map fun text => [.literal text]

def joinTexts? (texts : List (TextForm × List Char)) : Option Expr :=
  if texts.all fun (form, _) => form.bytes then
    (texts.mapM fun (text : TextForm × List Char) => bytes? text.1.raw text.2).map
      fun (parts : List (List UInt8)) => .constant (.bytes parts.flatten)
  else if texts.any fun (form, _) => form.bytes then none
  else do
    let pieces ← texts.mapM fun (text : TextForm × List Char) => tokenPieces? text.1 text.2
    if texts.any fun (form, _) => form.formatted then
      (pieceExprs self [] pieces.flatten).map .interpolated
    else
      let joined := pieces.flatten.flatMap fun piece =>
        match piece with
        | .literal text => text
        | .field _ _ => []
      some (.constant (.str joined))

def textAtom : Reader Expr := do
  let texts ← repeated (fun (found : List (TextForm × List Char)) => fun ts =>
    match ts with
    | .text form body :: rest => some (some ((form, body) :: found), rest)
    | _ => some (none, ts)) fuel []
  fun ts => (joinTexts? self texts.reverse).map (·, ts)

/-! ## Targets -/

mutual

/-- Whether an expression may be assigned to; a starred one only where `starred` is set. -/
def isTarget (starred : Bool) : Expr → Bool
  | .name _ | .field _ _ | .subscript _ _ => true
  | .refused form parts =>
    match form with
    | .tuple | .list => areTargets parts
    | .starred => starred && isTargets parts
    | _ => false
  | _ => false

def areTargets : List Expr → Bool
  | [] => true
  | e :: es => isTarget true e && areTargets es

def isTargets : List Expr → Bool
  | [] => true
  | e :: es => isTarget false e && isTargets es

end

def target : Reader Expr := do
  let star ← acceptSign "*"
  let e ← self .primary
  if isTarget false e then pure (if star then .refused .starred [e] else e) else refuse

def targets : Reader Expr := do
  let (es, comma) ← separated (fun t => !isWord "in" t) (target self) fuel []
  pure (tupled es comma)

/-! ## Comprehensions -/

def clauseConditions (found : List Expr) : Reader (List Expr) :=
  repeated (fun found => do
    if ← acceptWord "if" then pure (some ((← self .disjunction) :: found)) else pure none)
    fuel found

/-- The clauses of a comprehension, as the row of their parts. -/
def clauses : Reader (List Expr) := do
  let parts ← repeated (fun found => do
    if !(← nextIs beginsClause) then pure none
    else
      let _ ← acceptWord "async"
      expectWord "for"
      let goal ← targets fuel self
      expectWord "in"
      let source ← self .disjunction
      some <$> clauseConditions fuel self (source :: goal :: found)) fuel []
  pure parts.reverse

def comprehension (parts : List Expr) : Reader Expr := do
  pure (.refused .comprehension (parts ++ (← clauses fuel self)))

/-! ## Brackets -/

def suspension : Reader Expr := do
  if ← acceptWord "from" then pure (.refused .suspension [← self .expression])
  else if ← nextIs beginsStarred then pure (.refused .suspension [← self .items])
  else pure (.refused .suspension [])

def isStarred : Expr → Bool
  | .refused .starred _ => true
  | _ => false

def parenthesized : Reader Expr := do
  if ← acceptSign ")" then pure (.refused .tuple [])
  else if ← acceptWord "yield" then
    let e ← suspension self
    expectSign ")"
    pure e
  else
    let first ← self .starred
    if ← nextIs beginsClause then
      if isStarred first then refuse
      else
        let e ← comprehension fuel self [first]
        expectSign ")"
        pure e
    else if ← acceptSign "," then
      if ← nextIs beginsStarred then
        let (rest, _) ← separated beginsStarred (self .starred) fuel []
        expectSign ")"
        pure (.refused .tuple (first :: rest))
      else
        expectSign ")"
        pure (.refused .tuple [first])
    else
      expectSign ")"
      if isStarred first then refuse else pure first

def bracketed : Reader Expr := do
  if ← acceptSign "]" then pure (.refused .list [])
  else
    let first ← self .starred
    if ← nextIs beginsClause then
      if isStarred first then refuse
      else
        let e ← comprehension fuel self [first]
        expectSign "]"
        pure e
    else if ← acceptSign "," then
      if ← nextIs beginsStarred then
        let (rest, _) ← separated beginsStarred (self .starred) fuel []
        expectSign "]"
        pure (.refused .list (first :: rest))
      else
        expectSign "]"
        pure (.refused .list [first])
    else
      expectSign "]"
      pure (.refused .list [first])

def dictEntry : Reader (List Expr) := do
  if ← acceptSign "**" then pure [← self .operand]
  else
    let key ← self .expression
    expectSign ":"
    pure [key, ← self .expression]

def dictEntries (found : List Expr) : Reader Expr := do
  let close (found : List Expr) : Reader Expr := do
    expectSign "\x7d"
    pure (.refused .dict found)
  if ← acceptSign "," then
    if ← nextIs (fun t => begins t || isSign "**" t) then
      let (entries, _) ← separated (fun t => begins t || isSign "**" t) (dictEntry self) fuel []
      close (found ++ entries.flatten)
    else close found
  else close found

def setItems (first : Expr) : Reader Expr := do
  if ← nextIs beginsClause then
    if isStarred first then refuse
    else
      let e ← comprehension fuel self [first]
      expectSign "\x7d"
      pure e
  else if ← acceptSign "," then
    if ← nextIs beginsStarred then
      let (rest, _) ← separated beginsStarred (self .starred) fuel []
      expectSign "\x7d"
      pure (.refused .set (first :: rest))
    else
      expectSign "\x7d"
      pure (.refused .set [first])
  else
    expectSign "\x7d"
    pure (.refused .set [first])

def braced : Reader Expr := do
  if ← acceptSign "\x7d" then pure (.refused .dict [])
  else if ← nextIs (isSign "**") then
    let entry ← dictEntry self
    dictEntries fuel self entry
  else
    let isAssignment ← nextIsNameThen ":="
    let first ← self .starred
    if isAssignment || isStarred first then setItems fuel self first
    else if ← acceptSign ":" then
      let value ← self .expression
      if ← nextIs beginsClause then
        let e ← comprehension fuel self [first, value]
        expectSign "\x7d"
        pure e
      else dictEntries fuel self [first, value]
    else setItems fuel self first

/-! ## Calls and items -/

structure Arguments where
  positional : List Expr
  keywords : List (Option String × Expr)
  spreads : Bool
  closed : Bool

/-- One argument. After a keyword argument only keywords and starred arguments follow,
and after a spread mapping only keywords and spread mappings. Where `generators`
is set, a generator may be the only argument. -/
def argument (generators : Bool) (found : Arguments) : Reader Arguments := do
  if ← acceptSign "*" then
    if found.spreads then refuse
    else
      let e ← self .expression
      pure { found with positional := .refused .starred [e] :: found.positional }
  else if ← acceptSign "**" then
    let e ← self .expression
    pure { found with keywords := (none, e) :: found.keywords, spreads := true }
  else if ← nextIsNameThen "=" then
    let key ← identifier
    expectSign "="
    let e ← self .expression
    pure { found with keywords := (some key, e) :: found.keywords }
  else if !found.keywords.isEmpty then refuse
  else
    let e ← self .named
    if ← nextIs beginsClause then
      if generators && found.positional.isEmpty then
        let generator ← comprehension fuel self [e]
        pure { found with positional := [generator], closed := true }
      else refuse
    else pure { found with positional := e :: found.positional }

def arguments (generators : Bool) : Reader (List Expr × List (Option String × Expr)) := do
  let read ← repeated (fun (found : Arguments) => do
    if found.closed then pure none
    else if ← nextIs (isSign ")") then pure none
    else
      let found ← argument fuel self generators found
      if found.closed then pure (some found)
      else if ← acceptSign "," then pure (some found)
      else pure (some { found with closed := true })) fuel ⟨[], [], false, false⟩
  expectSign ")"
  pure (read.positional.reverse, read.keywords.reverse)

def optionalExpression : Reader (Option Expr) := do
  if ← nextIs begins then some <$> self .expression else pure none

def sliceItem : Reader Expr := do
  let isAssignment ← nextIsNameThen ":="
  if ← acceptSign "*" then pure (.refused .starred [← self .expression])
  else
    let lower ←
      if ← nextIs (isSign ":") then pure none
      else some <$> self .named
    if isAssignment then
      match lower with
      | some e => pure e
      | none => refuse
    else if ← acceptSign ":" then
      let upper ← optionalExpression self
      let step ← if ← acceptSign ":" then optionalExpression self else pure none
      pure (.slice lower upper step)
    else
      match lower with
      | some e => pure e
      | none => refuse

def subscriptIndex : Reader Expr := do
  let (items, comma) ← separated (fun t => !isSign "]" t) (sliceItem self) fuel []
  expectSign "]"
  match items with
  | [e] => if comma || isStarred e then pure (.refused .tuple [e]) else pure e
  | es => pure (.refused .tuple es)

/-! ## Atoms and operators -/

/-- The parameters of a function, of which the row is still open. -/
structure Parameters where
  parts : List Expr
  anyNamed : Bool
  anyDefault : Bool
  slashed : Bool
  starred : Bool
  needsName : Bool
  closed : Bool

/-- An annotation of a parameter; only one after a star may be starred itself. -/
def annotation (annotated mayStar : Bool) : Reader (List Expr) := do
  if !annotated then pure []
  else if ← acceptSign ":" then
    if !mayStar then pure [← self .expression]
    else if ← acceptSign "*" then pure [.refused .starred [← self .operand]]
    else pure [← self .expression]
  else pure []

def parameter (annotated : Bool) (found : Parameters) : Reader Parameters := do
  if ← acceptSign "/" then
    if found.slashed || found.starred || !found.anyNamed then refuse
    else pure { found with slashed := true }
  else if ← acceptSign "**" then
    if found.needsName then refuse
    else
      let _ ← identifier
      let parts ← annotation self annotated false
      pure { found with parts := found.parts ++ parts, closed := true }
  else if ← acceptSign "*" then
    if found.starred then refuse
    else if ← nextIs (isSign ",") then
      pure { found with starred := true, needsName := true }
    else
      let _ ← identifier
      let parts ← annotation self annotated true
      pure { found with parts := found.parts ++ parts, starred := true }
  else
    let _ ← identifier
    let parts ← annotation self annotated false
    let found := { found with parts := found.parts ++ parts, anyNamed := true, needsName := false }
    if ← acceptSign "=" then
      let value ← self .expression
      pure { found with parts := found.parts ++ [value], anyDefault := true }
    else if found.anyDefault && !found.starred then refuse
    else pure found

/-- The parameters before a sign that ends them, as the row of their annotations and
defaults. -/
def parameters (annotated : Bool) (closing : String) : Reader (List Expr) := do
  let read ← repeated (fun (found : Parameters × Bool) => do
    if found.2 then pure none
    else if ← nextIs (isSign closing) then pure none
    else
      let read ← if found.1.closed then refuse else parameter self annotated found.1
      if ← acceptSign "," then pure (some (read, false))
      else pure (some (read, true)))
    fuel (⟨[], false, false, false, false, false, false⟩, false)
  if read.1.needsName then refuse else pure read.1.parts

def lambda : Reader Expr := do
  let parts ← parameters fuel self false ":"
  expectSign ":"
  let body ← self .expression
  pure (.refused .lambda (parts ++ [body]))

def atom : Reader Expr := fun ts =>
  match ts with
  | .number c :: rest => some (.constant c, rest)
  | .text _ _ :: _ => textAtom fuel self ts
  | .word text :: rest =>
    if text = "None" then some (.constant .null, rest)
    else if text = "True" then some (.constant (.bool true), rest)
    else if text = "False" then some (.constant (.bool false), rest)
    else (identifier ts).map fun (id, rest) => (.name id, rest)
  | .sign text :: rest =>
    if text = "(" then parenthesized fuel self rest
    else if text = "[" then bracketed fuel self rest
    else if text = "\x7b" then braced fuel self rest
    else if text = "..." then some (.constant .ellipsis, rest)
    else none
  | _ => none

def trailer (e : Expr) : Reader (Option Expr) := do
  if ← acceptSign "." then pure (some (.field e (← identifier)))
  else if ← acceptSign "(" then
    let (positional, keywords) ← arguments fuel self true
    pure (some (.call e positional keywords))
  else if ← acceptSign "[" then pure (some (.subscript e (← subscriptIndex fuel self)))
  else pure none

def primary : Reader Expr := do
  repeated (trailer fuel self) fuel (← atom fuel self)

def power : Reader Expr := do
  let base ←
    if ← acceptWord "await" then pure (.refused .awaiting [← self .primary])
    else primary fuel self
  if ← acceptSign "**" then pure (.binary .pow base (← self .factor)) else pure base

def factor : Reader Expr := do
  if ← acceptSign "+" then pure (.unary .plus (← self .factor))
  else if ← acceptSign "-" then pure (.unary .minus (← self .factor))
  else if ← acceptSign "~" then pure (.unary .invert (← self .factor))
  else power fuel self

def acceptOperator {α : Type} (table : List (String × α)) : Reader (Option α) := fun ts =>
  match ts with
  | .sign text :: rest =>
    match table.lookup text with
    | some op => some (some op, rest)
    | none => some (none, ts)
  | _ => some (none, ts)

/-- Operands with operators of one level between them, grouped from the left. -/
def leftGrouped (table : List (String × BinaryOp)) (operand : Reader Expr) : Reader Expr := do
  repeated (fun left => do
    match ← acceptOperator table with
    | some op => pure (some (.binary op left (← operand)))
    | none => pure none) fuel (← operand)

/-- Operands of the binary operators, the tightest first. -/
def operand : Reader Expr :=
  let term := leftGrouped fuel
    [("*", .mul), ("/", .div), ("//", .floorDiv), ("%", .mod), ("@", .matMul)] (factor fuel self)
  let sum := leftGrouped fuel [("+", .add), ("-", .sub)] term
  let shift := leftGrouped fuel [("<<", .shiftLeft), (">>", .shiftRight)] sum
  let conjoined := leftGrouped fuel [("&", .bitAnd)] shift
  let excluded := leftGrouped fuel [("^", .bitXor)] conjoined
  leftGrouped fuel [("|", .bitOr)] excluded

def acceptComparison : Reader (Option Comparison) := fun ts =>
  match ts with
  | .word "not" :: .word "in" :: rest => some (some .notMember, rest)
  | .word "in" :: rest => some (some .member, rest)
  | .word "is" :: .word "not" :: rest => some (some .notSame, rest)
  | .word "is" :: rest => some (some .same, rest)
  | _ =>
    acceptOperator [("==", .equal), ("!=", .notEqual), ("<", .less), ("<=", .lessEqual),
      (">", .greater), (">=", .greaterEqual)] ts

def comparison : Reader Expr := do
  let first ← operand fuel self
  let rest ← repeated (fun found => do
    match ← acceptComparison with
    | some op => pure (some ((op, ← operand fuel self) :: found))
    | none => pure none) fuel []
  pure (if rest.isEmpty then first else .compared first rest.reverse)

def inversion : Reader Expr := do
  if ← acceptWord "not" then pure (.unary .negation (← self .inversion))
  else comparison fuel self

def joined (op : Connective) (word : String) (operand : Reader Expr) : Reader Expr := do
  let first ← operand
  let rest ← repeated (fun found => do
    if ← acceptWord word then pure (some ((← operand) :: found)) else pure none) fuel []
  pure (if rest.isEmpty then first else .connected op (first :: rest.reverse))

def disjunction : Reader Expr :=
  joined fuel .disjunction "or" (joined fuel .conjunction "and" (inversion fuel self))

def expression : Reader Expr := do
  if ← acceptWord "lambda" then lambda fuel self
  else
    let body ← disjunction fuel self
    if ← acceptWord "if" then
      let test ← self .disjunction
      expectWord "else"
      let alternative ← self .expression
      pure (.choice test body alternative)
    else pure body

def named : Reader Expr := do
  if ← nextIsNameThen ":=" then
    let id ← identifier
    expectSign ":="
    let e ← self .expression
    pure (.refused .assignment [.name id, e])
  else expression fuel self

def starred : Reader Expr := do
  if ← acceptSign "*" then pure (.refused .starred [← self .operand]) else named fuel self

def item : Reader Expr := do
  if ← acceptSign "*" then pure (.refused .starred [← self .operand]) else expression fuel self

def items : Reader Expr := do
  let (es, comma) ← separated beginsStarred (item fuel self) fuel []
  pure (tupled es comma)

/-- What a goal asks for, given the readers of the goals below it. -/
def step : Goal → Reader Expr
  | .expression => expression fuel self
  | .named => named fuel self
  | .starred => starred fuel self
  | .items => items fuel self
  | .disjunction => disjunction fuel self
  | .inversion => inversion fuel self
  | .operand => operand fuel self
  | .factor => factor fuel self
  | .primary => primary fuel self

def parse : (fuel : Nat) → Goal → Reader Expr
  | 0, _ => refuse
  | fuel + 1, goal => step fuel (parse fuel) goal

end Grammar

end EventSieve.Expression
