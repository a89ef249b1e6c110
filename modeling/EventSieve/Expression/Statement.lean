import EventSieve.Expression.Grammar

/-!
# Statements

The text of a template is read as a row of statements, of which a renderer accepts
exactly one, an expression. Other statements are only recognised: `Statement.other`
says that one was there. The readers below follow the grammar of statements, with
their blocks, targets and patterns.
-/

namespace EventSieve.Expression

open Reader Grammar

/-- A statement: an expression, or anything else. -/
inductive Statement where
  | expression (e : Expr)
  | other

namespace Statement

variable (fuel : Nat) (read : Goal → Reader Expr)

def isLineEnd : Token → Bool
  | .lineEnd => true
  | _ => false

def isIndent : Token → Bool
  | .indent => true
  | _ => false

def isDedent : Token → Bool
  | .dedent => true
  | _ => false

/-! ## Simple statements -/

def isPlace : Expr → Bool
  | .name _ | .field _ _ | .subscript _ _ => true
  | _ => false

mutual

def isDeletable : Expr → Bool
  | .name _ | .field _ _ | .subscript _ _ => true
  | .refused form parts =>
    match form with
    | .tuple | .list => areDeletable parts
    | _ => false
  | _ => false

def areDeletable : List Expr → Bool
  | [] => true
  | e :: es => isDeletable e && areDeletable es

end

/-- The value of an assignment, and whether it may be a target in turn. -/
def assignedValue : Reader (Expr × Bool) := do
  if ← acceptWord "yield" then pure (← suspension read, false)
  else
    let e ← read .items
    pure (e, isTarget true e)

def assignment (first : Expr) : Reader Unit := do
  let last ← repeated (fun (last : Expr × Bool) => do
    if ← acceptSign "=" then
      if last.2 then some <$> assignedValue read else refuse
    else pure none) fuel (first, isTarget true first)
  let _ := last
  pure ()

/-- The signs that change a place. -/
def changes : List (String × Unit) :=
  ["+=", "-=", "*=", "@=", "/=", "%=", "&=", "|=", "^=", "<<=", ">>=", "**=", "//="].map (·, ())

def expressionOrAssignment : Reader Statement := do
  let first ← read .items
  if ← nextIs (isSign "=") then
    assignment fuel read first
    pure .other
  else if ← acceptSign ":" then
    if !isPlace first then refuse
    else
      let _ ← read .expression
      if ← acceptSign "=" then
        let _ ← assignedValue read
        pure .other
      else pure .other
  else
    match ← acceptOperator changes with
    | some () =>
      if !isPlace first then refuse
      else
        let _ ← assignedValue read
        pure .other
    | none => pure (.expression first)

def names : Reader Unit := do
  let _ ← separated (fun _ => true) identifier fuel []
  pure ()

def dottedName : Reader Unit := do
  let _ ← identifier
  repeated (fun _ => do
    if ← acceptSign "." then
      let _ ← identifier
      pure (some ())
    else pure none) fuel ()

def renamed (name : Reader Unit) : Reader Unit := do
  name
  if ← acceptWord "as" then
    let _ ← identifier
    pure ()
  else pure ()

def memberName : Reader Unit := do
  let _ ← identifier
  pure ()

def importedNames : Reader Unit := do
  if ← acceptSign "*" then pure ()
  else if ← acceptSign "(" then
    let _ ← separated (fun t => !isSign ")" t) (renamed memberName) fuel []
    expectSign ")"
  else
    let _ ← separated (fun _ => true) (renamed memberName) fuel []
    pure ()

def importFrom : Reader Unit := do
  let dots ← repeated (fun (_ : Bool) => do
    if ← acceptSign "." then pure (some true)
    else if ← acceptSign "..." then pure (some true)
    else pure none) fuel false
  if ← acceptWord "import" then
    if dots then importedNames fuel else refuse
  else
    dottedName fuel
    expectWord "import"
    importedNames fuel

def simple : Reader Statement := do
  if ← acceptWord "pass" then pure .other
  else if ← acceptWord "break" then pure .other
  else if ← acceptWord "continue" then pure .other
  else if ← acceptWord "yield" then .expression <$> suspension read
  else if ← acceptWord "return" then
    if ← nextIs beginsStarred then
      let _ ← read .items
      pure .other
    else pure .other
  else if ← acceptWord "raise" then
    if ← nextIs begins then
      let _ ← read .expression
      if ← acceptWord "from" then
        let _ ← read .expression
        pure .other
      else pure .other
    else pure .other
  else if ← acceptWord "global" then
    names fuel
    pure .other
  else if ← acceptWord "nonlocal" then
    names fuel
    pure .other
  else if ← acceptWord "del" then
    let e ← read .items
    if isDeletable e then pure .other else refuse
  else if ← acceptWord "assert" then
    let _ ← read .expression
    if ← acceptSign "," then
      let _ ← read .expression
      pure .other
    else pure .other
  else if ← acceptWord "import" then
    let _ ← separated (fun _ => true) (renamed (dottedName fuel)) fuel []
    pure .other
  else if ← acceptWord "from" then
    importFrom fuel
    pure .other
  else expressionOrAssignment fuel read

def line : Reader (List Statement) := do
  let first ← simple fuel read
  let rest ← repeated (fun (found : List Statement) => do
    if ← acceptSign ";" then
      if ← nextIs isLineEnd then pure none
      else pure (some ((← simple fuel read) :: found))
    else pure none) fuel []
  expect isLineEnd
  pure (first :: rest.reverse)

/-! ## Patterns -/

def patternNumber : Reader Bool := fun ts =>
  match ts with
  | .number c :: rest =>
    match c with
    | .imaginary _ => some (true, rest)
    | _ => some (false, rest)
  | _ => none

def numberPattern : Reader Unit := do
  let _ ← acceptSign "-"
  let imaginary ← patternNumber
  if ← nextIs (fun t => isSign "+" t || isSign "-" t) then
    let _ ← acceptSign "+"
    let _ ← acceptSign "-"
    let second ← patternNumber
    if !imaginary && second then pure () else refuse
  else pure ()

def beginsLiteral : Token → Bool
  | .number _ | .text _ _ => true
  | .sign text => text == "-"
  | .word text => text == "None" || text == "True" || text == "False"
  | _ => false

def literalPattern : Reader Unit := fun ts =>
  match ts with
  | .text _ _ :: _ => (textAtom fuel read ts).map fun (_, rest) => ((), rest)
  | .word _ :: rest => some ((), rest)
  | _ => numberPattern ts

def capture : Reader Unit := do
  if ← nextIs (isWord "_") then refuse
  else
    let _ ← identifier
    if ← nextIs (fun t => isSign "." t || isSign "(" t || isSign "=" t) then refuse else pure ()

def starPattern : Reader Unit := do
  if ← acceptWord "_" then pure () else capture

def maybeStarred (self : Reader Unit) : Reader Bool := do
  if ← acceptSign "*" then
    starPattern
    pure true
  else
    self
    pure false

def parenthesizedPattern (self : Reader Unit) : Reader Unit := do
  if ← acceptSign ")" then pure ()
  else
    let (items, comma) ← separated (fun t => !isSign ")" t) (maybeStarred self) fuel []
    expectSign ")"
    if items.length = 1 && !comma && items.contains true then refuse else pure ()

def bracketedPattern (self : Reader Unit) : Reader Unit := do
  if ← acceptSign "]" then pure ()
  else
    let _ ← separated (fun t => !isSign "]" t) (maybeStarred self) fuel []
    expectSign "]"

def keyPattern (self : Reader Unit) : Reader Unit := do
  if ← nextIs beginsLiteral then literalPattern fuel read
  else
    let _ ← identifier
    expectSign "."
    dottedName fuel
  expectSign ":"
  self

def bracedPattern (self : Reader Unit) : Reader Unit := do
  let closed ← repeated (fun (closed : Bool) => do
    if closed then pure none
    else if ← nextIs (isSign "\x7d") then pure none
    else if ← acceptSign "**" then
      capture
      let _ ← acceptSign ","
      pure (some true)
    else
      keyPattern fuel read self
      if ← acceptSign "," then pure (some false) else pure (some true)) fuel false
  let _ := closed
  expectSign "\x7d"

def classPatterns (self : Reader Unit) : Reader Unit := do
  let _ ← repeated (fun (state : Bool × Bool) => do
    if state.2 then pure none
    else if ← nextIs (isSign ")") then pure none
    else
      let keyword ← nextIsNameThen "="
      if keyword then
        let _ ← identifier
        expectSign "="
        self
      else if state.1 then refuse
      else self
      if ← acceptSign "," then pure (some (keyword, false))
      else pure (some (keyword, true))) fuel (false, false)
  expectSign ")"

def namePattern (self : Reader Unit) : Reader Unit := do
  if ← acceptWord "_" then pure ()
  else
    let _ ← identifier
    repeated (fun _ => do
      if ← acceptSign "." then
        let _ ← identifier
        pure (some ())
      else pure none) fuel ()
    if ← acceptSign "(" then classPatterns fuel self else pure ()

def closedPattern (self : Reader Unit) : Reader Unit := do
  if ← nextIs beginsLiteral then literalPattern fuel read
  else if ← acceptSign "(" then parenthesizedPattern fuel self
  else if ← acceptSign "[" then bracketedPattern fuel self
  else if ← acceptSign "\x7b" then bracedPattern fuel read self
  else namePattern fuel self

/-- Alternatives, perhaps with a name for the value. -/
def patternStep (self : Reader Unit) : Reader Unit := do
  closedPattern fuel read self
  repeated (fun _ => do
    if ← acceptSign "|" then
      closedPattern fuel read self
      pure (some ())
    else pure none) fuel ()
  if ← acceptWord "as" then capture else pure ()

def pattern : (depth : Nat) → Reader Unit
  | 0 => refuse
  | depth + 1 => patternStep fuel read (pattern depth)

def patterns : Reader Unit := do
  let (items, comma) ← separated (fun t => !isSign ":" t && !isWord "if" t)
    (maybeStarred (pattern fuel read fuel)) fuel []
  if items.length = 1 && !comma && items.contains true then refuse else pure ()

/-! ## Blocks -/

def colonBlock (block : Reader Unit) : Reader Unit := do
  expectSign ":"
  block

def optionalClause (word : String) (block : Reader Unit) : Reader Unit := do
  if ← acceptWord word then colonBlock block else pure ()

def conditional (block : Reader Unit) : Reader Unit := do
  let _ ← read .named
  colonBlock block
  repeated (fun _ => do
    if ← acceptWord "elif" then
      let _ ← read .named
      colonBlock block
      pure (some ())
    else pure none) fuel ()
  optionalClause "else" block

def whileLoop (block : Reader Unit) : Reader Unit := do
  let _ ← read .named
  colonBlock block
  optionalClause "else" block

def forLoop (block : Reader Unit) : Reader Unit := do
  let _ ← targets fuel read
  expectWord "in"
  let _ ← read .items
  colonBlock block
  optionalClause "else" block

/-- A handler, whose keyword has been read; either all handlers of a statement have a
star or none has. -/
def handler (starred : Bool) (block : Reader Unit) : Reader Unit := do
  if starred then expectSign "*" else pure ()
  if ← nextIs (isSign ":") then
    if starred then refuse else colonBlock block
  else
    let _ ← read .expression
    if ← acceptWord "as" then
      let _ ← identifier
      colonBlock block
    else colonBlock block

def guarded (block : Reader Unit) : Reader Unit := do
  colonBlock block
  if ← acceptWord "finally" then colonBlock block
  else
    expectWord "except"
    let starred ← nextIs (isSign "*")
    handler read starred block
    repeated (fun _ => do
      if ← acceptWord "except" then
        handler read starred block
        pure (some ())
      else pure none) fuel ()
    optionalClause "else" block
    optionalClause "finally" block

def withItem : Reader Unit := do
  let _ ← read .expression
  if ← acceptWord "as" then
    let _ ← target read
    pure ()
  else pure ()

/-- The items of a `with` statement and the colon after them, in parentheses or not. -/
def withItems : Reader Unit :=
  let parenthesized : Reader Unit := do
    expectSign "("
    let _ ← separated (fun t => !isSign ")" t) (withItem read) fuel []
    expectSign ")"
    expectSign ":"
  let plain : Reader Unit := do
    let _ ← separated (fun _ => true) (withItem read) fuel []
    expectSign ":"
  orElse parenthesized plain

def function (block : Reader Unit) : Reader Unit := do
  let _ ← identifier
  expectSign "("
  let _ ← parameters fuel read true ")"
  expectSign ")"
  if ← acceptSign "->" then
    let _ ← read .expression
    colonBlock block
  else colonBlock block

def classStatement (block : Reader Unit) : Reader Unit := do
  let _ ← identifier
  if ← acceptSign "(" then
    let _ ← arguments fuel read false
    colonBlock block
  else colonBlock block

def asynchronous (block : Reader Unit) : Reader Unit := do
  if ← acceptWord "def" then function fuel read block
  else if ← acceptWord "for" then forLoop fuel read block
  else
    expectWord "with"
    withItems fuel read
    block

def decorated (block : Reader Unit) : Reader Unit := do
  let _ ← read .named
  expect isLineEnd
  repeated (fun _ => do
    if ← acceptSign "@" then
      let _ ← read .named
      expect isLineEnd
      pure (some ())
    else pure none) fuel ()
  if ← acceptWord "class" then classStatement fuel read block
  else if ← acceptWord "async" then
    expectWord "def"
    function fuel read block
  else
    expectWord "def"
    function fuel read block

def caseBlock (block : Reader Unit) : Reader Unit := do
  expectWord "case"
  patterns fuel read
  if ← acceptWord "if" then
    let _ ← read .named
    colonBlock block
  else colonBlock block

def patternChoice (block : Reader Unit) : Reader Unit := do
  expectWord "match"
  let (items, comma) ← separated beginsStarred (read .starred) fuel []
  if items.length = 1 && !comma && items.any isStarred then refuse
  else
    expectSign ":"
    expect isLineEnd
    expect isIndent
    caseBlock fuel read block
    repeated (fun _ => do
      if ← accept isDedent then pure none
      else
        caseBlock fuel read block
        pure (some ())) fuel ()

/-- The statement with a block that a keyword begins; none if the next token begins no
such statement. -/
def compound? (block : Reader Unit) : Reader Bool := do
  if ← acceptWord "if" then conditional fuel read block; pure true
  else if ← acceptWord "while" then whileLoop read block; pure true
  else if ← acceptWord "for" then forLoop fuel read block; pure true
  else if ← acceptWord "try" then guarded fuel read block; pure true
  else if ← acceptWord "with" then
    withItems fuel read
    block
    pure true
  else if ← acceptWord "def" then function fuel read block; pure true
  else if ← acceptWord "class" then classStatement fuel read block; pure true
  else if ← acceptWord "async" then asynchronous fuel read block; pure true
  else if ← acceptSign "@" then decorated fuel read block; pure true
  else pure false

def statements (block : Reader Unit) : Reader (List Statement) := do
  if ← compound? fuel read block then pure [.other]
  else
    let choice : Reader (List Statement) := do
      patternChoice fuel read block
      pure [.other]
    if ← nextIs (isWord "match") then orElse choice (line fuel read) else line fuel read

def block : (depth : Nat) → Reader Unit
  | 0 => refuse
  | depth + 1 => do
    if ← accept isLineEnd then
      expect isIndent
      let _ ← statements fuel read (block depth)
      repeated (fun _ => do
        if ← accept isDedent then pure none
        else
          let _ ← statements fuel read (block depth)
          pure (some ())) fuel ()
    else
      let _ ← line fuel read
      pure ()

def program : Reader (List Statement) := do
  let found ← repeated (fun (found : List Statement) => fun ts =>
    match ts with
    | [] => some (none, [])
    | _ => (statements fuel read (block fuel read fuel) ts).map fun (more, rest) =>
      (some (more.reverse ++ found), rest)) fuel []
  pure found.reverse

def readAll? (s : String) : Option (List Statement) :=
  let fuel := 4 * s.length + 16
  match scan? s.toList with
  | some tokens => (program fuel (parse fuel) tokens).map (·.1)
  | none => none

end Statement

end EventSieve.Expression
