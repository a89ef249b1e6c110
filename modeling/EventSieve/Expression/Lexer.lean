import EventSieve.Expression.Numbers
import EventSieve.Expression.Token

/-!
# From text to tokens

`scan?` divides a text into tokens, or fails where no token begins. Line breaks
inside brackets and blank lines count for nothing; a backslash joins two lines.
The blanks before the first token of a line are its indent, and the indents of
open blocks are a stack that every line has to fit.
-/

namespace EventSieve.Expression

open Text

/-- All line breaks as the single character for one, and one at the end. The pair says
whether the character after was a line feed. -/
def normalBreaks (cs : List Char) : List Char :=
  let step (c : Char) (state : Bool × List Char) : Bool × List Char :=
    if c = '\r' then (false, if state.1 then state.2 else '\n' :: state.2)
    else (c == '\n', c :: state.2)
  let lines := (cs.foldr step (false, [])).2
  if lines.getLast? = some '\n' then lines else lines ++ ['\n']

def isLineBlank (c : Char) : Bool := c == ' ' || c == '\t' || c.toNat == 12

/-- How far in a line begins, with tabs to the next eighth column and with tabs as one
column; a backslash before a line break fixes the columns for what follows. -/
def takeIndent : (fixed : Option Nat) → (column tabless : Nat) → List Char →
    Option (Nat × Nat × List Char)
  | fixed, column, tabless, ' ' :: cs => takeIndent fixed (column + 1) (tabless + 1) cs
  | fixed, column, tabless, '\t' :: cs => takeIndent fixed ((column / 8 + 1) * 8) (tabless + 1) cs
  | fixed, column, tabless, '\\' :: cs =>
    match cs with
    | '\n' :: next :: rest =>
      let kept := match fixed with
        | some n => if n = 0 then column else n
        | none => column
      takeIndent (some kept) column tabless (next :: rest)
    | _ => none
  | fixed, column, tabless, c :: cs =>
    if c.toNat = 12 then takeIndent fixed 0 0 cs
    else
      match fixed with
      | some n => if n = 0 then some (column, tabless, c :: cs) else some (n, n, c :: cs)
      | none => some (column, tabless, c :: cs)
  | _, _, _, [] => some (0, 0, [])

/-- The tokens for a line that begins at a column, and the indents that are open then. -/
def openIndents (column tabless : Nat) (indents : List (Nat × Nat)) :
    Option (List Token × List (Nat × Nat)) :=
  let (top, topTabless) := indents.headD (0, 0)
  if column = top then
    if tabless = topTabless then some ([], indents) else none
  else if top < column then
    if 99 ≤ indents.length ∨ tabless ≤ topTabless then none
    else some ([.indent], (column, tabless) :: indents)
  else
    let closed := indents.takeWhile fun (c, _) => column < c
    let left := indents.drop closed.length
    let (base, baseTabless) := left.headD (0, 0)
    if base = column ∧ baseTabless = tabless then some (closed.map fun _ => .dedent, left)
    else none

/-- The characters of a text up to its closing quotes, last first, and what follows
them. A backslash keeps the character after it. -/
def takeText (quote : Char) (triple : Bool) (taken : List Char) :
    List Char → Option (List Char × List Char)
  | [] => none
  | '\\' :: c :: cs => takeText quote triple (c :: '\\' :: taken) cs
  | c :: cs =>
    if c = quote then
      if triple then
        match cs with
        | d :: e :: rest =>
          if d = quote ∧ e = quote then some (taken, rest)
          else takeText quote triple (c :: taken) cs
        | _ => none
      else some (taken, cs)
    else if c = '\n' ∧ !triple then none
    else takeText quote triple (c :: taken) cs

def scanText? (form : TextForm) (quote : Char) (cs : List Char) : Option (Token × List Char) :=
  match cs with
  | c :: d :: rest =>
    if c = quote ∧ d = quote then
      (takeText quote true [] rest).map fun (body, r) => (.text form body.reverse, r)
    else if c = quote then some (.text form [], d :: rest)
    else (takeText quote false [] cs).map fun (body, r) => (.text form body.reverse, r)
  | _ => none

/-- What the letters before a quote say, if they may stand there. -/
def textForm? (letters : List Char) : Option TextForm :=
  match letters.map Char.toLower with
  | [] | ['u'] => some ⟨false, false, false⟩
  | ['r'] => some ⟨true, false, false⟩
  | ['b'] => some ⟨false, true, false⟩
  | ['f'] => some ⟨false, false, true⟩
  | ['b', 'r'] | ['r', 'b'] => some ⟨true, true, false⟩
  | ['f', 'r'] | ['r', 'f'] => some ⟨true, false, true⟩
  | _ => none

def scanWord? (cs : List Char) : Option (Token × List Char) :=
  let word := cs.takeWhile isWordChar
  let rest := cs.drop word.length
  let plain : Option (Token × List Char) :=
    if word.all (·.toNat < 128) ∨ isIdentifier word then some (.word (String.ofList word), rest)
    else none
  match rest, textForm? word with
  | q :: after, some form => if q = '"' ∨ q = '\x27' then scanText? form q after else plain
  | _, _ => plain

def scanSign? (cs : List Char) : Option (String × List Char) :=
  (Token.signs.find? fun sign => sign.toList.isPrefixOf cs).map fun sign =>
    (sign, cs.drop sign.length)

def closer? (sign : String) : Option String :=
  if sign = "(" then some ")" else if sign = "[" then some "]"
  else if sign = "\x7b" then some "\x7d" else none

/-- The brackets that are open after a sign: a closing one has to fit the last that was
opened, and at most two hundred are open. -/
def openBrackets (sign : String) (brackets : List String) : Option (List String) :=
  match closer? sign with
  | some closing => if 200 ≤ brackets.length then none else some (closing :: brackets)
  | none =>
    if sign = ")" ∨ sign = "]" ∨ sign = "\x7d" then
      match brackets with
      | [] => none
      | b :: bs => if b = sign then some bs else none
    else some brackets

def scanToken? (cs : List Char) : Option (Token × List Char) :=
  match cs with
  | [] => none
  | c :: rest =>
    if isAsciiDigit c then (scanNumber? cs).map fun (n, r) => (.number n, r)
    else if isWordChar c then scanWord? cs
    else if c = '"' ∨ c = '\x27' then scanText? ⟨false, false, false⟩ c rest
    else if c = '.' ∧ (rest.head?.map isAsciiDigit).getD false then
      (scanNumber? cs).map fun (n, r) => (.number n, r)
    else (scanSign? cs).map fun (s, r) => (.sign s, r)

mutual

def scanLine : (fuel : Nat) → List String → List (Nat × Nat) → List Token → List Char →
    Option (List Token)
  | 0, _, _, _, _ => none
  | fuel + 1, brackets, indents, found, cs =>
    match takeIndent none 0 0 cs with
    | none => none
    | some (_, _, []) =>
      if brackets.isEmpty then some (indents.map (fun _ => Token.dedent) ++ found).reverse
      else none
    | some (column, tabless, c :: rest) =>
      if c = '#' ∨ c = '\n' then scanRest fuel true brackets indents found (c :: rest)
      else if !brackets.isEmpty then scanRest fuel false brackets indents found (c :: rest)
      else
        match openIndents column tabless indents with
        | none => none
        | some (tokens, indents) =>
          scanRest fuel false brackets indents (tokens ++ found) (c :: rest)

/-- The tokens from within a line on. A blank line has no end of its own. -/
def scanRest : (fuel : Nat) → (isBlankLine : Bool) → List String → List (Nat × Nat) →
    List Token → List Char → Option (List Token)
  | 0, _, _, _, _, _ => none
  | fuel + 1, isBlankLine, brackets, indents, found, cs =>
    let cs := cs.dropWhile isLineBlank
    let cs := if cs.head? = some '#' then cs.dropWhile (· ≠ '\n') else cs
    match cs with
    | [] => scanLine fuel brackets indents found []
    | '\n' :: rest =>
      if isBlankLine || !brackets.isEmpty then scanLine fuel brackets indents found rest
      else scanLine fuel brackets indents (.lineEnd :: found) rest
    | '\\' :: '\n' :: c :: rest => scanRest fuel isBlankLine brackets indents found (c :: rest)
    | _ =>
      match scanToken? cs with
      | none => none
      | some (.sign sign, rest) =>
        match openBrackets sign brackets with
        | none => none
        | some brackets => scanRest fuel false brackets indents (.sign sign :: found) rest
      | some (token, rest) => scanRest fuel false brackets indents (token :: found) rest

end

/-- The tokens of a text. Every step takes a character or ends a line, so that twice
the length of the text is fuel enough. -/
def scan? (cs : List Char) : Option (List Token) :=
  let cs := normalBreaks cs
  scanLine (2 * cs.length + 2) [] [] [] cs

end EventSieve.Expression
