import EventSieve.Text.Blank

/-!
# Environment files

An environment file sets one name on each line, after an optional `export`. A value
may stand between quotes, and then span lines and hold escapes; a value without
quotes ends where a comment begins. A name without an equals sign is set to nothing.
A line that does not read so is passed over. In every value a name between braces
after a dollar sign stands for the value of that name, from the lines above or else
from the environment, or for a default.
-/

namespace EventSieve.Dotenv

open Text

/-- A name and its value, which a line without an equals sign does not have. -/
abbrev Binding := String × Option String

def isInlineBlank (c : Char) : Bool := isBlank c && c != '\n'

def plainLines : List Char → List Char
  | [] => []
  | '\r' :: '\n' :: cs => '\n' :: plainLines cs
  | '\r' :: cs => '\n' :: plainLines cs
  | c :: cs => c :: plainLines cs

def dropLine (cs : List Char) : List Char := (cs.dropWhile (· ≠ '\n')).drop 1

/-! ## Values -/

/-- The text up to the first quote that no backslash precedes, and what follows the quote.
`last` is the character before. -/
def untilQuote? (quote last : Char) : List Char → Option (List Char × List Char)
  | [] => none
  | c :: cs =>
    if c = quote ∧ last ≠ '\\' then some ([], cs)
    else (untilQuote? quote c cs).map fun (body, rest) => (c :: body, rest)

def untilLastQuote? (quote : Char) : List Char → Option (List Char × List Char)
  | [] => none
  | c :: cs =>
    match untilLastQuote? quote cs with
    | some (body, rest) => some (c :: body, rest)
    | none => if c = quote then some ([], cs) else none

/-- The text between quotes, of which the first has been read. A quote after a backslash
closes the text only if no other quote does. -/
def quoted? (quote : Char) (cs : List Char) : Option (List Char × List Char) :=
  match untilQuote? quote ' ' cs with
  | some found => some found
  | none => untilLastQuote? quote cs

def escape? (c : Char) : Option Char :=
  if c = '\\' ∨ c = '\x27' ∨ c = '"' then some c
  else if c = 'a' then some '\x07'
  else if c = 'b' then some '\x08'
  else if c = 'f' then some '\x0c'
  else if c = 'n' then some '\n'
  else if c = 'r' then some '\r'
  else if c = 't' then some '\t'
  else if c = 'v' then some '\x0b'
  else none

def plainEscape? (c : Char) : Option Char := if c = '\\' ∨ c = '\x27' then some c else none

def unescape (escape : Char → Option Char) : List Char → List Char
  | '\\' :: c :: cs =>
    match escape c with
    | some d => d :: unescape escape cs
    | none => '\\' :: unescape escape (c :: cs)
  | c :: cs => c :: unescape escape cs
  | [] => []

/-- A value without quotes up to a comment, which blanks precede. -/
def cutComment : List Char → List Char
  | [] => []
  | c :: cs =>
    if isBlank c ∧ (cs.dropWhile isBlank).head? = some '#' then [] else c :: cutComment cs

/-- The value between quotes, of which the first has been read from the front of `cs`. -/
def between (cs : List Char) (quote : Char) (escape : Char → Option Char) (rest : List Char) :
    Except (List Char) (List Char × List Char) :=
  match quoted? quote rest with
  | some (body, rest) => .ok (unescape escape body, rest)
  | none => .error cs

/-- A value and what follows it; or, if a quote is not closed, what is left. -/
def value (cs : List Char) : Except (List Char) (List Char × List Char) :=
  match cs with
  | '\x27' :: rest => between cs '\x27' plainEscape? rest
  | '"' :: rest => between cs '"' escape? rest
  | cs =>
    let line := cs.takeWhile (· ≠ '\n')
    .ok (trimEnd (cutComment line), cs.drop line.length)

/-! ## Lines -/

def dropExport (cs : List Char) : List Char :=
  if "export".toList.isPrefixOf cs then
    let rest := cs.drop 6
    if (rest.head?.map isInlineBlank).getD false then rest.dropWhile isInlineBlank else cs
  else cs

/-- The name at the front of a line, if the line is no comment, and what follows it; or, if
there is no name, what is left. -/
def name (cs : List Char) : Except (List Char) (Option (List Char) × List Char) :=
  match cs with
  | '#' :: _ => .ok (none, cs)
  | '\x27' :: rest =>
    let body := rest.takeWhile (· ≠ '\x27')
    match body, rest.drop body.length with
    | _ :: _, _ :: rest => .ok (some body, rest)
    | _, _ => .error cs
  | cs =>
    let word := cs.takeWhile fun c => c ≠ '=' ∧ c ≠ '#' ∧ !isBlank c
    if word.isEmpty then .error cs else .ok (some word, cs.drop word.length)

def lineEnd (cs : List Char) : Except (List Char) (List Char) :=
  let rest := cs.dropWhile isInlineBlank
  let rest := if rest.head? = some '#' then rest.dropWhile (· ≠ '\n') else rest
  match rest with
  | [] => .ok []
  | '\n' :: rest => .ok rest
  | _ => .error cs

def bound (cs : List Char) : Except (List Char) (Option (List Char) × List Char) :=
  match cs.dropWhile isInlineBlank with
  | '=' :: rest => (value (rest.dropWhile isInlineBlank)).map fun (v, rest) => (some v, rest)
  | rest => .ok (none, rest)

/-- The binding of a line, if it is no comment, and what follows it; or what is left where
the line ceases to read. -/
def line (cs : List Char) : Except (List Char) (Option Binding × List Char) := do
  let (key, cs) ← name (dropExport cs)
  let (v, cs) ← bound cs
  let rest ← lineEnd cs
  .ok (key.map fun key => (String.ofList key, v.map String.ofList), rest)

/-- All bindings of a text, in order. The fuel bounds the number of lines. -/
def lines : (fuel : Nat) → List Char → List Binding
  | 0, _ => []
  | fuel + 1, cs =>
    match cs.dropWhile isBlank with
    | [] => []
    | cs =>
      match line cs with
      | .ok (binding, rest) => binding.toList ++ lines fuel rest
      | .error rest => lines fuel (dropLine rest)

/-! ## Names in values -/

/-- A name between braces with its default, of which the dollar sign and the first brace
have been read, and what follows. -/
def reference? (cs : List Char) : Option (List Char × List Char × List Char) :=
  let name := cs.takeWhile fun c => c ≠ '\x7d' ∧ c ≠ ':'
  match cs.drop name.length with
  | '\x7d' :: rest => some (name, [], rest)
  | ':' :: '-' :: rest =>
    let default := rest.takeWhile (· ≠ '\x7d')
    match rest.drop default.length with
    | _ :: rest => some (name, default, rest)
    | [] => none
  | _ => none

/-- A value with the names in it replaced. The fuel bounds their number. -/
def expand (lookup : String → Option (Option String)) : (fuel : Nat) → List Char → List Char
  | 0, cs => cs
  | fuel + 1, cs =>
    match cs with
    | [] => []
    | '$' :: '\x7b' :: rest =>
      match reference? rest with
      | some (name, default, rest) =>
        let found :=
          match lookup (String.ofList name) with
          | some v => (v.getD "").toList
          | none => default
        found ++ expand lookup fuel rest
      | none => '$' :: expand lookup fuel ('\x7b' :: rest)
    | c :: cs => c :: expand lookup fuel cs

/-- Bindings with one more: a name that is bound already keeps its place. -/
def bind (bindings : List Binding) (name : String) (v : Option String) : List Binding :=
  match bindings with
  | [] => [(name, v)]
  | (k, w) :: rest => if k = name then (k, v) :: rest else (k, w) :: bind rest name v

/-- Bindings with the names in their values replaced, each by the bindings before it. -/
def resolve (env : List (String × String)) (bindings : List Binding) : List Binding :=
  bindings.foldl (fun found (name, v) =>
    let lookup (key : String) : Option (Option String) :=
      match found.lookup key with
      | some w => some w
      | none => (env.lookup key).map some
    bind found name (v.map fun s => String.ofList (expand lookup (s.length + 1) s.toList))) []

def read (env : List (String × String)) (text : String) : List Binding :=
  let cs := plainLines text.toList
  resolve env (lines (cs.length + 1) cs)

end EventSieve.Dotenv
