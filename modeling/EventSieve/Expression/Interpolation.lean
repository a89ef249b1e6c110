import EventSieve.Expression.Escape

/-!
# Pieces of interpolated texts

An interpolated text is divided at its braces into literal pieces and fields. A
field is the text of an expression, after which may stand an equals sign that
shows the expression itself, a conversion, and a format that is interpolated in
turn. Doubled braces outside formats are literal braces. The text of an expression
ends where a field can end outside all quotes and brackets; it has no backslash
and no comment.
-/

namespace EventSieve.Expression

open Text Numeral

inductive Piece where
  /-- A text with its escapes undone. -/
  | literal (text : WideText)
  /-- An expression by its text, and what it is to be formatted with. -/
  | field (source : List Char) (spec : Option (List Piece))

namespace Piece

def isFieldBlank (c : Char) : Bool := c == ' ' || c == '\t' || c == '\n' || c.toNat == 12

/-- What ends a literal: a doubled brace, of which one has been taken; a brace that
opens a field; a brace that closes a format; or the end of the text. -/
inductive LiteralEnd where
  | doubled | opening | closing | finished
deriving DecidableEq

/-- The literal at the front of an interpolated text, last character first, what ends
it, and what follows that. Within a format braces are not doubled. -/
def takeLiteral (raw inFormat : Bool) : (fuel : Nat) → (taken : List Char) → List Char →
    Option (List Char × LiteralEnd × List Char)
  | 0, _, _ :: _ => none
  | _, taken, [] => some (taken, .finished, [])
  | fuel + 1, taken, c :: cs =>
    if c = '\x7b' then
      if !inFormat ∧ cs.head? = some c then some (c :: taken, .doubled, cs.drop 1)
      else some (taken, .opening, cs)
    else if c = '\x7d' then
      if inFormat then some (taken, .closing, cs)
      else if cs.head? = some c then some (c :: taken, .doubled, cs.drop 1)
      else none
    else if c = '\\' ∧ !raw then
      match cs with
      | 'N' :: '\x7b' :: rest =>
        let name := rest.takeWhile (· ≠ '\x7d')
        let after := rest.drop name.length
        takeLiteral raw inFormat fuel
          ((after.take 1).reverse ++ name.reverse ++ '\x7b' :: 'N' :: c :: taken) (after.drop 1)
      | d :: rest =>
        if d = '\x7b' ∨ d = '\x7d' then takeLiteral raw inFormat fuel (c :: taken) cs
        else takeLiteral raw inFormat fuel (d :: c :: taken) rest
      | [] => some (c :: taken, .finished, [])
    else takeLiteral raw inFormat fuel (c :: taken) cs

/-- Where a scan of an expression stands: in a text between quotes, in which case the
quote is known and whether it is tripled, or outside of texts. -/
abbrev Quoting := Option (Char × Bool)

/-- The text of an expression at the front of a field, last character first, and the
rest, which begins with the sign that ends the expression. -/
def takeSource : (fuel : Nat) → Quoting → (brackets : List Char) → (taken : List Char) →
    List Char → Option (List Char × List Char)
  | 0, _, _, _, _ => none
  | _, _, _, _, [] => none
  | fuel + 1, quoting, brackets, taken, c :: cs =>
    if c = '\\' then none
    else
      match quoting with
      | some (quote, triple) =>
        if c = quote then
          if triple then
            match cs with
            | d :: e :: rest =>
              if d = c ∧ e = c then takeSource fuel none brackets (e :: d :: c :: taken) rest
              else takeSource fuel quoting brackets (c :: taken) cs
            | _ => takeSource fuel quoting brackets (c :: taken) cs
          else takeSource fuel none brackets (c :: taken) cs
        else takeSource fuel quoting brackets (c :: taken) cs
      | none =>
        if c = '\x27' ∨ c = '"' then
          match cs with
          | d :: e :: rest =>
            if d = c ∧ e = c then
              takeSource fuel (some (c, true)) brackets (e :: d :: c :: taken) rest
            else takeSource fuel (some (c, false)) brackets (c :: taken) cs
          | _ => takeSource fuel (some (c, false)) brackets (c :: taken) cs
        else if c = '(' then takeSource fuel none (')' :: brackets) (c :: taken) cs
        else if c = '[' then takeSource fuel none (']' :: brackets) (c :: taken) cs
        else if c = '\x7b' then takeSource fuel none ('\x7d' :: brackets) (c :: taken) cs
        else if c = '#' then none
        else if brackets.isEmpty ∧
            (c = '!' ∨ c = ':' ∨ c = '\x7d' ∨ c = '=' ∨ c = '<' ∨ c = '>') then
          if (c = '!' ∨ c = '=' ∨ c = '<' ∨ c = '>') ∧ cs.head? = some '=' then
            takeSource fuel none brackets ('=' :: c :: taken) (cs.drop 1)
          else if c = '<' ∨ c = '>' then takeSource fuel none brackets (c :: taken) cs
          else some (taken, c :: cs)
        else if c = ')' ∨ c = ']' ∨ c = '\x7d' then
          match brackets with
          | b :: bs => if b = c then takeSource fuel none bs (c :: taken) cs else none
          | [] => none
        else takeSource fuel none brackets (c :: taken) cs

def takeSelfText (cs : List Char) : List Char × List Char :=
  match cs with
  | '=' :: rest =>
    let blanks := rest.takeWhile isAsciiBlank
    ('=' :: blanks, rest.drop blanks.length)
  | _ => ([], cs)

/-- What follows a conversion, if there is one and it is known. -/
def dropConversion? (cs : List Char) : Option (List Char) :=
  match cs with
  | '!' :: c :: rest => if c = 's' ∨ c = 'r' ∨ c = 'a' then some rest else none
  | '!' :: [] => none
  | _ => some cs

mutual

/-- The pieces of an interpolated text, and the rest, which is empty outside of formats
and follows the closing brace of a format. -/
def scanPieces (raw : Bool) : (fuel depth : Nat) → List Char → Option (List Piece × List Char)
  | 0, _, _ => none
  | fuel + 1, depth, cs => do
    let (taken, stop, rest) ← takeLiteral raw (depth != 0) cs.length [] cs
    let text ← textOf? raw taken.reverse
    match stop with
    | .finished => if depth = 0 then some ([.literal text], []) else none
    | .closing => some ([.literal text], rest)
    | .doubled =>
      let (pieces, rest) ← scanPieces raw fuel depth rest
      some (.literal text :: pieces, rest)
    | .opening =>
      let (shown, rest) ← scanField raw fuel depth rest
      let (pieces, rest) ← scanPieces raw fuel depth rest
      some (.literal text :: shown ++ pieces, rest)

/-- A field whose opening brace has been read, as the literal that it shows and the
field itself. A format may have fields, but not a format of one of its fields. -/
def scanField (raw : Bool) : (fuel depth : Nat) → List Char → Option (List Piece × List Char)
  | 0, _, _ => none
  | fuel + 1, depth, cs => do
    let (taken, rest) ← if 2 ≤ depth then none else takeSource (cs.length + 1) none [] [] cs
    let source := taken.reverse
    let (selfText, rest) := takeSelfText rest
    let rest ← if source.all isFieldBlank then none else dropConversion? rest
    let shown : List Piece := 
      if selfText.isEmpty then [] else [.literal ((source ++ selfText).map .char)]
    match rest with
    | ':' :: rest =>
      let (spec, rest) ← scanPieces raw fuel (depth + 1) rest
      some (shown ++ [.field source (some spec)], rest)
    | '\x7d' :: rest => some (shown ++ [.field source none], rest)
    | _ => none

end

def scan? (raw : Bool) (cs : List Char) : Option (List Piece) :=
  (scanPieces raw (2 * cs.length + 2) 0 cs).map (·.1)

end Piece

end EventSieve.Expression
