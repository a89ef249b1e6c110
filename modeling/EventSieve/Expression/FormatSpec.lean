import EventSieve.Expression.Arithmetic
import EventSieve.Text.Digit

/-!
# Formats of fields

A format says how a field of an interpolated text is laid out: a fill and an
alignment, a sign, a least width, a sign between groups of digits, a precision and
a style. `formatOperand?` lays out numbers and texts by a format; other operands
have only the empty one.
-/

namespace EventSieve.Expression

open Text

structure FormatSpec where
  fill : CodePoint
  align : Option Char
  sign : Option Char
  plainZero : Bool
  alternate : Bool
  width : Nat
  separator : Option Char
  precision : Option Nat
  style : Option Char

namespace FormatSpec

def isAlign (c : Char) : Bool := c == '<' || c == '>' || c == '=' || c == '^'

def alignAt? : WideText → Option Char
  | .char c :: _ => if isAlign c then some c else none
  | _ => none

def takeAlign (cs : WideText) : Option CodePoint × Option Char × WideText :=
  match alignAt? (cs.drop 1) with
  | some align => (cs.head?, some align, cs.drop 2)
  | none =>
    match alignAt? cs with
    | some align => (none, some align, cs.drop 1)
    | none => (none, none, cs)

def takeOne (choices : List Char) (cs : List Char) : Option Char × List Char :=
  match cs with
  | c :: rest => if choices.contains c then (some c, rest) else (none, cs)
  | [] => (none, [])

def takeNumber (cs : List Char) : Option Nat × List Char :=
  let digits := cs.takeWhile fun c => (decimalValue? c).isSome
  if digits.isEmpty then (none, cs)
  else
    (some (digits.foldl (fun n c => n * 10 + (decimalValue? c).getD 0) 0), cs.drop digits.length)

/-- The widest field. A wider one exceeds the length that a piece of text may have. -/
def maxWidth : Nat := 100000

def maySeparate (separator : Char) (style : Option Char) : Bool :=
  match style with
  | none => true
  | some c =>
    ['d', 'e', 'f', 'g', 'E', 'G', '%', 'F'].contains c ||
      (separator == '_' && ['b', 'o', 'x', 'X'].contains c)

/-- The format that a text denotes, for operands that are aligned to the right or to the
left where the format does not say, and whose style is the one given. A surrogate can be
nothing but the fill. -/
def read? (rightAligned : Bool) (defaultStyle : Option Char) (cs : WideText) :
    Option FormatSpec := do
  let (fill, align, cs) := takeAlign cs
  let cs ← cs.mapM CodePoint.char?
  let (sign, cs) := takeOne [' ', '+', '-'] cs
  let (plainZero, cs) := takeOne ['z'] cs
  let (alternate, cs) := takeOne ['#'] cs
  let (zeroFill, cs) := if fill.isNone then takeOne ['0'] cs else (none, cs)
  let align := if zeroFill.isSome && align.isNone && rightAligned then some '=' else align
  let (width, cs) := takeNumber cs
  let (comma, cs) := takeOne [','] cs
  let (underscore, cs) := takeOne ['_'] cs
  let separator := if comma.isSome then comma else underscore
  let (precision, cs) ←
    match cs with
    | '.' :: rest =>
      match takeNumber rest with
      | (some n, rest) => some (some n, rest)
      | (none, _) => none
    | _ => some (none, cs)
  let style ←
    match cs with
    | [] => some defaultStyle
    | [c] => some (some c)
    | _ => none
  let separated :=
    match separator with
    | some c => maySeparate c style
    | none => true
  if (comma.isSome && underscore.isSome) || !separated || maxWidth < width.getD 0 then none
  else
    some {
      fill := (fill <|> zeroFill.map CodePoint.char).getD (.char ' '), align := align, sign := sign,
      plainZero := plainZero.isSome, alternate := alternate.isSome, width := width.getD 0,
      separator := separator, precision := precision, style := style }

def pad (f : FormatSpec) (default : Char) (cs : WideText) : WideText :=
  let room := f.width - cs.length
  let align := f.align.getD default
  let before := if align = '>' then room else if align = '^' then room / 2 else 0
  List.replicate before f.fill ++ cs ++ List.replicate (room - before) f.fill

/-- Digits, last first, in groups of a size with a separator between them. `left` is the
number of digits that the last group still takes. -/
def groupDigits (separator : Char) (size : Nat) : (left : Nat) → List Char → List Char
  | _, [] => []
  | left, d :: ds =>
    match left with
    | 0 => separator :: d :: groupDigits separator size (size - 1) ds
    | left + 1 => d :: groupDigits separator size left ds

def groupedDigits (separator : Option Char) (size least : Nat) (digits : List Char) : List Char :=
  match separator with
  | none => List.replicate (least - digits.length) '0' ++ digits
  | some c =>
    let grouped (zeros : Nat) : List Char :=
      (groupDigits c size size (digits.reverse ++ List.replicate zeros '0')).reverse
    -- the first number of zeros that reaches the width; a separator does not come first
    let counts := List.range (least + 1)
    match counts.find? fun zeros => least ≤ (grouped zeros).length with
    | some zeros => grouped zeros
    | none => grouped 0

/-- A number in a field: its sign, what stands before its digits, the digits of its
whole part, and what stands after them. -/
def padNumber (f : FormatSpec) (negative : Bool) (before digits : List Char)
    (after : WideText) : WideText :=
  let sign := if negative then ['-'] else f.sign.toList.filter (· ≠ '-')
  let size := if f.style.any fun c => ['b', 'o', 'x', 'X'].contains c then 4 else 3
  let inner := f.align = some '='
  let taken := sign.length + before.length + after.length
  let least := if inner && f.fill = .char '0' then f.width - taken else 0
  let body := groupedDigits f.separator size least digits
  if inner then
    let room := f.width - taken - body.length
    (sign ++ before).map .char ++ List.replicate room f.fill ++ body.map .char ++ after
  else f.pad '>' ((sign ++ before ++ body).map .char ++ after)

def baseDigits (base n : Nat) : List Char := Nat.toDigits base n

def formatText? (s cs : WideText) : Option WideText := do
  let f ← read? false (some 's') cs
  if f.style ≠ some 's' ∨ f.sign.isSome ∨ f.plainZero ∨ f.alternate ∨
      f.align = some '=' then none
  else
    some (f.pad '<' (match f.precision with | some n => s.take n | none => s))

def layout? (f : FormatSpec) (default : Nat) : Option FloatLayout :=
  let precision := f.precision.getD default
  let layout (style : FloatStyle) (wholePoint capitals : Bool) : FloatLayout :=
    ⟨style, precision, f.alternate, wholePoint, f.plainZero, capitals⟩
  match f.style with
  | none =>
    some (if f.precision.isSome then layout .general true false else layout .shortest true false)
  | some c =>
    if c = 'e' ∨ c = 'E' then some (layout .scientific false (c == 'E'))
    else if c = 'f' ∨ c = 'F' ∨ c = '%' then some (layout .fixed false (c == 'F'))
    else if c = 'g' ∨ c = 'G' ∨ c = 'n' then some (layout .general false (c == 'G'))
    else none

def splitWhole (cs : List Char) : List Char × List Char :=
  let isDigit (c : Char) : Bool := '0' ≤ c && c ≤ '9'
  (cs.takeWhile isDigit, cs.dropWhile isDigit)

def formatFloatAs? (f : FormatSpec) (x : Float) : Option WideText := do
  let percent := f.style = some '%'
  let l ← f.layout? 6
  if maxWidth < l.precision ∧ (l.style = .fixed ∨ l.style = .scientific) then none
  else
    let (negative, body) := l.write (if percent then x * 100 else x)
    let (digits, rest) := splitWhole body
    some (f.padNumber negative [] digits ((if percent then rest ++ ['%'] else rest).map .char))

def formatFloat? (x : Float) (cs : WideText) : Option WideText := do
  formatFloatAs? (← read? true none cs) x

def formatInt? (n : Int) (cs : WideText) : Option WideText := do
  let f ← read? true (some 'd') cs
  let style := f.style.getD 'd'
  if ['e', 'E', 'f', 'F', 'g', 'G', '%'].contains style then
    formatFloatAs? f (← Binary64.ofInt? n)
  else if f.precision.isSome ∨ f.plainZero then none
  else
    let inBase (base : Nat) (mark : List Char) : Option WideText :=
      some (f.padNumber (n < 0) (if f.alternate then mark else []) (baseDigits base n.natAbs) [])
    if style = 'd' ∨ style = 'n' then
      if Value.longInteger ≤ n.natAbs then none
      else some (f.padNumber (n < 0) [] (Decimal.digits n.natAbs) [])
    else if style = 'b' then inBase 2 ['0', 'b']
    else if style = 'o' then inBase 8 ['0', 'o']
    else if style = 'x' then inBase 16 ['0', 'x']
    else if style = 'X' then
      some (f.padNumber (n < 0) (if f.alternate then ['0', 'X'] else [])
        ((baseDigits 16 n.natAbs).map Char.toUpper) [])
    else if style = 'c' then
      if f.sign.isSome ∨ f.alternate ∨ n < 0 ∨ 0x10FFFF < n then none
      else some (f.padNumber false [] [] [CodePoint.ofNat n.toNat])
    else none

def formatPart (f : FormatSpec) (l : FloatLayout) (sign : Option Char) (x : Float) : WideText :=
  let (negative, body) := l.write x
  let (digits, rest) := splitWhole body
  padNumber { f with sign := sign, width := 0, align := none } negative [] digits
    (rest.map .char)

def formatComplex? (z : Complex) (cs : WideText) : Option WideText := do
  let f ← read? true none cs
  if f.fill = .char '0' ∨ f.align = some '=' ∨ f.style = some '%' then none
  else
    let l ← f.layout? 6
    let l := { l with wholePoint := false }
    if maxWidth < l.precision then none
    else
      let im := formatPart f l (some '+') z.im ++ [.char 'j']
      let body :=
        if f.style.isNone then
          if z.isImaginary then formatPart f l f.sign z.im ++ [.char 'j']
          else .char '(' :: formatPart f l f.sign z.re ++ im ++ [.char ')']
        else formatPart f l f.sign z.re ++ im
      some (f.pad '>' body)

end FormatSpec

namespace Operand

/-- An operand in a format without braces. -/
def formatChars? (m : Memory) (o : Operand) (cs : WideText) : Option WideText :=
  if cs.isEmpty then o.text? m
  else
    match o with
    | value (.str s) _ => FormatSpec.formatText? s cs
    | value (.int n) _ => FormatSpec.formatInt? n cs
    | value (.bool b) _ => FormatSpec.formatInt? (if b then 1 else 0) cs
    | value (.float x) _ => FormatSpec.formatFloat? x cs
    | complex z => FormatSpec.formatComplex? z cs
    | _ => none

def halveBraces? : WideText → Option WideText
  | [] => some []
  | p :: cs =>
    if p = .char '\x7b' ∨ p = .char '\x7d' then
      match cs with
      | q :: rest => if q = p then (halveBraces? rest).map (p :: ·) else none
      | [] => none
    else (halveBraces? cs).map (p :: ·)

/-- An operand in a format. A closing brace ends the format: what follows it, up to the
brace that would have closed the field, is literal text. -/
def format? (m : Memory) (o : Operand) (cs : WideText) : Option WideText :=
  let spec := cs.takeWhile fun p => p ≠ .char '\x7b' ∧ p ≠ .char '\x7d'
  match cs.drop spec.length with
  | [] => o.formatChars? m spec
  | .char '\x7d' :: rest => do
    let shown ← o.formatChars? m spec
    some (shown ++ (← halveBraces? (rest ++ [.char '\x7d'])))
  | _ => none

end Operand

end EventSieve.Expression
