import EventSieve.Expression.FormatSpec
import EventSieve.Expression.Sequence
import EventSieve.Number.Numeral

/-!
# Directives in texts

A directive is a percent sign with flags, a width, a precision and a style, and it
stands for an operand. A text has one argument, which one directive takes; a
directive with a key in parentheses takes a field of the argument instead. An
argument that nothing takes is a failure, unless it has items itself. Byte strings
have directives too, read as texts of Latin characters.
-/

namespace EventSieve.Expression

open Text

structure Directive where
  leftAligned : Bool
  plusSign : Bool
  blankSign : Bool
  alternate : Bool
  zeroFill : Bool
  width : Nat
  precision : Option Nat
  style : Char

namespace Directive

/-- What stands for an operand in a directive, before it is laid out: a number in three
parts, or a text, which has only the last of them. -/
structure Shown where
  negative : Bool
  mark : List Char
  body : WideText
  isNumber : Bool

namespace Shown

def ofText (cs : WideText) : Shown := ⟨false, [], cs, false⟩

end Shown

def maxFill : Nat := 10 ^ 8

/-! ## Reading -/

def flag? (d : Directive) (c : Char) : Option Directive :=
  if c = '-' then some { d with leftAligned := true }
  else if c = '+' then some { d with plusSign := true }
  else if c = ' ' then some { d with blankSign := true }
  else if c = '#' then some { d with alternate := true }
  else if c = '0' then some { d with zeroFill := true }
  else none

def takeFlags (d : Directive) : WideText → Directive × WideText
  | [] => (d, [])
  | p :: cs =>
    match p.char?.bind d.flag? with
    | some d => takeFlags d cs
    | none => (d, p :: cs)

/-- A width or a precision of at most a bound, if there is one: digits, or a star that
takes the argument. -/
def takeCount? (bound : Nat) (cs : WideText) (argument : Option Operand) :
    Option (Option Int × WideText × Option Operand) :=
  match cs with
  | .char '*' :: rest => do
    let n ← (← argument).int?
    if bound < n.natAbs then none else some (some n, rest, none)
  | cs =>
    let digits := cs.takeWhile fun p => p.char?.any fun c => '0' ≤ c && c ≤ '9'
    let n := Numeral.value 10 (WideText.shadow digits)
    if digits.isEmpty then some (none, cs, argument)
    else if bound < n then none
    else some (some n, cs.drop digits.length, argument)

def takePrecision? (cs : WideText) (argument : Option Operand) :
    Option (Option Nat × WideText × Option Operand) :=
  match cs with
  | .char '.' :: rest => do
    let (n, rest, argument) ← takeCount? (2 ^ 31 - 1) rest argument
    some (some (n.getD 0).toNat, rest, argument)
  | cs => some (none, cs, argument)

def dropSize : WideText → WideText
  | .char c :: cs => if c = 'h' ∨ c = 'l' ∨ c = 'L' then cs else .char c :: cs
  | cs => cs

/-- A directive, what follows it, and the argument if the directive did not take it for
its width or its precision. -/
def take? (cs : WideText) (argument : Option Operand) :
    Option (Directive × WideText × Option Operand) := do
  let (d, cs) := takeFlags ⟨false, false, false, false, false, 0, none, ' '⟩ cs
  let (width, cs, argument) ← takeCount? (2 ^ 63 - 1) cs argument
  let (precision, cs, argument) ← takePrecision? cs argument
  let width := width.getD 0
  let d := { d with
    leftAligned := d.leftAligned || width < 0, width := width.natAbs, precision := precision }
  match dropSize cs with
  | .char style :: rest => some ({ d with style := style }, rest, argument)
  | _ => none

def takeKey? : (depth : Nat) → WideText → Option (WideText × WideText)
  | _, [] => none
  | depth, p :: cs =>
    if p = .char ')' then
      match depth with
      | 0 => some ([], cs)
      | depth + 1 => (takeKey? depth cs).map fun (key, rest) => (p :: key, rest)
    else
      (takeKey? (if p = .char '(' then depth + 1 else depth) cs).map fun (key, rest) =>
        (p :: key, rest)

/-! ## Showing -/

def truncated? (o : Operand) : Option Int :=
  match o.number? with
  | some (.int n) => some n
  | some (.float x) => Binary64.toInt? x
  | _ => none

def integer? (d : Directive) (n : Int) (mark digits : List Char) : Option Shown :=
  let zeros := d.precision.getD 0 - digits.length
  if maxFill < zeros then none
  else
    let body := List.replicate zeros '0' ++ digits
    some ⟨n < 0, if d.alternate then mark else [], body.map .char, true⟩

def showInteger? (d : Directive) (o : Operand) : Option Shown :=
  if d.style = 'o' then do
    let n ← o.int?
    d.integer? n ['0', 'o'] (FormatSpec.baseDigits 8 n.natAbs)
  else if d.style = 'x' then do
    let n ← o.int?
    d.integer? n ['0', 'x'] (FormatSpec.baseDigits 16 n.natAbs)
  else if d.style = 'X' then do
    let n ← o.int?
    d.integer? n ['0', 'X'] ((FormatSpec.baseDigits 16 n.natAbs).map Char.toUpper)
  else do
    let n ← truncated? o
    if Value.longInteger ≤ n.natAbs then none
    else d.integer? n [] (Decimal.digits n.natAbs)

def showFloat? (d : Directive) (style : FloatStyle) (capitals : Bool) (o : Operand) :
    Option Shown := do
  let x ← (← o.number?).float?
  let precision := d.precision.getD 6
  if maxFill < precision then none
  else
    let layout : FloatLayout := ⟨style, precision, d.alternate, false, false, capitals⟩
    let (negative, body) := layout.write x
    some ⟨negative, [], body.map .char, true⟩

def codePoint? (o : Operand) : Option CodePoint :=
  match o with
  | .value (.str s) _ =>
    match s with
    | [p] => some p
    | _ => none
  | o => do
    let n ← o.int?
    if 0 ≤ n ∧ n ≤ 0x10FFFF then some (.ofNat n.toNat) else none

def byte? (o : Operand) : Option CodePoint :=
  match o with
  | .bytes [b] => some (.ofNat b.toNat)
  | o => do
    let n ← o.int?
    if 0 ≤ n ∧ n < 256 then some (.ofNat n.toNat) else none

def asciiForm? (m : Memory) (o : Operand) : Option WideText :=
  (o.written? m).map fun s =>
    (s.flatMap fun c => if c.toNat < 128 then [c] else codePointEscape c.toNat).map .char

def truncate (d : Directive) (cs : WideText) : WideText :=
  match d.precision with
  | some n => cs.take n
  | none => cs

def showNumber? (d : Directive) (o : Operand) : Option Shown :=
  if ['d', 'i', 'u', 'o', 'x', 'X'].contains d.style then d.showInteger? o
  else if d.style = 'e' ∨ d.style = 'E' then d.showFloat? .scientific (d.style == 'E') o
  else if d.style = 'f' ∨ d.style = 'F' then d.showFloat? .fixed (d.style == 'F') o
  else if d.style = 'g' ∨ d.style = 'G' then d.showFloat? .general (d.style == 'G') o
  else none

def showInText? (m : Memory) (d : Directive) (o : Operand) : Option Shown :=
  if d.style = 's' then (o.text? m).map fun s => .ofText (d.truncate s)
  else if d.style = 'r' then (o.written? m).map fun s => .ofText (d.truncate (s.map .char))
  else if d.style = 'a' then (asciiForm? m o).map fun s => .ofText (d.truncate s)
  else if d.style = 'c' then (codePoint? o).map fun p => .ofText [p]
  else d.showNumber? o

def showInBytes? (m : Memory) (d : Directive) (o : Operand) : Option Shown :=
  if d.style = 's' ∨ d.style = 'b' then
    match o with
    | .bytes b => some (.ofText (d.truncate (b.map fun b => .ofNat b.toNat)))
    | _ => none
  else if d.style = 'r' ∨ d.style = 'a' then
    (asciiForm? m o).map fun s => .ofText (d.truncate s)
  else if d.style = 'c' then (byte? o).map fun p => .ofText [p]
  else d.showNumber? o

/-- What a directive shows, in its width. Zeros go between a number's sign and its
digits, and blanks on either side of the whole. -/
def layOut? (d : Directive) (s : Shown) : Option WideText :=
  let sign :=
    if !s.isNumber then []
    else if s.negative then ['-']
    else if d.plusSign then ['+']
    else if d.blankSign then [' ']
    else []
  let front : WideText := (sign ++ s.mark).map .char
  let room := d.width - (front.length + s.body.length)
  if maxFill < room then none
  else if d.leftAligned then some (front ++ s.body ++ List.replicate room (.char ' '))
  else if d.zeroFill && s.isNumber then some (front ++ List.replicate room (.char '0') ++ s.body)
  else some (List.replicate room (.char ' ') ++ front ++ s.body)

end Directive

/-! ## Filling in -/

/-- A text in which directives are filled in, and its argument. -/
structure Fill where
  isBytes : Bool
  argument : Operand

namespace Fill

/-- Whether the argument may be left over: it has items itself. -/
def mayBeLeft (f : Fill) : Bool :=
  match f.argument with
  | .value (.list _) _ | .value (.map _) _ | .alternatives _ => true
  | .bytes _ => !f.isBytes
  | _ => false

def field? (f : Fill) (key : WideText) : Option Operand :=
  match f.argument with
  | .value (.map fields) o =>
    if f.isBytes then none
    else Operand.item? (.value (.map fields) o) (.ofText key)
  | _ => none

/-- A part of the text that is filled in: its text, and the operand that has exactly this
text and stands for it. -/
structure Part where
  text : WideText
  whole : Option Operand

/-- The operand whose text a directive shows unchanged: the argument itself if it is a
text, and otherwise a new one. -/
def whole? (f : Fill) (d : Directive) (o : Operand) (text : WideText) : Option Operand :=
  if f.isBytes || !(['s', 'r', 'a'].contains d.style) then none
  else
    match o with
    | .value (.str s) origin =>
      if d.style = 's' && s = text then some (.value (.str s) origin)
      else some (.value (.str text) .unshared)
    | _ => some (.value (.str text) .unshared)

def show? (m : Memory) (f : Fill) (d : Directive) (o : Operand) : Option Part := do
  let shown ← (if f.isBytes then d.showInBytes? m o else d.showInText? m o)
  let text ← d.layOut? shown
  some ⟨text, f.whole? d o text⟩

/-- What a directive is about, and what follows its key: the field under a key in parentheses,
or else the argument. -/
def subject? (f : Fill) (cs : WideText) (argument : Option Operand) :
    Option (WideText × Option Operand) :=
  match cs with
  | .char '(' :: rest =>
    match Directive.takeKey? 0 rest with
    | some (key, rest) => (f.field? key).map fun o => (rest, some o)
    | none => none
  | cs => some (cs, argument)

/-- A part that a directive fills, what follows it, and the argument if it is still there.
A directive in the style of the percent sign shows this sign. -/
def directive? (m : Memory) (f : Fill) (cs : WideText) (argument : Option Operand) :
    Option (Part × WideText × Option Operand) := do
  let (cs, argument) ← f.subject? cs argument
  let (d, rest, argument) ← Directive.take? cs argument
  if d.style = '%' ∧ !f.isBytes then some (⟨[.char '%'], none⟩, rest, argument)
  else
    let part ← f.show? m d (← argument)
    some (part, rest, none)

/-- The parts of a text with its directives filled in. The fuel bounds their number. -/
def parts? (m : Memory) (f : Fill) : (fuel : Nat) → WideText → Option Operand → Option (List Part)
  | 0, _, _ => none
  | _ + 1, [], argument => if argument.isSome && !f.mayBeLeft then none else some []
  | fuel + 1, p :: cs, argument =>
    if p ≠ .char '%' then
      let literal := (p :: cs).takeWhile (· ≠ .char '%')
      (f.parts? m fuel ((p :: cs).drop literal.length) argument).map (⟨literal, none⟩ :: ·)
    else
      match f.isBytes, cs with
      | true, .char '%' :: rest =>
        (f.parts? m fuel rest argument).map (⟨[.char '%'], none⟩ :: ·)
      | _, cs =>
        match f.directive? m cs argument with
        | some (part, rest, argument) => (f.parts? m fuel rest argument).map (part :: ·)
        | none => none

/-- The operand that parts make up: the last one if all others are empty and it stands
for an operand, and otherwise a new text. -/
def combine (parts : List Part) : Operand :=
  let text := parts.flatMap Part.text
  match parts.getLast? with
  | some last =>
    match last.whole with
    | some o => if last.text.length = text.length then o else .ofText text
    | none => .ofText text
  | none => .ofText []

end Fill

namespace Operand

def fillText? (m : Memory) (s : WideText) (origin : Origin) (argument : Operand) :
    Option Operand := do
  let parts ← Fill.parts? m ⟨false, argument⟩ (s.length + 1) s (some argument)
  if s.contains (.char '%') then some (Fill.combine parts) else some (value (.str s) origin)

def fillBytes? (m : Memory) (b : List UInt8) (argument : Operand) : Option Operand := do
  let cs : WideText := b.map fun b => .ofNat b.toNat
  let parts ← Fill.parts? m ⟨true, argument⟩ (cs.length + 1) cs (some argument)
  some (bytes ((parts.flatMap Fill.Part.text).map fun p => UInt8.ofNat p.toNat))

/-- The remainder of two numbers, or a text with its directives filled in. -/
def remainder? (m : Memory) (a b : Operand) : Option Operand :=
  match a with
  | value (.str s) o => fillText? m s o b
  | bytes bs => fillBytes? m bs b
  | a => a.mod? b

end Operand

end EventSieve.Expression
