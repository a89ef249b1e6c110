import EventSieve.Text.CodePoint
import EventSieve.Text.Printable

/-!
# Quoted text

The quoted form of a text stands between single quotes, or between double quotes
when the text has a single quote and no double one. The backslash, the quote in
use and the common controls have short escapes; other unprintable characters are
written by their code point, in the shortest of three widths.
-/

namespace EventSieve.Text

def hexDigitChar (d : Nat) : Char :=
  if d % 16 < 10 then Char.ofNat (48 + d % 16) else Char.ofNat (87 + d % 16)

def hexDigits : (width : Nat) → Nat → List Char
  | 0, _ => []
  | width + 1, n => hexDigits width (n / 16) ++ [hexDigitChar n]

/-- An unprintable character by its code point, in two, four or eight digits. -/
def codePointEscape (n : Nat) : List Char :=
  if n < 0x100 then '\\' :: 'x' :: hexDigits 2 n
  else if n < 0x10000 then '\\' :: 'u' :: hexDigits 4 n
  else '\\' :: 'U' :: hexDigits 8 n

/-- One character between quotes `quote`, shown as it is when `plain` says so. -/
def quotedChar (plain : Char → Bool) (quote c : Char) : List Char :=
  if c = quote ∨ c = '\\' then ['\\', c]
  else if c = '\n' then ['\\', 'n']
  else if c = '\r' then ['\\', 'r']
  else if c = '\t' then ['\\', 't']
  else if plain c then [c]
  else codePointEscape c.toNat

/-- The quote around a text: a single one, unless the text has a single quote and
no double one. -/
def quoteFor (cs : List Char) : Char :=
  if '\x27' ∈ cs ∧ '"' ∉ cs then '"' else '\x27'

/-- The quoted form of a text, in which the characters that `plain` accepts are
shown as they are. -/
def quotedChars (plain : Char → Bool) (cs : List Char) : List Char :=
  let quote := quoteFor cs
  quote :: cs.flatMap (quotedChar plain quote) ++ [quote]

def quoted (s : String) : String := String.ofList (quotedChars isPrintable s.toList)

def quotedCodePoint (quote : Char) : CodePoint → List Char
  | .char c => quotedChar isPrintable quote c
  | .surrogate i => codePointEscape (0xD800 + i)

def quotedWide (cs : WideText) : List Char :=
  let quote := quoteFor cs.shadow
  quote :: cs.flatMap (quotedCodePoint quote) ++ [quote]

def isPlainAscii (c : Char) : Bool := 32 ≤ c.toNat && c.toNat < 127

/-- The quoted form of a byte string: a text of Latin characters after the letter `b`. -/
def quotedBytes (bytes : List UInt8) : List Char :=
  'b' :: quotedChars isPlainAscii (bytes.map fun b => Char.ofNat b.toNat)

end EventSieve.Text
