import EventSieve.Expression.Tree
import EventSieve.Number.Numeral
import EventSieve.Text.CharacterName

/-!
# Escapes in texts

A backslash in a text begins an escape: a line break that is left out, a control
character, a character by its octal or hexadecimal code point, or one by its name.
A backslash before any other character stands for itself. The escapes of byte
strings are the same less those for characters beyond a byte.
-/

namespace EventSieve.Expression

open Text Numeral

def simpleEscape? (c : Char) : Option Char :=
  if c = '\\' ∨ c = '\x27' ∨ c = '"' then some c
  else if c = 'n' then some '\n'
  else if c = 't' then some '\t'
  else if c = 'r' then some '\r'
  else if c = 'b' then some '\x08'
  else if c = 'f' then some '\x0c'
  else if c = 'v' then some '\x0b'
  else if c = 'a' then some '\x07'
  else none

def isOctalDigit (c : Char) : Bool := '0' ≤ c && c ≤ '7'

/-- A number of exactly `count` hexadecimal digits, and the rest. -/
def takeHex? (count : Nat) (cs : List Char) : Option (Nat × List Char) :=
  let digits := cs.take count
  if digits.length = count ∧ digits.all (isDigitOf 16) then
    some (value 16 digits, cs.drop count)
  else none

def codePoint? (n : Nat) : Option CodePoint := if n < 0x110000 then some (.ofNat n) else none

/-- A character by its name between braces, and the rest. -/
def takeNamed? : List Char → Option (Char × List Char)
  | '\x7b' :: cs =>
    let name := cs.takeWhile (· ≠ '\x7d')
    match cs.drop name.length with
    | _ :: rest => (characterNamed? name).map (·, rest)
    | [] => none
  | _ => none

def escape? (cs : List Char) : Option (WideText × List Char) :=
  match cs with
  | [] => some ([.char '\\'], [])
  | '\n' :: rest => some ([], rest)
  | c :: rest =>
    match simpleEscape? c with
    | some d => some ([.char d], rest)
    | none =>
      if isOctalDigit c then
        let digits := (cs.take 3).takeWhile isOctalDigit
        some ([.ofNat (value 8 digits)], cs.drop digits.length)
      else
        let width? : Option Nat :=
          if c = 'x' then some 2 else if c = 'u' then some 4
          else if c = 'U' then some 8 else none
        match width? with
        | some width =>
          (takeHex? width rest).bind fun (n, rest) => (codePoint? n).map fun p => ([p], rest)
        | none =>
          if c = 'N' then (takeNamed? rest).map fun (d, rest) => ([.char d], rest)
          else some ([.char '\\', .char c], rest)

/-- The text that characters with escapes denote, after what has already been found, last
first. Every step takes a character, so that the number of characters is fuel enough. -/
def unescapeFrom : (fuel : Nat) → (found : WideText) → List Char → Option WideText
  | _, found, [] => some found.reverse
  | 0, _, _ :: _ => none
  | fuel + 1, found, c :: cs =>
    if c = '\\' then
      match escape? cs with
      | some (denoted, rest) => unescapeFrom fuel (denoted.reverse ++ found) rest
      | none => none
    else unescapeFrom fuel (.char c :: found) cs

def unescape? (cs : List Char) : Option WideText := unescapeFrom cs.length [] cs

def byteEscape? (cs : List Char) : Option (List Char × List Char) :=
  match cs with
  | [] => some (['\\'], [])
  | '\n' :: rest => some ([], rest)
  | c :: rest =>
    match simpleEscape? c with
    | some d => some ([d], rest)
    | none =>
      if isOctalDigit c then
        let digits := (cs.take 3).takeWhile isOctalDigit
        some ([Char.ofNat (value 8 digits % 256)], cs.drop digits.length)
      else if c = 'x' then
        (takeHex? 2 rest).map fun (n, rest) => ([Char.ofNat n], rest)
      else some (['\\', c], rest)

def unescapeBytesFrom : (fuel : Nat) → (found : List Char) → List Char → Option (List Char)
  | _, found, [] => some found.reverse
  | 0, _, _ :: _ => none
  | fuel + 1, found, c :: cs =>
    if c = '\\' then
      match byteEscape? cs with
      | some (denoted, rest) => unescapeBytesFrom fuel (denoted.reverse ++ found) rest
      | none => none
    else unescapeBytesFrom fuel (c :: found) cs

def bytes? (raw : Bool) (cs : List Char) : Option (List UInt8) :=
  if cs.all (·.toNat < 128) then
    (if raw then some cs else unescapeBytesFrom cs.length [] cs).map fun cs =>
      cs.map fun c => UInt8.ofNat c.toNat
  else none

def textOf? (raw : Bool) (cs : List Char) : Option WideText :=
  if raw then some (cs.map .char) else unescape? cs

end EventSieve.Expression
