import EventSieve.Text.CodePoint
import EventSieve.Value.Text

/-!
# Log lines

An event is sent to the log as one line of JSON in printable ASCII characters. A
comma or colon is followed by a space; a code point beyond ASCII is written by its
16-bit units. Doubles that are no numbers have the names `NaN`, `Infinity` and
`-Infinity`. An event with an integer that is too long to be written has no line.
-/

namespace EventSieve.Value

open Text

def unitEscape (n : Nat) : List Char := '\\' :: 'u' :: hexDigits 4 n

def jsonChar (c : Char) : List Char :=
  if c = '"' ∨ c = '\\' then ['\\', c]
  else if c = '\n' then ['\\', 'n']
  else if c = '\r' then ['\\', 'r']
  else if c = '\t' then ['\\', 't']
  else if c.toNat = 12 then ['\\', 'f']
  else if c.toNat = 8 then ['\\', 'b']
  else if isPlainAscii c then [c]
  else if c.toNat < 0x10000 then unitEscape c.toNat
  else
    let n := c.toNat - 0x10000
    unitEscape (0xD800 + n / 1024) ++ unitEscape (0xDC00 + n % 1024)

def jsonCodePoint : CodePoint → List Char
  | .char c => jsonChar c
  | .surrogate i => unitEscape (0xD800 + i)

def jsonString (s : WideText) : List Char := '"' :: s.flatMap jsonCodePoint ++ ['"']

def jsonFloat (x : Float) : List Char :=
  match Binary64.exact x with
  | .undefined => "NaN".toList
  | .infinite negative => (if negative then "-Infinity" else "Infinity").toList
  | .finite _ => (Binary64.text x).toList

mutual

def json : Value WideText → List Char
  | null => "null".toList
  | bool b => (if b then "true" else "false").toList
  | int n => Decimal.integer n
  | float x => jsonFloat x
  | str s => jsonString s
  | list items => '[' :: jsonItems items ++ [']']
  | map fields => '\x7b' :: jsonFields fields ++ ['\x7d']

def jsonItems : List (Value WideText) → List Char
  | [] => []
  | [v] => json v
  | v :: w :: rest => json v ++ ',' :: ' ' :: jsonItems (w :: rest)

def jsonFields : List (WideText × Value WideText) → List Char
  | [] => []
  | [(k, v)] => jsonString k ++ ':' :: ' ' :: json v
  | (k, v) :: f :: rest =>
    jsonString k ++ ':' :: ' ' :: json v ++ ',' :: ' ' :: jsonFields (f :: rest)

end

/-- One line of text for each event, or why there is none. -/
def logLines (events : List (Fields WideText)) : Except String (List String) :=
  events.mapM fun event =>
    if (map event).isWritable then .ok (String.ofList (json (.map event)))
    else .error unwritableMessage

end EventSieve.Value
