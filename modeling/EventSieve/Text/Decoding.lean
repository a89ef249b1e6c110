import EventSieve.Text.Quoted

/-!
# Decoding byte strings

A byte string is read as a text in one of three encodings. Bytes that the encoding
has no character for are treated as the caller says: they end the reading, are left
out, are replaced by one character, are shown by their values, or become surrogates. In
the encoding of one to four bytes the longest beginning of a character counts as one such
run; a surrogate that is encoded like a character may be let pass.
-/

namespace EventSieve.Text

inductive Encoding where
  | utf8 | ascii | latin
deriving DecidableEq

/-- What becomes of bytes that are no character. -/
inductive Malformed where
  | failure | omission | replacement | escape | surrogates | passing
deriving DecidableEq

namespace Encoding

/-- A name of an encoding in lower case, with each run of other signs as one underscore. -/
def plainName (pending : Bool) : List Char → List Char
  | [] => []
  | c :: cs =>
    if c.isAlphanum || c == '.' then
      if pending then '_' :: c.toLower :: plainName false cs else c.toLower :: plainName false cs
    else plainName true cs

def named? (name : String) : Option Encoding :=
  let name := String.ofList ((plainName false name.toList).dropWhile (· == '_'))
  if ["utf_8", "utf8", "u8", "utf", "cp65001"].contains name then some utf8
  else if ["ascii", "us_ascii", "646", "us", "iso646_us"].contains name then some ascii
  else if ["latin_1", "latin1", "latin", "l1", "iso_8859_1", "iso8859_1", "8859", "iso8859",
      "cp819"].contains name then some latin
  else none

end Encoding

namespace Malformed

def named (name : String) : Malformed :=
  if name = "ignore" then omission
  else if name = "replace" then replacement
  else if name = "backslashreplace" then escape
  else if name = "surrogateescape" then surrogates
  else if name = "surrogatepass" then passing
  else failure

def treat? (m : Malformed) (run : List UInt8) : Option WideText :=
  match m with
  | failure | passing => none
  | omission => some []
  | replacement => some [.char '\uFFFD']
  | escape => some ((run.flatMap fun b => '\\' :: 'x' :: hexDigits 2 b.toNat).map .char)
  | surrogates => some (run.map fun b => .ofNat (0xDC00 + b.toNat))

end Malformed

/-- The number of bytes of a character that begins with a byte, and the range of the byte
after it; none if no character begins so. -/
def sequenceFrom? (b : Nat) : Option (Nat × Nat × Nat) :=
  if b < 0x80 then some (1, 0, 0)
  else if 0xC2 ≤ b ∧ b ≤ 0xDF then some (2, 0x80, 0xBF)
  else if b = 0xE0 then some (3, 0xA0, 0xBF)
  else if b = 0xED then some (3, 0x80, 0x9F)
  else if 0xE1 ≤ b ∧ b ≤ 0xEF then some (3, 0x80, 0xBF)
  else if b = 0xF0 then some (4, 0x90, 0xBF)
  else if 0xF1 ≤ b ∧ b ≤ 0xF3 then some (4, 0x80, 0xBF)
  else if b = 0xF4 then some (4, 0x80, 0x8F)
  else none

/-- The bytes at the front that continue a character, at most `count`, the first of them
in a given range. -/
def continuation : (count : Nat) → (low high : Nat) → List UInt8 → List UInt8
  | 0, _, _, _ => []
  | _ + 1, _, _, [] => []
  | count + 1, low, high, b :: bs =>
    if low ≤ b.toNat ∧ b.toNat ≤ high then b :: continuation count 0x80 0xBF bs else []

def assemble (size first : Nat) (more : List UInt8) : Char :=
  let top := if size = 1 then first else first % Nat.pow 2 (7 - size)
  Char.ofNat (more.foldl (fun n b => n * 64 + b.toNat % 64) top)

/-- A surrogate at the front that is encoded like a character, and the rest. -/
def encodedSurrogate? : List UInt8 → Option (CodePoint × List UInt8)
  | first :: b :: c :: rest =>
    if first = 0xED ∧ 0xA0 ≤ b ∧ b ≤ 0xBF ∧ 0x80 ≤ c ∧ c ≤ 0xBF then
      some (.ofNat (0xD000 + b.toNat % 64 * 64 + c.toNat % 64), rest)
    else none
  | _ => none

def decodeFirst? (m : Malformed) (b : UInt8) (bs : List UInt8) :
    Option (WideText × List UInt8) :=
  match if m = .passing then encodedSurrogate? (b :: bs) else none with
  | some (p, rest) => some ([p], rest)
  | none =>
    match sequenceFrom? b.toNat with
    | none => (m.treat? [b]).map (·, bs)
    | some (size, low, high) =>
      let more := continuation (size - 1) low high bs
      let rest := bs.drop more.length
      if more.length + 1 = size then some ([.char (assemble size b.toNat more)], rest)
      else (m.treat? (b :: more)).map (·, rest)

def decodeUtf8? (m : Malformed) : (fuel : Nat) → List UInt8 → Option WideText
  | _, [] => some []
  | 0, _ :: _ => none
  | fuel + 1, b :: bs => do
    let (cs, rest) ← decodeFirst? m b bs
    some (cs ++ (← decodeUtf8? m fuel rest))

def decode? (encoding : Encoding) (m : Malformed) (bytes : List UInt8) : Option WideText :=
  let char (b : UInt8) : CodePoint := .char (Char.ofNat b.toNat)
  match encoding with
  | .utf8 => decodeUtf8? m bytes.length bytes
  | .ascii =>
    (bytes.mapM fun b => if b < 128 then some [char b] else m.treat? [b]).map List.flatten
  | .latin => some (bytes.map char)

end EventSieve.Text
