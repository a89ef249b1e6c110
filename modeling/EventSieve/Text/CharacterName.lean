import EventSieve.Text.CharacterName.Alias
import EventSieve.Text.CharacterName.Alphabets
import EventSieve.Text.CharacterName.Ancient
import EventSieve.Text.CharacterName.Cuneiform
import EventSieve.Text.CharacterName.Hieroglyphs
import EventSieve.Text.CharacterName.Ideographs
import EventSieve.Text.CharacterName.Notation
import EventSieve.Text.CharacterName.Pictographs
import EventSieve.Text.CharacterName.Syllabaries
import EventSieve.Text.CharacterName.Symbols
import EventSieve.Text.Ranges

/-!
# Characters by name

Every character of Unicode has a name of its own, and some have further names. Three
kinds of names follow a rule: syllables of Hangul are spelled by their letters, and the
ideographs of a few scripts are numbered by their code points. All other names are
listed in rows. An entry of a row says how many words it shares with the entry before
it, and gives the words that follow; a word ends after a blank or a hyphen. An entry
belongs to the code point after that of the entry before it, unless it begins with a
code point of its own. The case of letters matters in names that follow a rule, but
not in those that are listed.
-/

namespace EventSieve.Text

namespace CharacterName

/-! ## Listed names -/

/-- The first words of a text, each with the blank or the hyphen after it. -/
def firstWords : (count : Nat) → List Char → List Char
  | 0, _ => []
  | _, [] => []
  | count + 1, c :: cs =>
    c :: if c = ' ' ∨ c = '-' then firstWords count cs else firstWords (count + 1) cs

/-- The code point and the name of an entry, after those of the entry before it. -/
def readEntry (code : Nat) (name entry : List Char) : Nat × List Char :=
  let mark := entry.takeWhile (· ≠ '=')
  let (code, body) :=
    match entry.drop mark.length with
    | _ :: body => (hexValue mark, body)
    | [] => (code + 1, entry)
  match body with
  | count :: rest => (code, firstWords (hexDigit count) name ++ rest)
  | [] => (code, [])

/-- The code point that entries give to a name; if they do not give any, the code point
and the name of the last entry. -/
def searchEntries (wanted : List Char) (code : Nat) (name : List Char) :
    List (List Char) → Except Nat (Nat × List Char)
  | [] => .ok (code, name)
  | entry :: entries =>
    let (code, name) := readEntry code name entry
    if name = wanted then .error code else searchEntries wanted code name entries

def searchRows (wanted : List Char) (code : Nat) (name : List Char) : List String → Option Nat
  | [] => none
  | row :: rows =>
    match searchEntries wanted code name (row.toList.splitOn ',') with
    | .error found => some found
    | .ok (code, name) => searchRows wanted code name rows

def listed? (name : List Char) : Option Nat :=
  [alphabets, syllabaries, symbols, ideographs, ancient, cuneiform, hieroglyphs, notations,
    pictographs, aliases].findSome? fun rows => searchRows name 0 [] rows

/-! ## Names that follow a rule -/

def leading : List String := [
  "G", "GG", "N", "D", "DD", "R", "M", "B", "BB", "S", "SS", "", "J", "JJ", "C", "K", "T", "P", "H"]

def vowels : List String := [
  "A", "AE", "YA", "YAE", "EO", "E", "YEO", "YE", "O", "WA", "WAE", "OE", "YO", "U", "WEO", "WE",
  "WI", "YU", "EU", "YI", "I"]

def trailing : List String := [
  "", "G", "GG", "GS", "N", "NJ", "NH", "D", "L", "LG", "LM", "LB", "LS", "LT", "LP", "LH", "M",
  "B", "BS", "S", "SS", "NG", "J", "C", "K", "T", "P", "H"]

def longest? (spellings : List String) (cs : List Char) : Option (Nat × List Char) :=
  let fitting := spellings.zipIdx.filter fun (s, _) => s.toList.isPrefixOf cs
  let best := fitting.foldl (fun (best : Option (String × Nat)) (s, i) =>
    match best with
    | some (t, _) => if t.length < s.length then some (s, i) else best
    | none => some (s, i)) none
  best.map fun (s, i) => (i, cs.drop s.length)

def syllable? (cs : List Char) : Option Nat := do
  let (l, cs) ← longest? leading cs
  let (v, cs) ← longest? vowels cs
  let (t, cs) ← longest? trailing cs
  if cs.isEmpty then some (0xAC00 + (l * vowels.length + v) * trailing.length + t) else none

/-- The ideographs whose names are the same but for the code point. -/
def unified : Ranges := .ofRows [
  "3400-4DBF 4E00-9FFF 20000-2A6DF 2A700-2B738 2B740-2B81D 2B820-2CEA1 2CEB0-2EBE0 30000-3134A"]

def ideograph? (digits : List Char) : Option Nat :=
  let isDigit (c : Char) : Bool := ('0' ≤ c && c ≤ '9') || ('A' ≤ c && c ≤ 'F')
  let n := hexValue digits
  if (digits.length = 4 ∨ digits.length = 5) ∧ digits.all isDigit ∧ unified.contains n then
    some n
  else none

/-- The scripts besides whose characters are numbered by their code points, with what
their names begin with. -/
def numbered : List (String × Ranges) := [
  ("CJK COMPATIBILITY IDEOGRAPH-", .ofRows ["F900-FA6D FA70-FAD9 2F800-2FA1D"]),
  ("NUSHU CHARACTER-", .ofRows ["1B170-1B2FB"]),
  ("KHITAN SMALL SCRIPT CHARACTER-", .ofRows ["18B00-18CD5"])]

def after? (start : String) (cs : List Char) : Option (List Char) :=
  if start.toList.isPrefixOf cs then some (cs.drop start.length) else none

/-- The code point of a character of the numbered scripts. A number has no zeros in front
of it. -/
def numbered? (name : List Char) : Option Nat :=
  numbered.findSome? fun (start, codes) =>
    (after? start name).bind fun digits =>
      let n := hexValue digits
      if Nat.toDigits 16 n = digits.map Char.toLower ∧ codes.contains n then some n else none

end CharacterName

open CharacterName

def codePointNamed? (name : List Char) : Option Nat :=
  match after? "HANGUL SYLLABLE " name with
  | some spelling => syllable? spelling
  | none =>
    match after? "CJK UNIFIED IDEOGRAPH-" name with
    | some digits => ideograph? digits
    | none =>
      let capitals := name.map Char.toUpper
      if name.isEmpty then none else (numbered? capitals).or (listed? capitals)

def characterNamed? (name : List Char) : Option Char := (codePointNamed? name).map Char.ofNat

end EventSieve.Text
