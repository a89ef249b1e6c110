import EventSieve.Text.Blank

/-!
# Code points

A decoded text is a row of code points. Most of them are characters; the others are
surrogates, which stand for one half of a pair of 16-bit units. The two halves of a pair
are two code points where they came one by one, and one character once they are joined.
A surrogate is no blank and no mark of any kind; where only these matter, a text may be
replaced by its shadow, in which the replacement character stands for each surrogate.
-/

namespace EventSieve.Text

/-- A character, or one of the surrogates, of which the first 1024 open a pair and the others
close it. -/
inductive CodePoint where
  | char (c : Char)
  | surrogate (i : Fin 2048)
deriving DecidableEq

namespace CodePoint

def toNat : CodePoint → Nat
  | char c => c.toNat
  | surrogate i => 0xD800 + i

/-- The code point with a number; a number that is too large is that of no code point, and
gives the null character. -/
def ofNat (n : Nat) : CodePoint :=
  if h : 0xD800 ≤ n ∧ n < 0xE000 then surrogate ⟨n - 0xD800, by omega⟩ else char (Char.ofNat n)

def char? : CodePoint → Option Char
  | char c => some c
  | surrogate _ => none

def shadow : CodePoint → Char
  | char c => c
  | surrogate _ => '\uFFFD'

def isBlank (p : CodePoint) : Bool := Text.isBlank p.shadow

theorem ofNat_of_not_surrogate {n : Nat} (h : ¬ (0xD800 ≤ n ∧ n < 0xE000)) :
    ofNat n = char (Char.ofNat n) := dif_neg h

theorem ofNat_toNat (p : CodePoint) : ofNat p.toNat = p := by
  cases p with
  | char c =>
      have hvalid : c.toNat < 0xD800 ∨ 0xDFFF < c.toNat ∧ c.toNat < 0x110000 := c.valid
      rw [toNat, ofNat_of_not_surrogate (by omega), Char.ofNat_toNat]
  | surrogate i =>
      have hi : 0xD800 ≤ 0xD800 + (i : Nat) ∧ 0xD800 + (i : Nat) < 0xE000 := by omega
      have hback : 0xD800 + (i : Nat) - 0xD800 = i := by omega
      rw [toNat, ofNat, dif_pos hi]
      simp only [hback]

end CodePoint

/-- A text that may hold surrogates. -/
abbrev WideText := List CodePoint

def pairChar (i j : Fin 2048) : Char := Char.ofNat (0x10000 + i * 1024 + (j - 1024 : Nat))

namespace WideText

def ofString (s : String) : WideText := s.toList.map CodePoint.char

@[simp] theorem length_ofString (s : String) : (ofString s).length = s.length := by
  rw [ofString, List.length_map, String.length_toList]

@[simp] theorem ofString_inj {s t : String} : ofString s = ofString t ↔ s = t := by
  rw [ofString, ofString, List.map_inj_right fun _ _ => CodePoint.char.inj, String.toList_inj]

def string? (cs : WideText) : Option String :=
  (cs.mapM CodePoint.char?).map String.ofList

def shadow (cs : WideText) : List Char := cs.map CodePoint.shadow

def trim (cs : WideText) : WideText :=
  ((cs.dropWhile CodePoint.isBlank).reverse.dropWhile CodePoint.isBlank).reverse

/-- A text in which each row of characters between surrogates is replaced by another; `row` is
the row so far, last character first. -/
def mapRows (f : List Char → List Char) : (row : List Char) → WideText → WideText
  | row, [] => (f row.reverse).map CodePoint.char
  | row, .char c :: cs => mapRows f (c :: row) cs
  | row, .surrogate i :: cs =>
    (f row.reverse).map CodePoint.char ++ .surrogate i :: mapRows f [] cs

def joined : WideText → WideText
  | .surrogate i :: .surrogate j :: cs =>
    if i < 1024 ∧ 1024 ≤ j then .char (pairChar i j) :: joined cs
    else .surrogate i :: joined (.surrogate j :: cs)
  | p :: cs => p :: joined cs
  | [] => []

theorem joined_ofString (s : String) : joined (ofString s) = ofString s := by
  rw [ofString]
  induction s.toList with
  | nil => rfl
  | cons c cs ih => rw [List.map_cons, joined, ih]; rintro _ _ _ ⟨⟩

end WideText

end EventSieve.Text
