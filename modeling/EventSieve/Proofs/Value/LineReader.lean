import EventSieve.Proofs.Number.Text
import EventSieve.Value.LogLine
import Mathlib.Tactic.SplitIfs
import Mathlib.Tactic.Ring

/-!
# Reading log lines

The reader of log lines undoes the writing. A text between double quotes is read by its
16-bit units; two that are the halves of a pair make one character. What is no text, list
or map is a token: it ends before the next comma or bracket, and its characters tell what it
is. An integer is signs and digits alone, and the text of a double has a character more.
-/

namespace EventSieve.Value

open Numeral Text

/-! ## Units -/

def utf16Units (p : CodePoint) : List Nat :=
  if p.toNat < 0x10000 then [p.toNat]
  else [0xD800 + (p.toNat - 0x10000) / 1024, 0xDC00 + (p.toNat - 0x10000) % 1024]

/-- The code points that units make up. -/
def ofUnits : List Nat → WideText
  | [] => []
  | [u] => [CodePoint.ofNat u]
  | u :: v :: units =>
    if (0xD800 ≤ u ∧ u < 0xDC00) ∧ 0xDC00 ≤ v ∧ v < 0xE000 then
      .char (Char.ofNat (0x10000 + (u - 0xD800) * 1024 + (v - 0xDC00))) :: ofUnits units
    else CodePoint.ofNat u :: ofUnits (v :: units)

theorem utf16Units_char (c : Char) :
    utf16Units (.char c) =
      if c.toNat < 0x10000 then [c.toNat]
      else [0xD800 + (c.toNat - 0x10000) / 1024, 0xDC00 + (c.toNat - 0x10000) % 1024] := rfl

theorem utf16Units_surrogate (i : Fin 2048) : utf16Units (.surrogate i) = [0xD800 + (i : Nat)] := by
  rw [utf16Units, if_pos]
  · rfl
  · rw [CodePoint.toNat]
    omega

theorem ofUnits_cons {u : Nat} {units : List Nat}
    (h : 0xD800 ≤ u ∧ u < 0xDC00 → ∀ v ∈ units.head?, ¬ (0xDC00 ≤ v ∧ v < 0xE000)) :
    ofUnits (u :: units) = CodePoint.ofNat u :: ofUnits units := by
  cases units with
  | nil => rfl
  | cons v units =>
      rw [ofUnits, if_neg]
      rintro ⟨hu, hv⟩
      exact h hu v rfl hv

/-- Two halves of a pair make up a character. -/
theorem ofUnits_pair (i j : Fin 2048) (h : i < 1024 ∧ 1024 ≤ j) (units : List Nat) :
    ofUnits ((0xD800 + (i : Nat)) :: (0xD800 + (j : Nat)) :: units) =
      .char (pairChar i j) :: ofUnits units := by
  have hi : (i : Nat) < 1024 := h.1
  have hj : 1024 ≤ (j : Nat) := h.2
  have hpair : 0x10000 + (0xD800 + (i : Nat) - 0xD800) * 1024 + (0xD800 + (j : Nat) - 0xDC00) =
      0x10000 + (i : Nat) * 1024 + ((j : Nat) - 1024) := by omega
  rw [ofUnits, if_pos (by omega), hpair, pairChar]

theorem not_low_of_mem_head? (c : Char) {units : List Nat} {u : Nat}
    (h : u ∈ (utf16Units (.char c) ++ units).head?) : ¬ (0xDC00 ≤ u ∧ u < 0xE000) := by
  have hvalid : c.toNat < 0xD800 ∨ 0xDFFF < c.toNat ∧ c.toNat < 0x110000 := c.valid
  rw [utf16Units_char] at h
  split at h
  · cases h
    omega
  · cases h
    omega

theorem ofUnits_char_append (c : Char) (units : List Nat) :
    ofUnits (utf16Units (.char c) ++ units) = .char c :: ofUnits units := by
  have hvalid : c.toNat < 0xD800 ∨ 0xDFFF < c.toNat ∧ c.toNat < 0x110000 := c.valid
  rw [utf16Units_char]
  split
  · rw [List.cons_append, List.nil_append, ofUnits_cons (by omega),
      CodePoint.ofNat_of_not_surrogate (by omega), Char.ofNat_toNat]
  · rw [List.cons_append, List.cons_append, List.nil_append, ofUnits, if_pos (by omega)]
    have hpair : 0x10000 + (0xD800 + (c.toNat - 0x10000) / 1024 - 0xD800) * 1024 +
        (0xDC00 + (c.toNat - 0x10000) % 1024 - 0xDC00) = c.toNat := by omega
    rw [hpair, Char.ofNat_toNat]

/-- The units of a text make up the text with its pairs joined. -/
theorem ofUnits_flatMap_utf16Units (cs : WideText) :
    ofUnits (cs.flatMap utf16Units) = cs.joined := by
  induction cs using WideText.joined.induct with
  | case1 i j cs hpair ih =>
      rw [WideText.joined, if_pos hpair, List.flatMap_cons, List.flatMap_cons,
        utf16Units_surrogate, utf16Units_surrogate, ← ih]
      exact ofUnits_pair i j hpair _
  | case2 i j cs hpair ih =>
      rw [WideText.joined, if_neg hpair, ← ih, List.flatMap_cons, utf16Units_surrogate,
        List.singleton_append, ofUnits_cons]
      · rw [← CodePoint.ofNat_toNat (.surrogate i)]
        rfl
      · intro hi v hv hlow
        rw [List.flatMap_cons, utf16Units_surrogate] at hv
        cases hv
        exact hpair ⟨by omega, by omega⟩
  | case3 p cs hne ih =>
      rw [WideText.joined, ← ih, List.flatMap_cons]
      · cases p with
        | char c => exact ofUnits_char_append c _
        | surrogate i =>
            rw [utf16Units_surrogate, List.singleton_append, ofUnits_cons]
            · rw [← CodePoint.ofNat_toNat (.surrogate i)]
              rfl
            · rintro - v hv
              cases cs with
              | nil => cases hv
              | cons q cs =>
                  cases q with
                  | surrogate j => exact absurd rfl (hne i j cs rfl)
                  | char d => exact not_low_of_mem_head? d hv
      · exact hne
  | case4 => rfl

/-! ## Hexadecimal digits -/

theorem hexDigitChar_mod (n : Nat) : hexDigitChar (n % 16) = hexDigitChar n := by
  rw [hexDigitChar, hexDigitChar, Nat.mod_mod]

theorem digitValue?_hexDigitChar (n : Nat) :
    digitValue? (hexDigitChar n) = some (n % 16) := by
  have hall : ∀ d < 16, digitValue? (hexDigitChar d) = some d := by decide
  rw [← hexDigitChar_mod]
  exact hall (n % 16) (Nat.mod_lt n (by decide))

theorem value_hexDigits (width n : Nat) :
    value 16 (hexDigits width n) = n % 16 ^ width := by
  induction width generalizing n with
  | zero => rw [pow_zero, Nat.mod_one]; rfl
  | succ width ih =>
      rw [hexDigits, value_concat, ih, digitValue?_hexDigitChar, Option.getD_some, pow_succ,
        mul_comm (16 ^ width) 16, Nat.mod_mul]
      omega

/-! ## Texts -/

def shortEscapes : List (Char × Nat) :=
  [('"', 34), ('\\', 92), ('n', 10), ('r', 13), ('t', 9), ('f', 12), ('b', 8)]

/-- The units of a text up to the double quote at its end, and what follows. -/
def readUnits? : List Char → Option (List Nat × List Char)
  | [] => none
  | '"' :: rest => some ([], rest)
  | '\\' :: 'u' :: a :: b :: c :: d :: rest =>
    (readUnits? rest).map (Prod.map (value 16 [a, b, c, d] :: ·) id)
  | '\\' :: c :: rest =>
    (shortEscapes.lookup c).bind fun unit => (readUnits? rest).map (Prod.map (unit :: ·) id)
  | c :: rest => (readUnits? rest).map (Prod.map (c.toNat :: ·) id)

def readText? (cs : List Char) : Option (WideText × List Char) :=
  (readUnits? cs).map (Prod.map ofUnits id)

theorem readUnits?_unitEscape {n : Nat} (hn : n < 0x10000) (rest : List Char) :
    readUnits? (unitEscape n ++ rest) = (readUnits? rest).map (Prod.map (n :: ·) id) := by
  have hvalue : value 16 (hexDigits 4 n) = n :=
    (value_hexDigits 4 n).trans (Nat.mod_eq_of_lt hn)
  conv_rhs => rw [← hvalue]
  rfl

theorem readUnits?_of_plain {c : Char} (hquote : c ≠ '"') (hbackslash : c ≠ '\\')
    (rest : List Char) :
    readUnits? (c :: rest) = (readUnits? rest).map (Prod.map (c.toNat :: ·) id) := by
  rw [readUnits?.eq_def]
  split
  · next h => cases h
  · next h => exact absurd (List.cons.inj h).1 hquote
  · next h => exact absurd (List.cons.inj h).1 hbackslash
  · next h => exact absurd (List.cons.inj h).1 hbackslash
  · next h =>
    cases h
    rfl

theorem readUnits?_jsonChar (c : Char) (rest : List Char) :
    readUnits? (jsonChar c ++ rest) =
      (readUnits? rest).map (Prod.map (utf16Units (.char c) ++ ·) id) := by
  have hvalid : c.toNat < 0xD800 ∨ 0xDFFF < c.toNat ∧ c.toNat < 0x110000 := c.valid
  rw [jsonChar]
  split_ifs with hspecial hnewline hreturn htab hfeed hback hplain hsmall
  · rcases hspecial with rfl | rfl <;> rfl
  · rw [hnewline]
    rfl
  · rw [hreturn]
    rfl
  · rw [htab]
    rfl
  · obtain rfl : c = Char.ofNat 12 := by rw [← hfeed, Char.ofNat_toNat]
    rfl
  · obtain rfl : c = Char.ofNat 8 := by rw [← hback, Char.ofNat_toNat]
    rfl
  · rw [isPlainAscii, Bool.and_eq_true, decide_eq_true_eq, decide_eq_true_eq] at hplain
    rw [not_or] at hspecial
    rw [utf16Units_char, if_pos (by omega)]
    exact readUnits?_of_plain hspecial.1 hspecial.2 rest
  · rw [utf16Units_char, if_pos hsmall]
    exact readUnits?_unitEscape hsmall rest
  · rw [utf16Units_char, if_neg hsmall, List.append_assoc, readUnits?_unitEscape (by omega),
      readUnits?_unitEscape (by omega), Option.map_map]
    rfl

theorem readUnits?_jsonCodePoint (p : CodePoint) (rest : List Char) :
    readUnits? (jsonCodePoint p ++ rest) =
      (readUnits? rest).map (Prod.map (utf16Units p ++ ·) id) := by
  cases p with
  | char c => exact readUnits?_jsonChar c rest
  | surrogate i =>
      rw [jsonCodePoint, readUnits?_unitEscape (by omega), utf16Units_surrogate]
      rfl

theorem readUnits?_flatMap_jsonCodePoint (cs : WideText) (rest : List Char) :
    readUnits? (cs.flatMap jsonCodePoint ++ '"' :: rest) =
      some (cs.flatMap utf16Units, rest) := by
  induction cs with
  | nil => rfl
  | cons p cs ih =>
      rw [List.flatMap_cons, List.append_assoc, readUnits?_jsonCodePoint, ih, List.flatMap_cons]
      rfl

/-- A text between double quotes is read as that text, with its pairs joined. -/
theorem readText?_jsonString (s : WideText) (rest : List Char) :
    readText? (s.flatMap jsonCodePoint ++ '"' :: rest) = some (s.joined, rest) := by
  rw [readText?, readUnits?_flatMap_jsonCodePoint, Option.map_some, Prod.map_apply,
    ofUnits_flatMap_utf16Units]
  rfl

/-! ## Tokens -/

def isStructural (c : Char) : Bool := c ∈ ['"', '[', ']', '\x7b', '\x7d', ',']

def readInteger? (cs : List Char) : Option Int :=
  let (negative, ds) := takeSign cs
  if ds.isEmpty ∨ !ds.all (isDigitOf 10) then none
  else some (if negative then -(value 10 ds : Int) else value 10 ds)

def readToken? (cs : List Char) : Option (Value WideText) :=
  if cs = "null".toList then some .null
  else if cs = "true".toList then some (.bool true)
  else if cs = "false".toList then some (.bool false)
  else
    match readInteger? cs with
    | some n => some (.int n)
    | none => (Decimal.read? (String.ofList cs)).map .float

theorem readInteger?_signedChars (negative : Bool) {c : Char} (hc : isDigitOf 10 c = true)
    (cs : List Char) :
    readInteger? (Decimal.signedChars negative (c :: cs)) =
      if (c :: cs).all (isDigitOf 10) then
        some (if negative then -(value 10 (c :: cs) : Int) else value 10 (c :: cs))
      else none := by
  simp only [readInteger?, Decimal.takeSign_signedChars negative hc, List.isEmpty_cons]
  cases (c :: cs).all (isDigitOf 10) with
  | false => rfl
  | true => rfl

/-! ### Integers -/

theorem integer_eq (n : Int) :
    Decimal.integer n = Decimal.signedChars (n < 0) (Decimal.digits n.natAbs) := by
  rw [Decimal.integer, Decimal.signedChars]
  simp only [decide_eq_true_eq]

theorem readInteger?_integer (n : Int) : readInteger? (Decimal.integer n) = some n := by
  have hdigits := Decimal.isDigitOf_of_mem_digits n.natAbs
  have hvalue := Decimal.value_digits n.natAbs
  obtain ⟨c, cs, hcs⟩ := List.exists_cons_of_ne_nil (Decimal.digits_ne_nil n.natAbs)
  rw [hcs] at hdigits hvalue
  rw [integer_eq, hcs, readInteger?_signedChars _ (hdigits c List.mem_cons_self),
    if_pos (List.all_eq_true.mpr hdigits), hvalue]
  simp only [decide_eq_true_eq, Option.some.injEq]
  split <;> omega

theorem mem_numberChars_of_mem_integer (n : Int) :
    ∀ c ∈ Decimal.integer n, c ∈ Decimal.numberChars := by
  rw [integer_eq]
  exact Decimal.mem_numberChars_of_mem_signedChars _
    (Decimal.mem_numberChars_of_digits (Decimal.isDigitOf_of_mem_digits _))

/-! ### Doubles -/

section Finite

variable {x : Float} (hfinite : Binary64.exponentField x ≠ 2047)

include hfinite

theorem mem_numberChars_of_mem_text : ∀ c ∈ (Binary64.text x).toList, c ∈ Decimal.numberChars := by
  obtain ⟨d, -, htext⟩ := Decimal.exists_text_eq hfinite
  rw [htext]
  exact Decimal.mem_numberChars_of_mem_signedChars _
    (Decimal.mem_numberChars_of_mem_layout (Decimal.isDigitOf_of_mem_digits _) _)

/-- The text of a double is not the text of an integer. -/
theorem readInteger?_text : readInteger? (Binary64.text x).toList = none := by
  obtain ⟨d, -, htext⟩ := Decimal.exists_text_eq hfinite
  generalize ((Decimal.digits d.coefficient).length : Int) + d.exponent = point at htext
  obtain ⟨c, cs, hlayout, hc⟩ := Decimal.exists_layout_eq_cons
    (Decimal.isDigitOf_of_mem_digits _) point (Decimal.digits_ne_nil d.coefficient)
  obtain ⟨e, he, hdigit⟩ := Decimal.exists_mem_layout_not_digit
    (Decimal.digits d.coefficient) point
  rw [hlayout] at htext he
  have hall : (c :: cs).all (isDigitOf 10) = false := by
    rw [List.all_eq_false]
    exact ⟨e, he, by rw [hdigit]; exact Bool.false_ne_true⟩
  rw [htext, readInteger?_signedChars _ hc, hall, if_neg Bool.false_ne_true]

end Finite

/-! ### Scalars -/

theorem readToken?_of_numberChars {cs : List Char} (h : ∀ c ∈ cs, c ∈ Decimal.numberChars) :
    readToken? cs =
      match readInteger? cs with
      | some n => some (.int n)
      | none => (Decimal.read? (String.ofList cs)).map .float := by
  have hne : ∀ c ∉ Decimal.numberChars, ∀ word, c ∈ word → cs ≠ word := by
    rintro c hc word hmem rfl
    exact hc (h c hmem)
  rw [readToken?, if_neg (hne 'l' (by decide) _ (by decide)),
    if_neg (hne 'r' (by decide) _ (by decide)), if_neg (hne 'l' (by decide) _ (by decide))]

def isScalar : Value WideText → Bool
  | null | bool _ | int _ | float _ => true
  | str _ | list _ | map _ => false

/-- The text of a scalar is a token that denotes it. -/
theorem readToken?_json {v : Value WideText} (h : v.isScalar = true) :
    readToken? (json v) = some v := by
  cases v with
  | null => rfl
  | bool b =>
      cases b with
      | false => rfl
      | true => rfl
  | int n =>
      rw [json, readToken?_of_numberChars (mem_numberChars_of_mem_integer n), readInteger?_integer]
  | float x =>
      rw [json, jsonFloat]
      cases hexact : Binary64.exact x with
      | undefined =>
          rw [Binary64.eq_undefined_of_isUndefined (beq_iff_eq.mpr hexact)]
          rfl
      | infinite negative =>
          rw [Binary64.eq_infinity_of_exact hexact]
          cases negative with
          | false => rfl
          | true => rfl
      | finite q =>
          have hfinite := Binary64.exponentField_ne_of_exact hexact
          dsimp only
          rw [readToken?_of_numberChars (mem_numberChars_of_mem_text hfinite),
            readInteger?_text hfinite, String.ofList_toList, Decimal.read?_text hfinite]
          rfl
  | str s => cases h
  | list items => cases h
  | map fields => cases h

def isTokenChar (c : Char) : Bool := isPlainAscii c && !isStructural c

theorem isTokenChar_of_mem_numberChars {c : Char} (h : c ∈ Decimal.numberChars) :
    isTokenChar c = true := by
  have hall : Decimal.numberChars.all isTokenChar = true := by decide
  exact List.all_eq_true.mp hall c h

theorem isTokenChar_of_mem_json {v : Value WideText} (h : v.isScalar = true) :
    ∀ c ∈ json v, isTokenChar c = true := by
  rw [← List.all_eq_true]
  cases v with
  | null => rfl
  | bool b =>
      cases b with
      | false => rfl
      | true => rfl
  | int n =>
      rw [json, List.all_eq_true]
      exact fun c hc => isTokenChar_of_mem_numberChars (mem_numberChars_of_mem_integer n c hc)
  | float x =>
      rw [json, jsonFloat]
      cases hexact : Binary64.exact x with
      | undefined => rfl
      | infinite negative =>
          cases negative with
          | false => rfl
          | true => rfl
      | finite q =>
          rw [List.all_eq_true]
          exact fun c hc => isTokenChar_of_mem_numberChars
            (mem_numberChars_of_mem_text (Binary64.exponentField_ne_of_exact hexact) c hc)
  | str s => cases h
  | list items => cases h
  | map fields => cases h

theorem json_ne_nil_of_isScalar {v : Value WideText} (h : v.isScalar = true) : json v ≠ [] := by
  intro hnil
  have hread := readToken?_json h
  rw [hnil] at hread
  have hnone : readToken? [] = none := rfl
  rw [hnone] at hread
  cases hread

/-! ## Values -/

/-- A row up to the bracket at its end, and what follows. Where nothing can be read there may be
no parts at all. -/
def readRow? {α : Type} (read? : List Char → Option (α × List Char)) (close : Char) :
    (fuel : Nat) → List Char → Option (List α × List Char)
  | 0, _ => none
  | fuel + 1, cs =>
    match read? cs with
    | some (a, ',' :: ' ' :: rest) =>
      (readRow? read? close fuel rest).map (Prod.map (a :: ·) id)
    | some (a, rest) => if rest.head? = some close then some ([a], rest.tail) else none
    | none => if cs.head? = some close then some ([], cs.tail) else none

def readField? (read? : List Char → Option (Value WideText × List Char)) :
    List Char → Option ((WideText × Value WideText) × List Char)
  | '"' :: cs =>
    match readText? cs with
    | some (key, ':' :: ' ' :: rest) => (read? rest).map (Prod.map (key, ·) id)
    | _ => none
  | _ => none

/-- A value at the front, and what follows; `fuel` bounds the depth. -/
def readValue? : (fuel : Nat) → List Char → Option (Value WideText × List Char)
  | 0, _ => none
  | fuel + 1, cs =>
    match cs with
    | '"' :: cs => (readText? cs).map (Prod.map .str id)
    | '[' :: cs => (readRow? (readValue? fuel) ']' cs.length cs).map (Prod.map .list id)
    | '\x7b' :: cs =>
      (readRow? (readField? (readValue? fuel)) '\x7d' cs.length cs).map (Prod.map .map id)
    | cs =>
      (readToken? (cs.takeWhile isTokenChar)).map fun v => (v, cs.dropWhile isTokenChar)

def readLine? (line : String) : Option (Fields WideText) :=
  match readValue? line.toList.length line.toList with
  | some (.map fields, []) => some fields
  | _ => none

end EventSieve.Value
