import EventSieve.Literal
import EventSieve.Proofs.Number.Reading
import EventSieve.Proofs.Results

/-!
# How literals are read

A sign and a word make a literal that is read as an integer: the word announces a base,
which is eight after a zero alone, and denotes a magnitude in it, and the sign is put in
front. `read_signed_eq_ok_iff` says this once, for all notations, with the bounds of 32
bits. A text that is not between quotes and holds a foreign character other than a point
is no literal of any kind.
-/

namespace EventSieve

namespace Literal

open Numeral

/-! ## The zero that announces base eight -/

theorem isWordChar_of_isOctalChar {c : Char} (h : isOctalChar c = true) : isWordChar c = true := by
  rw [isOctalChar, Bool.or_eq_true, Bool.and_eq_true, decide_eq_true_eq, decide_eq_true_eq] at h
  rcases h with ⟨hlow, hhigh⟩ | h
  · have hnine : '7' ≤ '9' := by decide
    have hc : c.isDigit = true :=
      Bool.and_eq_true_iff.mpr ⟨decide_eq_true hlow, decide_eq_true (Char.le_trans hhigh hnine)⟩
    simp [isWordChar, Char.isAlphanum, hc]
  · simp [isWordChar, h]

theorem mem_dropFinalBreak {c : Char} (hc : c ≠ '\n') {cs : List Char} (h : c ∈ cs) :
    c ∈ dropFinalBreak cs := by
  rw [dropFinalBreak]
  split
  · next hlast =>
    rw [← List.dropLast_append_getLast? '\n' hlast, List.mem_append, List.mem_singleton] at h
    exact h.resolve_right hc
  · exact h

theorem dropFinalBreak_of_not_mem {cs : List Char} (h : '\n' ∉ cs) : dropFinalBreak cs = cs := by
  rw [dropFinalBreak, if_neg]
  exact fun hlast => h (List.mem_of_getLast? hlast)

theorem afterZero?_eq_none {c : Char} (hoctal : isOctalChar c = false) (hbreak : c ≠ '\n')
    {cs : List Char} (h : c ∈ cs) : afterZero? cs = none := by
  have hmem := mem_dropFinalBreak hbreak h
  rw [afterZero?]
  split
  · next digits hdigits =>
    rw [hdigits] at hmem
    have hzero : c ≠ '0' := by
      rintro rfl
      cases hoctal
    have hall : digits.all isOctalChar = false := by
      rw [List.all_eq_false]
      exact ⟨c, List.mem_of_ne_of_mem hzero hmem, by simp [hoctal]⟩
    simp [hall]
  · rfl

theorem afterZero?_zero_cons {digits : List Char} (hne : digits ≠ [])
    (h : ∀ c ∈ digits, isOctalChar c = true) : afterZero? ('0' :: digits) = some digits := by
  have hbreak : '\n' ∉ '0' :: digits := by
    rw [List.mem_cons, not_or]
    refine ⟨by decide, fun hmem => ?_⟩
    exact absurd (h '\n' hmem) (by decide)
  rw [afterZero?, dropFinalBreak_of_not_mem hbreak]
  simp [hne, List.all_eq_true.mpr h]

theorem zeroOctal?_append {sign : String} (hsign : sign ∈ signs) {cs : List Char}
    (hcs : ∀ c ∈ cs, isWordChar c = true) :
    zeroOctal? (sign.toList ++ cs) = (afterZero? cs).map (sign.toList ++ ·) := by
  simp only [signs, List.mem_cons, List.not_mem_nil, or_false] at hsign
  rcases hsign with rfl | rfl | rfl
  · show zeroOctal? cs = (afterZero? cs).map id
    rw [Option.map_id_fun, id]
    rw [zeroOctal?.eq_def]
    split
    · next rest => exact absurd (hcs '+' List.mem_cons_self) (by decide)
    · next rest => exact absurd (hcs '-' List.mem_cons_self) (by decide)
    · rfl
  · rfl
  · rfl

theorem isOctalChar_of_afterZero? {cs digits : List Char} (h : afterZero? cs = some digits) :
    ∀ c ∈ digits, isOctalChar c = true := by
  rw [afterZero?] at h
  split at h
  · split at h
    · cases h
    · next hdigits =>
      cases h
      rw [not_or, Bool.not_eq_true', Bool.not_eq_false] at hdigits
      exact List.all_eq_true.mp hdigits.2
  · cases h

/-! ## Integers -/

/-- The magnitude that a word denotes in the base that it announces. -/
def magnitude (cs : List Char) : Except NumeralFault Nat :=
  match afterZero? cs with
  | some digits => readUnsigned 8 digits
  | none => readUnsigned 0 cs

def InRange (n : Int) : Prop := least ≤ n ∧ n ≤ greatest

instance (n : Int) : Decidable (InRange n) := inferInstanceAs (Decidable (_ ∧ _))

theorem readInBase_eq_ok_iff {base : Nat} {text : String} {n : Int} :
    readInBase base text = .ok n ↔ Numeral.read base text = .ok n ∧ InRange n := by
  rw [readInBase, InRange]
  cases Numeral.read base text with
  | error fault => simp
  | ok m =>
      simp only [Except.ok.injEq]
      constructor
      · intro h
        split at h
        · next hrange =>
          cases h
          exact ⟨rfl, hrange⟩
        · cases h
      · rintro ⟨rfl, hrange⟩
        rw [if_pos hrange]

/-- The numeral of a literal denotes its magnitude behind its sign. -/
theorem read_numeral_signed {sign : String} (hsign : sign ∈ signs) {cs : List Char}
    (hcs : ∀ c ∈ cs, isWordChar c = true) :
    Numeral.read (numeral (sign ++ String.ofList cs)).1 (numeral (sign ++ String.ofList cs)).2 =
      (magnitude cs).map (signed sign) := by
  rw [numeral, String.toList_append, String.toList_ofList, zeroOctal?_append hsign hcs, magnitude]
  cases hzero : afterZero? cs with
  | none => exact read_signed 0 hsign hcs
  | some digits =>
      have hdigits : ∀ c ∈ digits, isWordChar c = true := fun c hc =>
        isWordChar_of_isOctalChar (isOctalChar_of_afterZero? hzero c hc)
      have htext : String.ofList (sign.toList ++ digits) = sign ++ String.ofList digits := by
        rw [← String.toList_inj]
        simp
      show Numeral.read 8 (String.ofList (sign.toList ++ digits)) = _
      rw [htext, read_signed 8 hsign hdigits]

theorem read_eq_readInteger {token : String} (hne : token ≠ "")
    (hquote : unquote? token.toList = none) (hpoint : '.' ∉ token.toList) :
    read token = (readInteger token).map .int := by
  have hempty : token.isEmpty = false := by
    rw [← Bool.not_eq_true, String.isEmpty_iff]
    exact hne
  rw [read, hempty, hquote]
  simp [hpoint]

theorem unquote?_eq_none_of_head? {cs : List Char} (h : cs.head? ≠ some '"') :
    unquote? cs = none := by
  rw [unquote?.eq_def]
  split
  · exact absurd rfl h
  · rfl

/-- A sign and a word denote the magnitude of the word behind the sign, if that has 32 bits,
and nothing else. -/
theorem read_signed_eq_ok_iff {sign : String} (hsign : sign ∈ signs) {cs : List Char}
    (hcs : ∀ c ∈ cs, isWordChar c = true) (hne : cs ≠ []) {v : Value} :
    read (sign ++ String.ofList cs) = .ok v ↔
      ∃ m, magnitude cs = .ok m ∧ InRange (signed sign m) ∧ v = .int (signed sign m) := by
  have hchars : ∀ c ∈ (sign ++ String.ofList cs).toList, c ≠ '"' ∧ c ≠ '.' := by
    rw [String.toList_append, String.toList_ofList]
    intro c hc
    rcases List.mem_append.mp hc with hc | hc
    · rcases eq_of_mem_sign hsign hc with rfl | rfl <;> decide
    · exact ⟨ne_of_isWordChar (hcs c hc) (by decide), ne_of_isWordChar (hcs c hc) (by decide)⟩
  have htoken : sign ++ String.ofList cs ≠ "" := by
    rw [ne_eq, ← String.toList_eq_nil_iff]
    simp [hne]
  have hquote : unquote? (sign ++ String.ofList cs).toList = none := by
    apply unquote?_eq_none_of_head?
    exact fun hhead => (hchars _ (List.mem_of_head? hhead)).1 rfl
  have hpoint : '.' ∉ (sign ++ String.ofList cs).toList := fun hmem => (hchars _ hmem).2 rfl
  rw [read_eq_readInteger htoken hquote hpoint, Except.map_eq_ok_iff]
  simp only [readInteger, readInBase_eq_ok_iff, read_numeral_signed hsign hcs, Except.map_eq_ok_iff]
  constructor
  · rintro ⟨n, ⟨⟨m, hm, rfl⟩, hrange⟩, rfl⟩
    exact ⟨m, hm, hrange, rfl⟩
  · rintro ⟨m, hm, hrange, rfl⟩
    exact ⟨signed sign m, ⟨⟨m, hm, rfl⟩, hrange⟩, rfl⟩

/-! ## Texts that are no literals -/

theorem readInBase_of_read_eq_error {base : Nat} {text : String} {fault : NumeralFault}
    (h : Numeral.read base text = .error fault) :
    readInBase base text = .error (.notInteger base text fault) := by
  rw [readInBase, h]

theorem isOctalChar_of_isForeign {c : Char} (hc : IsForeign c) : isOctalChar c = false := by
  rw [← Bool.not_eq_true]
  intro h
  rw [isOctalChar, Bool.or_eq_true, Bool.and_eq_true, decide_eq_true_eq, decide_eq_true_eq,
    beq_iff_eq] at h
  rcases h with ⟨hlow, hhigh⟩ | h
  · have hnine : c ≤ '9' := Char.le_trans hhigh (by decide)
    have hdigit := hc.digit
    rw [digitValue?, if_pos ⟨hlow, hnine⟩] at hdigit
    cases hdigit
  · exact hc.underscore h

theorem zeroOctal?_eq_none {c : Char} (hc : IsForeign c) {cs : List Char} (h : c ∈ cs) :
    zeroOctal? cs = none := by
  have hbreak : c ≠ '\n' := by
    rintro rfl
    exact absurd hc.blank (by decide)
  have hafter : ∀ {ds : List Char}, c ∈ ds → afterZero? ds = none :=
    afterZero?_eq_none (isOctalChar_of_isForeign hc) hbreak
  rw [zeroOctal?.eq_def]
  split
  · rw [hafter (List.mem_of_ne_of_mem hc.sign.1 h), Option.map_none]
  · rw [hafter (List.mem_of_ne_of_mem hc.sign.2 h), Option.map_none]
  · exact hafter h

/-- A text that is not between quotes and holds a foreign character, other than a point, is no
literal. -/
theorem exists_read_eq_error {c : Char} (hc : IsForeign c) (hpoint : c ≠ '.') {token : String}
    (hmem : c ∈ token.toList) (hquote : unquote? token.toList = none) :
    ∃ fault, read token = .error fault := by
  obtain ⟨fault, hfault⟩ := hc.exists_read_eq_error 0 hmem
  rw [read, hquote]
  split
  · exact ⟨_, rfl⟩
  · dsimp only
    split
    · rw [Decimal.read?_eq_none hc hpoint hmem]
      exact ⟨_, rfl⟩
    · rw [readInteger, numeral, zeroOctal?_eq_none hc hmem, readInBase_of_read_eq_error hfault]
      exact ⟨_, rfl⟩

end Literal

end EventSieve
