import EventSieve.Proofs.Literal.Octal

/-!
# Spellings of integers

An integer is spelled in decimal, in base sixteen, eight or two behind an announcement, or
in base eight behind a zero alone. The digits are those that the number is printed with,
letters in either case; behind an announcement zeros may come first. Each spelling of an
integer of 32 bits is read as that integer, and each spelling of any other integer is
refused, however long it is: so spellings of one number in different bases are the same
literal, and spellings of two numbers never are.
-/

namespace EventSieve.Literal

open Numeral

/-! ## Spellings -/

def baseLetters : List (Char × Nat) :=
  [('x', 16), ('X', 16), ('o', 8), ('O', 8), ('b', 2), ('B', 2)]

/-- The digits of a number in a base, in either case, behind any number of zeros. -/
def IsDigitsOf (base m : Nat) (cs : List Char) : Prop :=
  ∃ zeros digits, cs = List.replicate zeros '0' ++ digits ∧
    digits.map Char.toLower = Nat.toDigits base m

/-- A text that spells a natural number: in decimal, behind a zero and a letter, or behind a
zero alone. -/
inductive SpellsMagnitude (m : Nat) : List Char → Prop
  | decimal : SpellsMagnitude m (Nat.toDigits 10 m)
  | announced {letter : Char} {base : Nat} {digits : List Char} :
      (letter, base) ∈ baseLetters → IsDigitsOf base m digits →
        SpellsMagnitude m ('0' :: letter :: digits)
  | zero {digits : List Char} : IsDigitsOf 8 m digits → SpellsMagnitude m ('0' :: digits)

def signsOf (n : Int) : List String := if n < 0 then ["-"] else ["", "+"]

def Spells (n : Int) (token : String) : Prop :=
  ∃ sign cs, sign ∈ signsOf n ∧ SpellsMagnitude n.natAbs cs ∧ token = sign ++ String.ofList cs

theorem signed_natAbs {n : Int} {sign : String} (h : sign ∈ signsOf n) :
    sign ∈ signs ∧ signed sign n.natAbs = n := by
  rw [signsOf] at h
  split at h
  · next hneg =>
    rw [List.mem_singleton] at h
    subst h
    exact ⟨by simp [signs], by rw [signed, if_pos rfl]; omega⟩
  · next hpos =>
    rcases List.mem_pair.mp h with rfl | rfl
    · exact ⟨by simp [signs], by rw [signed, if_neg (by decide)]; omega⟩
    · exact ⟨by simp [signs], by rw [signed, if_neg (by decide)]; omega⟩

/-! ## Digits behind an announcement -/

section Digits

variable {base m : Nat} {cs : List Char} (hbase : 1 < base) (hsixteen : base ≤ 16)
  (h : IsDigitsOf base m cs)

include hbase hsixteen h

theorem IsDigitsOf.value_eq : value base cs = m := by
  obtain ⟨zeros, digits, rfl, hdigits⟩ := h
  rw [value_replicate_append, ← value_map_toLower, hdigits, value_toDigits hbase hsixteen]

theorem IsDigitsOf.isDigitOf : ∀ c ∈ cs, Numeral.isDigitOf base c = true := by
  obtain ⟨zeros, digits, rfl, hdigits⟩ := h
  rw [List.forall_mem_append]
  constructor
  · intro c hc
    rw [List.eq_of_mem_replicate hc]
    exact isDigitOf_iff.mpr ⟨0, rfl, by omega⟩
  · intro c hc
    rw [← isDigitOf_toLower]
    apply isDigitOf_of_mem_toDigits hbase hsixteen (m := m)
    rw [← hdigits]
    exact List.mem_map_of_mem hc

omit hbase hsixteen in
theorem IsDigitsOf.ne_nil : cs ≠ [] := by
  obtain ⟨zeros, digits, rfl, hdigits⟩ := h
  intro hnil
  rw [List.append_eq_nil_iff] at hnil
  rw [hnil.2] at hdigits
  exact Nat.toDigits_ne_nil hdigits.symm

end Digits

theorem head?_ne_underscore {base : Nat} {cs : List Char}
    (h : ∀ c ∈ cs, Numeral.isDigitOf base c = true) : cs.head? ≠ some '_' :=
  fun hhead => underscore_not_mem_of_digits h (List.mem_of_head? hhead)

theorem isOctalChar_of_isDigitOf {c : Char} (h : Numeral.isDigitOf 8 c = true) :
    isOctalChar c = true := by
  obtain ⟨d, hd, hlt⟩ := isDigitOf_iff.mp h
  have hle : ∀ a b : Char, a ≤ b ↔ a.toNat ≤ b.toNat := fun _ _ => UInt32.le_iff_toNat_le
  simp only [digitValue?, hle, Char.reduceToNat] at hd
  rw [isOctalChar, Bool.or_eq_true, Bool.and_eq_true, decide_eq_true_eq, decide_eq_true_eq, hle,
    hle]
  simp only [Char.reduceToNat]
  left
  split at hd
  · cases hd
    omega
  · split at hd
    · cases hd
      omega
    · split at hd
      · cases hd
        omega
      · cases hd

/-! ## Magnitudes of spellings -/

theorem announcedBase?_of_mem {letter : Char} {base : Nat} (h : (letter, base) ∈ baseLetters) :
    announcedBase? letter = some base ∧ isBinaryBase base = true ∧ 1 < base ∧ base ≤ 16 := by
  have hall : ∀ p ∈ baseLetters,
      announcedBase? p.1 = some p.2 ∧ isBinaryBase p.2 = true ∧ 1 < p.2 ∧ p.2 ≤ 16 := by decide
  exact hall (letter, base) h

/-- Digits behind a letter that announces their base are read in it, however many they are. -/
theorem magnitude_of_announced {letter : Char} {base m : Nat} {digits : List Char}
    (hletter : (letter, base) ∈ baseLetters) (h : IsDigitsOf base m digits) :
    magnitude ('0' :: letter :: digits) = .ok m := by
  obtain ⟨hannounced, hbinary, hbase, hsixteen⟩ := announcedBase?_of_mem hletter
  have hdigits := h.isDigitOf hbase hsixteen
  have hdetect := detectBase_announced hannounced digits
  rw [afterAnnouncement_of_head? (head?_ne_underscore hdigits)] at hdetect
  rw [magnitude_announced hannounced, readUnsigned_of_digits hdetect hdigits h.ne_nil]
  simp [hbinary, h.value_eq hbase hsixteen]

theorem magnitude_of_zero {m : Nat} {digits : List Char} (h : IsDigitsOf 8 m digits) :
    magnitude ('0' :: digits) = .ok m := by
  have hdigits := h.isDigitOf (by decide) (by decide)
  have hoctal : ∀ c ∈ digits, isOctalChar c = true :=
    fun c hc => isOctalChar_of_isDigitOf (hdigits c hc)
  have hdetect : detectBase 8 digits = (8, digits, false) :=
    detectBase_of_octal (by decide) hoctal
  rw [magnitude_zero_cons h.ne_nil hoctal, readUnsigned_of_digits hdetect hdigits h.ne_nil]
  simp [h.value_eq, isBinaryBase]

theorem isDigitOf_decimal {m : Nat} :
    ∀ c ∈ Nat.toDigits 10 m, Numeral.isDigitOf 10 c = true :=
  fun _ hc => isDigitOf_of_mem_toDigits (by decide) (by decide) hc

theorem afterZero?_toDigits (m : Nat) : afterZero? (Nat.toDigits 10 m) = none := by
  by_cases hm : m = 0
  · rw [hm, Nat.toDigits_zero]
    rfl
  · obtain ⟨c, cs, hcs, hc⟩ := exists_toDigits_eq_cons (by decide : 1 < 10) hm
    have hdigits : ∀ d ∈ c :: cs, Numeral.isDigitOf 10 d = true := by
      rw [← hcs]
      exact isDigitOf_decimal
    have hbreak : '\n' ∉ c :: cs := fun hmem => absurd (hdigits '\n' hmem) (by decide)
    rw [hcs, afterZero?, dropFinalBreak_of_not_mem hbreak]
    split
    · next digits heq => exact absurd (List.cons.inj heq).1 hc
    · rfl

/-- The decimal digits of a number announce nothing, and a first zero is the whole number. -/
theorem detectBase_toDigits (m : Nat) :
    detectBase 0 (Nat.toDigits 10 m) = (10, Nat.toDigits 10 m, decide (m = 0)) := by
  by_cases hm : m = 0
  · rw [hm, Nat.toDigits_zero]
    rfl
  · obtain ⟨c, cs, hcs, hc⟩ := exists_toDigits_eq_cons (by decide : 1 < 10) hm
    rw [hcs, detectBase.eq_def]
    split
    · next heq => exact absurd (List.cons.inj heq).1 hc
    · next heq => exact absurd (List.cons.inj heq).1 hc
    · simp [hm]

theorem magnitude_decimal (m : Nat) :
    magnitude (Nat.toDigits 10 m) =
      if maxDigits < (Nat.toDigits 10 m).length then .error (.tooLong (Nat.toDigits 10 m).length)
      else .ok m := by
  have hvalue : value 10 (Nat.toDigits 10 m) = m := value_toDigits (by decide) (by decide) m
  rw [magnitude, afterZero?_toDigits]
  dsimp only
  rw [readUnsigned_of_digits (detectBase_toDigits m) isDigitOf_decimal Nat.toDigits_ne_nil, hvalue]
  simp [isBinaryBase]

/-- A spelling of a natural number denotes it, unless it has more digits than are read, and the
number is then above all integers of 32 bits. -/
theorem SpellsMagnitude.magnitude_eq {m : Nat} {cs : List Char} (h : SpellsMagnitude m cs) :
    magnitude cs = .ok m ∨ (∃ fault, magnitude cs = .error fault) ∧ 2 ^ 32 ≤ m := by
  cases h with
  | announced hletter hdigits => exact .inl (magnitude_of_announced hletter hdigits)
  | zero hdigits => exact .inl (magnitude_of_zero hdigits)
  | decimal =>
      rw [magnitude_decimal]
      by_cases hlong : maxDigits < (Nat.toDigits 10 m).length
      · rw [if_pos hlong]
        refine .inr ⟨⟨_, rfl⟩, ?_⟩
        have hlength : ¬ (Nat.toDigits 10 m).length ≤ 10 := by
          rw [maxDigits] at hlong
          omega
        rw [Nat.length_toDigits_le_iff (by decide) (by decide)] at hlength
        omega
      · rw [if_neg hlong]
        exact .inl rfl

theorem SpellsMagnitude.isWordChar {m : Nat} {cs : List Char} (h : SpellsMagnitude m cs) :
    ∀ c ∈ cs, Numeral.isWordChar c = true := by
  cases h with
  | decimal => exact fun c hc => isWordChar_of_isDigitOf (isDigitOf_decimal c hc)
  | @announced letter base digits hletter hdigits =>
      obtain ⟨-, -, hbase, hsixteen⟩ := announcedBase?_of_mem hletter
      have hword : ∀ p ∈ baseLetters, Numeral.isWordChar p.1 = true := by decide
      rw [List.forall_mem_cons, List.forall_mem_cons]
      exact ⟨by decide, hword _ hletter,
        fun c hc => isWordChar_of_isDigitOf (hdigits.isDigitOf hbase hsixteen c hc)⟩
  | zero hdigits =>
      rw [List.forall_mem_cons]
      exact ⟨by decide,
        fun c hc => isWordChar_of_isDigitOf (hdigits.isDigitOf (by decide) (by decide) c hc)⟩

theorem SpellsMagnitude.ne_nil {m : Nat} {cs : List Char} (h : SpellsMagnitude m cs) :
    cs ≠ [] := by
  cases h with
  | decimal => exact Nat.toDigits_ne_nil
  | announced => exact List.cons_ne_nil _ _
  | zero => exact List.cons_ne_nil _ _

/-! ## Integers -/

theorem natAbs_lt_of_inRange {n : Int} (h : InRange n) : n.natAbs < 2 ^ 32 := by
  rw [InRange, least, greatest] at h
  omega

/-- A spelling of an integer denotes it if it has 32 bits, and nothing otherwise. -/
theorem Spells.read_eq_ok_iff {n : Int} {token : String} (h : Spells n token) {v : Value} :
    read token = .ok v ↔ InRange n ∧ v = .int n := by
  obtain ⟨sign, cs, hsign, hcs, rfl⟩ := h
  obtain ⟨hsigns, hsigned⟩ := signed_natAbs hsign
  rw [read_signed_eq_ok_iff hsigns hcs.isWordChar hcs.ne_nil]
  rcases hcs.magnitude_eq with hm | ⟨⟨fault, hfault⟩, hlarge⟩
  · rw [hm]
    simp [hsigned]
  · have hrange : ¬ InRange n := fun hrange => by
      have := natAbs_lt_of_inRange hrange
      omega
    rw [hfault]
    simp [hrange]

/-- The spellings of an integer of 32 bits are read as that integer, those of any other integer
are refused, and two spellings are read as one value only if they spell one integer. -/
theorem spellings_denote_exactly :
    (∀ n token, Spells n token → InRange n → read token = .ok (.int n)) ∧
    (∀ n token, Spells n token → ¬ InRange n →
      ∃ fault, read token = .error fault ∧ (fault.problem token).family = .literal) ∧
    (∀ n m token other v, Spells n token → Spells m other → read token = .ok v →
      (read other = .ok v ↔ m = n)) := by
  refine ⟨?_, ?_, ?_⟩
  · intro n token h hrange
    exact h.read_eq_ok_iff.mpr ⟨hrange, rfl⟩
  · intro n token h hrange
    cases hread : read token with
    | error fault => exact ⟨fault, rfl, fault.family_problem token⟩
    | ok v => exact absurd (h.read_eq_ok_iff.mp hread).1 hrange
  · intro n m token other v h hother hread
    obtain ⟨hrange, rfl⟩ := h.read_eq_ok_iff.mp hread
    rw [hother.read_eq_ok_iff, Value.int.injEq]
    constructor
    · rintro ⟨-, heq⟩
      exact heq.symm
    · rintro rfl
      exact ⟨hrange, rfl⟩

/-- One number in two bases, and the least number that is too large. -/
theorem spellings_denote_at_bounds :
    Spells 255 "+0X0fF" ∧ Spells 255 "0377" ∧ Spells 2147483648 "2147483648" ∧
      read "+0X0fF" = .ok (.int 255) ∧
      (read "0377" = .ok (.int 255) ↔ (255 : Int) = 255) ∧
      ∃ fault, read "2147483648" = .error fault ∧
        (fault.problem "2147483648").family = .literal := by
  have hupper : Spells 255 "+0X0fF" := by
    have hletter : ('X', 16) ∈ baseLetters := by decide
    have hdigits : IsDigitsOf 16 255 ['0', 'f', 'F'] := ⟨1, ['f', 'F'], rfl, by decide⟩
    exact ⟨"+", ['0', 'X', '0', 'f', 'F'], by decide, .announced hletter hdigits, rfl⟩
  have hzero : Spells 255 "0377" := by
    refine ⟨"", ['0', '3', '7', '7'], by decide, .zero ?_, rfl⟩
    exact ⟨0, ['3', '7', '7'], rfl, by decide⟩
  have hdecimal : Spells 2147483648 "2147483648" :=
    ⟨"", Nat.toDigits 10 2147483648, by decide, .decimal, by rfl⟩
  obtain ⟨hread, hrefused, hsame⟩ := spellings_denote_exactly
  have hupperRead := hread 255 _ hupper (by decide)
  exact ⟨hupper, hzero, hdecimal, hupperRead, hsame _ _ _ _ _ hupper hzero hupperRead,
    hrefused _ _ hdecimal (by decide)⟩

end EventSieve.Literal
