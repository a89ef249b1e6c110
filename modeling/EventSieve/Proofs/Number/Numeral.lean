import EventSieve.Number.Numeral
import Mathlib.Data.List.TakeWhile
import Mathlib.Tactic.Common

/-!
# What whole numerals denote

A row of digits denotes the number that it is printed from, in either case of the letters
and after any zeros. `readUnsigned` takes the digits that follow an announcement and gives
their value, and `read` puts the sign in front. In the other direction, a text that holds a
foreign character, one that is no digit in any base and has no part in the grammar of
numerals, is refused wherever the character stands.
-/

namespace EventSieve.Numeral

/-! ## Digits -/

theorem isDigitOf_iff {base : Nat} {c : Char} :
    isDigitOf base c = true ↔ ∃ d, digitValue? c = some d ∧ d < base := by
  rw [isDigitOf]
  cases digitValue? c with
  | none => simp
  | some d => simp

theorem digitValue?_digitChar {d : Nat} (h : d < 16) : digitValue? (Nat.digitChar d) = some d := by
  have hall : ∀ d < 16, digitValue? (Nat.digitChar d) = some d := by decide
  exact hall d h

theorem digitValue?_toLower (c : Char) : digitValue? c.toLower = digitValue? c := by
  by_cases h : 'A'.val ≤ c.val ∧ c.val ≤ 'Z'.val
  · have hall : ∀ n < 91, 65 ≤ n →
        digitValue? (Char.ofNat n).toLower = digitValue? (Char.ofNat n) := by decide
    have hlow : 65 ≤ c.toNat := h.1
    have hhigh : c.toNat ≤ 90 := h.2
    rw [← Char.ofNat_toNat c]
    exact hall c.toNat (by omega) hlow
  · have hlower : c.toLower = c := dif_neg h
    rw [hlower]

theorem isDigitOf_toLower (base : Nat) (c : Char) :
    isDigitOf base c.toLower = isDigitOf base c := by
  rw [isDigitOf, isDigitOf, digitValue?_toLower]

/-! ## Rows of digits -/

theorem value_concat (base : Nat) (cs : List Char) (c : Char) :
    value base (cs ++ [c]) = value base cs * base + (digitValue? c).getD 0 := by
  rw [value, List.foldl_append]
  rfl

theorem value_map_toLower (base : Nat) (cs : List Char) :
    value base (cs.map Char.toLower) = value base cs := by
  rw [value, value, List.foldl_map]
  simp only [digitValue?_toLower]

theorem value_replicate_append (base zeros : Nat) (cs : List Char) :
    value base (List.replicate zeros '0' ++ cs) = value base cs := by
  induction zeros with
  | zero => rfl
  | succ zeros ih =>
      rw [← ih, List.replicate_succ, List.cons_append, value, List.foldl_cons, value]
      have hzero : 0 * base + (digitValue? '0').getD 0 = 0 := by
        rw [Nat.zero_mul]
        rfl
      rw [hzero]

section Printed

variable {base : Nat} (hbase : 1 < base) (hsixteen : base ≤ 16)

include hbase hsixteen

/-- Reading undoes printing. -/
theorem value_toDigits (m : Nat) : value base (Nat.toDigits base m) = m := by
  induction m using Nat.strongRecOn with
  | ind m ih =>
      by_cases hm : m < base
      · rw [Nat.toDigits_of_lt_base hm, ← List.nil_append [m.digitChar], value_concat,
          digitValue?_digitChar (by omega)]
        simp [value]
      · have hle := Nat.le_of_not_lt hm
        have hlast : m % base < base := Nat.mod_lt m (by omega)
        rw [Nat.toDigits_of_base_le hbase hle, value_concat,
          ih (m / base) (Nat.div_lt_self (by omega) hbase),
          digitValue?_digitChar (by omega), Option.getD_some]
        exact Nat.div_add_mod' m base

theorem isDigitOf_of_mem_toDigits {m : Nat} {c : Char} (hc : c ∈ Nat.toDigits base m) :
    isDigitOf base c = true := by
  induction m using Nat.strongRecOn with
  | ind m ih =>
      by_cases hm : m < base
      · rw [Nat.toDigits_of_lt_base hm, List.mem_singleton] at hc
        exact isDigitOf_iff.mpr ⟨m, by rw [hc, digitValue?_digitChar (by omega)], hm⟩
      · have hlast : m % base < base := Nat.mod_lt m (by omega)
        rw [Nat.toDigits_of_base_le hbase (Nat.le_of_not_lt hm), List.mem_append,
          List.mem_singleton] at hc
        rcases hc with hc | hc
        · exact ih (m / base) (Nat.div_lt_self (by omega) hbase) hc
        · exact isDigitOf_iff.mpr ⟨m % base, by rw [hc, digitValue?_digitChar (by omega)], hlast⟩

omit hsixteen in
theorem exists_toDigits_eq_cons {m : Nat} (hm : m ≠ 0) :
    ∃ c cs, Nat.toDigits base m = c :: cs ∧ c ≠ '0' := by
  induction m using Nat.strongRecOn with
  | ind m ih =>
      by_cases hlt : m < base
      · rw [Nat.toDigits_of_lt_base hlt]
        exact ⟨m.digitChar, [], rfl, fun hzero => hm (Nat.digitChar_eq_zero.mp hzero)⟩
      · have hle := Nat.le_of_not_lt hlt
        have hfront : m / base ≠ 0 := Nat.ne_of_gt (Nat.div_pos hle (by omega))
        obtain ⟨c, cs, hcs, hc⟩ := ih (m / base) (Nat.div_lt_self (by omega) hbase) hfront
        refine ⟨c, cs ++ [(m % base).digitChar], ?_, hc⟩
        rw [Nat.toDigits_of_base_le hbase hle, hcs, List.cons_append]

end Printed

/-! ## Unsigned numerals -/

theorem readUnsigned_congr {base other : Nat} {cs ds : List Char}
    (h : detectBase base cs = detectBase other ds) :
    readUnsigned base cs = readUnsigned other ds := by
  rw [readUnsigned, readUnsigned, h]

theorem isDigitOf_underscore (base : Nat) : isDigitOf base '_' = false := rfl

theorem underscore_not_mem_of_digits {base : Nat} {cs : List Char}
    (h : ∀ c ∈ cs, isDigitOf base c = true) : '_' ∉ cs := by
  intro hmem
  have hdigit := h '_' hmem
  rw [isDigitOf_underscore] at hdigit
  cases hdigit

theorem underscoresBetween_go_of_not_mem {last : Char} {cs : List Char} (hlast : last ≠ '_')
    (h : '_' ∉ cs) : underscoresBetween.go last cs = true := by
  induction cs generalizing last with
  | nil => simp [underscoresBetween.go, hlast]
  | cons c cs ih =>
      rw [List.mem_cons, not_or] at h
      simp [underscoresBetween.go, hlast, ih (Ne.symm h.1) h.2]

theorem underscoresBetween_of_not_mem {cs : List Char} (h : '_' ∉ cs) :
    underscoresBetween cs = true := by
  cases cs with
  | nil => rfl
  | cons c cs =>
      rw [List.mem_cons, not_or] at h
      simp [underscoresBetween, Ne.symm h.1, underscoresBetween_go_of_not_mem (Ne.symm h.1) h.2]

/-- Digits alone after an announcement: they denote their value, if they are not too many and
zero is not asked for. -/
theorem readUnsigned_of_digits {base b : Nat} {cs digits : List Char} {zeroOnly : Bool}
    (h : detectBase base cs = (b, digits, zeroOnly))
    (hdigits : ∀ c ∈ digits, isDigitOf b c = true) (hne : digits ≠ []) :
    readUnsigned base cs =
      if ¬ isBinaryBase b = true ∧ maxDigits < digits.length then .error (.tooLong digits.length)
      else if zeroOnly = true ∧ value b digits ≠ 0 then .error .malformed
      else .ok (value b digits) := by
  have hunderscore := underscore_not_mem_of_digits hdigits
  have hbody : digits.takeWhile (fun c => isDigitOf b c || c == '_') = digits := by
    rw [List.takeWhile_eq_self_iff]
    intro c hc
    rw [hdigits c hc, Bool.true_or]
  have hfilter : digits.filter (· ≠ '_') = digits := by
    rw [List.filter_eq_self]
    intro c hc
    rw [decide_eq_true_eq]
    rintro rfl
    exact hunderscore hc
  rw [readUnsigned, h]
  simp only [hbody, hfilter, underscoresBetween_of_not_mem hunderscore, List.drop_length,
    List.isEmpty_iff, hne]
  simp

/-! ## Signs -/

def signs : List String := ["", "+", "-"]

def signed (sign : String) (m : Nat) : Int := if sign = "-" then -(m : Int) else m

theorem eq_of_mem_sign {sign : String} (hsign : sign ∈ signs) {c : Char} (hc : c ∈ sign.toList) :
    c = '+' ∨ c = '-' := by
  simp only [signs, List.mem_cons, List.not_mem_nil, or_false] at hsign
  rcases hsign with rfl | rfl | rfl
  · cases hc
  · exact .inl (by simpa using hc)
  · exact .inr (by simpa using hc)

def isWordChar (c : Char) : Bool := c.isAlphanum || c == '_'

theorem ne_of_isWordChar {c d : Char} (hc : isWordChar c = true) (hd : isWordChar d = false) :
    c ≠ d := by
  rintro rfl
  rw [hc] at hd
  cases hd

theorem toNat_of_isWordChar {c : Char} (h : isWordChar c = true) :
    48 ≤ c.toNat ∧ c.toNat < 128 := by
  have hbetween : ∀ low high : Char, low.val ≤ c.val → c.val ≤ high.val →
      low.toNat ≤ c.toNat ∧ c.toNat ≤ high.toNat :=
    fun low high hlow hhigh => ⟨UInt32.le_iff_toNat_le.mp hlow, UInt32.le_iff_toNat_le.mp hhigh⟩
  rw [isWordChar, Char.isAlphanum, Bool.or_eq_true, Bool.or_eq_true, beq_iff_eq] at h
  rcases h with (hletter | hdigit) | rfl
  · rcases Bool.or_eq_true_iff.mp hletter with hupper | hlower
    · obtain ⟨hlow, hhigh⟩ := of_decide_eq_true hupper
      have hrange := hbetween 'A' 'Z' hlow hhigh
      simp only [Char.reduceToNat] at hrange
      omega
    · obtain ⟨hlow, hhigh⟩ := Bool.and_eq_true_iff.mp hlower
      have hrange := hbetween 'a' 'z' (of_decide_eq_true hlow) (of_decide_eq_true hhigh)
      simp only [Char.reduceToNat] at hrange
      omega
  · obtain ⟨hlow, hhigh⟩ := Bool.and_eq_true_iff.mp hdigit
    have hrange := hbetween '0' '9' (of_decide_eq_true hlow) (of_decide_eq_true hhigh)
    simp only [Char.reduceToNat] at hrange
    omega
  · decide

theorem isAsciiBlank_of_isWordChar {c : Char} (h : isWordChar c = true) :
    isAsciiBlank c = false := by
  have hne : c ≠ ' ' := ne_of_isWordChar h (by decide)
  have hrange := toNat_of_isWordChar h
  simp only [isAsciiBlank, beq_eq_false_iff_ne.mpr hne, Bool.false_or, Bool.and_eq_false_iff,
    decide_eq_false_iff_not]
  omega

theorem isWordChar_of_isDigitOf {base : Nat} {c : Char} (h : isDigitOf base c = true) :
    isWordChar c = true := by
  obtain ⟨d, hd, -⟩ := isDigitOf_iff.mp h
  rw [digitValue?] at hd
  rw [isWordChar, Char.isAlphanum]
  split at hd
  · next hdigit =>
    have hc : c.isDigit = true :=
      Bool.and_eq_true_iff.mpr ⟨decide_eq_true hdigit.1, decide_eq_true hdigit.2⟩
    simp [hc]
  · split at hd
    · next hlower =>
      have hc : c.isLower = true :=
        Bool.and_eq_true_iff.mpr ⟨decide_eq_true hlower.1, decide_eq_true hlower.2⟩
      have halpha : c.isAlpha = true := Bool.or_eq_true_iff.mpr (.inr hc)
      simp [halpha]
    · split at hd
      · next hupper =>
        have hc : c.isUpper = true := decide_eq_true hupper
        have halpha : c.isAlpha = true := Bool.or_eq_true_iff.mpr (.inl hc)
        simp [halpha]
      · cases hd

theorem takeSign_of_isWordChar {c : Char} (hc : isWordChar c = true) (cs : List Char) :
    takeSign (c :: cs) = (false, c :: cs) := by
  rw [takeSign]
  · rintro rest ⟨⟩
    exact ne_of_isWordChar hc (by decide) rfl
  · rintro rest ⟨⟩
    exact ne_of_isWordChar hc (by decide) rfl

theorem takeSign_append {sign : String} (hsign : sign ∈ signs) {cs : List Char}
    (hcs : ∀ c ∈ cs, isWordChar c = true) :
    takeSign (sign.toList ++ cs) = (sign == "-", cs) := by
  simp only [signs, List.mem_cons, List.not_mem_nil, or_false] at hsign
  rcases hsign with rfl | rfl | rfl
  · cases cs with
    | nil => rfl
    | cons c cs => exact takeSign_of_isWordChar (hcs c List.mem_cons_self) cs
  · rfl
  · rfl

theorem dropWhile_isAsciiBlank {cs : List Char} (h : ∀ c ∈ cs, isAsciiBlank c = false) :
    cs.dropWhile isAsciiBlank = cs := by
  cases cs with
  | nil => rfl
  | cons c cs =>
      rw [List.dropWhile_cons_of_neg]
      rw [h c List.mem_cons_self]
      exact Bool.false_ne_true

/-- The sign of a word is read apart from the word. -/
theorem read_signed (base : Nat) {sign : String} (hsign : sign ∈ signs) {cs : List Char}
    (hcs : ∀ c ∈ cs, isWordChar c = true) :
    read base (sign ++ String.ofList cs) = (readUnsigned base cs).map (signed sign) := by
  have hsigns : ∀ c ∈ sign.toList, isAsciiBlank c = false ∧ c.toNat < 128 := by
    intro c hc
    rcases eq_of_mem_sign hsign hc with rfl | rfl <;> decide
  have hplain : plain (sign.toList ++ cs) = sign.toList ++ cs := by
    rw [plain, if_pos]
    rw [List.all_eq_true]
    intro c hc
    rcases List.mem_append.mp hc with hc | hc
    · exact decide_eq_true (hsigns c hc).2
    · exact decide_eq_true (toNat_of_isWordChar (hcs c hc)).2
  have hblank : (sign.toList ++ cs).dropWhile isAsciiBlank = sign.toList ++ cs :=
    dropWhile_isAsciiBlank (List.forall_mem_append.mpr
      ⟨fun c hc => (hsigns c hc).1, fun c hc => isAsciiBlank_of_isWordChar (hcs c hc)⟩)
  rw [read, String.toList_append, String.toList_ofList, hplain, readPlain, hblank,
    takeSign_append hsign hcs]
  dsimp only
  cases readUnsigned base cs with
  | error fault => rfl
  | ok m => simp [Except.map, signed]

/-! ## Foreign characters -/

/-- A character that no numeral contains: no digit in any base, and with no part in the
grammar of numerals. -/
structure IsForeign (c : Char) : Prop where
  plain : plainChar c = c
  blank : isAsciiBlank c = false
  digit : digitValue? c = none
  underscore : c ≠ '_'
  sign : c ≠ '+' ∧ c ≠ '-'

theorem isForeign_quote : IsForeign '"' := ⟨by decide, by decide, by decide, by decide, by decide⟩

theorem isForeign_point : IsForeign '.' := ⟨by decide, by decide, by decide, by decide, by decide⟩

theorem mem_dropWhile_of_not {α : Type} {p : α → Bool} {a : α} {l : List α} (ha : a ∈ l)
    (hp : p a = false) : a ∈ l.dropWhile p := by
  rw [← List.takeWhile_append_dropWhile (p := p) (l := l), List.mem_append] at ha
  rcases ha with ha | ha
  · have htake := List.all_eq_true.mp List.all_takeWhile a ha
    rw [hp] at htake
    cases htake
  · exact ha

theorem drop_length_takeWhile {α : Type} (p : α → Bool) (l : List α) :
    l.drop (l.takeWhile p).length = l.dropWhile p := by
  have h : (l.takeWhile p ++ l.dropWhile p).drop (l.takeWhile p).length = l.dropWhile p :=
    List.drop_left
  rwa [List.takeWhile_append_dropWhile] at h

theorem exists_digitValue?_of_announcedBase? {c : Char} {b : Nat} (h : announcedBase? c = some b) :
    ∃ d, digitValue? c = some d ∧ 10 < d := by
  rw [announcedBase?] at h
  split at h
  · next hc => rcases hc with rfl | rfl <;> exact ⟨33, by decide, by decide⟩
  · split at h
    · next hc => rcases hc with rfl | rfl <;> exact ⟨24, by decide, by decide⟩
    · split at h
      · next hc => rcases hc with rfl | rfl <;> exact ⟨11, by decide, by decide⟩
      · cases h

namespace IsForeign

variable {c : Char} (hc : IsForeign c)

include hc

theorem mem_plain {cs : List Char} (h : c ∈ cs) : c ∈ Numeral.plain cs := by
  rw [Numeral.plain]
  split
  · exact h
  · exact List.mem_map.mpr ⟨c, h, hc.plain⟩

theorem mem_takeSign {cs : List Char} (h : c ∈ cs) : c ∈ (takeSign cs).2 := by
  rw [takeSign.eq_def]
  split
  · exact List.mem_of_ne_of_mem hc.sign.2 h
  · exact List.mem_of_ne_of_mem hc.sign.1 h
  · exact h

theorem mem_afterAnnouncement {cs : List Char} (h : c ∈ cs) : c ∈ afterAnnouncement cs := by
  rw [afterAnnouncement.eq_def]
  split
  · exact List.mem_of_ne_of_mem hc.underscore h
  · exact h

/-- The announcement of a base is made of digits of some base, so it leaves the character. -/
theorem mem_detectBase (base : Nat) {cs : List Char} (h : c ∈ cs) :
    c ∈ (detectBase base cs).2.1 := by
  rw [detectBase.eq_def]
  split
  · next d rest =>
    split
    · next b hb =>
      split
      · have hzero : c ≠ '0' := by
          rintro rfl
          exact absurd hc.digit (by decide)
        have hd : c ≠ d := by
          rintro rfl
          obtain ⟨e, he, -⟩ := exists_digitValue?_of_announcedBase? hb
          rw [hc.digit] at he
          cases he
        exact hc.mem_afterAnnouncement (List.mem_of_ne_of_mem hd (List.mem_of_ne_of_mem hzero h))
      · exact h
    · split <;> exact h
  · split <;> exact h
  · exact h

/-- The digits end before the character, and what is left is not blank. -/
theorem exists_readUnsigned_eq_error (base : Nat) {cs : List Char} (h : c ∈ cs) :
    ∃ fault, readUnsigned base cs = .error fault := by
  have hmem := hc.mem_detectBase base h
  rw [readUnsigned]
  generalize detectBase base cs = detected at hmem ⊢
  obtain ⟨b, digits, zeroOnly⟩ := detected
  have hstop : (isDigitOf b c || c == '_') = false := by
    rw [isDigitOf, hc.digit, beq_eq_false_iff_ne.mpr hc.underscore]
    rfl
  have hrest : (digits.drop (digits.takeWhile fun c => isDigitOf b c || c == '_').length).all
      isAsciiBlank = false := by
    rw [drop_length_takeWhile, List.all_eq_false]
    exact ⟨c, mem_dropWhile_of_not hmem hstop, by simp [hc.blank]⟩
  -- whatever is refused earlier, the rest is refused in the end
  simp only [hrest, Bool.not_false, if_true]
  split
  · exact ⟨_, rfl⟩
  split
  · exact ⟨_, rfl⟩
  split
  · exact ⟨_, rfl⟩
  split
  · exact ⟨_, rfl⟩
  · exact ⟨_, rfl⟩

/-- A text with the character in it denotes no whole number. -/
theorem exists_read_eq_error (base : Nat) {s : String} (h : c ∈ s.toList) :
    ∃ fault, read base s = .error fault := by
  have hmem := hc.mem_takeSign (mem_dropWhile_of_not (hc.mem_plain h) hc.blank)
  obtain ⟨fault, hfault⟩ := hc.exists_readUnsigned_eq_error base hmem
  refine ⟨fault, ?_⟩
  rw [read, readPlain]
  dsimp only
  rw [hfault]
  rfl

end IsForeign

end EventSieve.Numeral
