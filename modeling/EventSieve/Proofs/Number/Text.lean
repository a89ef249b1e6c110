import EventSieve.Proofs.Number.Reading
import EventSieve.Proofs.Number.Shortest

/-!
# Reading the text of a double

The text of a double is its sign and the digits of a decimal that is rounded to its
magnitude, spread around a point or with an exponent behind them. Reading puts the digits
together again to a decimal that stands for the same number, and so to the same double.
-/

namespace EventSieve.Decimal

open Numeral

/-! ## Digits -/

theorem digits_ne_nil (n : Nat) : digits n ≠ [] := by
  rw [digits_eq]
  exact Nat.toDigits_ne_nil

theorem value_digits (n : Nat) : value 10 (digits n) = n := by
  rw [digits_eq]
  exact value_toDigits (by decide) (by decide) n

theorem isDigitOf_of_mem_digits (n : Nat) : ∀ c ∈ digits n, isDigitOf 10 c = true := by
  intro c hc
  rw [digits_eq] at hc
  exact isDigitOf_of_mem_toDigits (by decide) (by decide) hc

theorem value_append_replicate (base : Nat) (cs : List Char) (zeros : Nat) :
    value base (cs ++ List.replicate zeros '0') = value base cs * base ^ zeros := by
  induction zeros with
  | zero => rw [List.replicate_zero, List.append_nil, pow_zero, mul_one]
  | succ zeros ih =>
      rw [List.replicate_succ', ← List.append_assoc, value_concat, ih, pow_succ, mul_assoc]
      rfl

theorem value_append_zeros (cs : List Char) (zeros : Nat) (e : Int) :
    (value 10 (cs ++ List.replicate zeros '0') : ℚ) * 10 ^ e = value 10 cs * 10 ^ (zeros + e) := by
  rw [value_append_replicate, Nat.cast_mul, Nat.cast_pow, Nat.cast_ofNat, mul_assoc,
    ← zpow_natCast, ← zpow_add₀ (by norm_num)]

/-! ## Decimals of any size -/

theorem toRat_lt (d : Decimal) :
    toRat d < 10 ^ ((digits d.coefficient).length + d.exponent) := by
  have hlt : d.coefficient < 10 ^ (digits d.coefficient).length := by
    rw [digits_eq]
    exact (Nat.length_toDigits_le_iff (by decide) Nat.length_toDigits_pos).mp (Nat.le_refl _)
  rw [toRat, zpow_add₀ (by norm_num), zpow_natCast]
  exact mul_lt_mul_of_pos_right (by exact_mod_cast hlt) (by positivity)

theorem le_toRat {d : Decimal} (hd : d.coefficient ≠ 0) :
    10 ^ ((digits d.coefficient).length + d.exponent - 1) ≤ toRat d := by
  have hle : 10 ^ ((digits d.coefficient).length - 1) ≤ d.coefficient := by
    rw [digits_eq]
    rcases Nat.eq_zero_or_pos ((Nat.toDigits 10 d.coefficient).length - 1) with hone | hmore
    · rw [hone, pow_zero]
      exact Nat.pos_of_ne_zero hd
    · rw [← not_lt, ← Nat.length_toDigits_le_iff (by decide) hmore]
      omega
  have hpos : 0 < (digits d.coefficient).length := List.length_pos_of_ne_nil (digits_ne_nil _)
  rw [toRat, add_sub_right_comm, zpow_add₀ (by norm_num),
    show ((digits d.coefficient).length : Int) - 1 = ((digits d.coefficient).length - 1 : Nat) by
      omega, zpow_natCast]
  exact mul_le_mul_of_nonneg_right (by exact_mod_cast hle) (by positivity)

theorem two_zpow_le_ten_zpow : (2 : ℚ) ^ (1100 : Int) ≤ 10 ^ (400 : Int) :=
  calc (2 : ℚ) ^ (1100 : Int) ≤ 2 ^ (3 * 400 : Int) := zpow_le_zpow_right₀ one_le_two (by decide)
    _ = (2 ^ (3 : Int)) ^ (400 : Int) := zpow_mul 2 3 400
    _ ≤ 10 ^ (400 : Int) := zpow_le_zpow_left₀ (by decide) (by positivity) (by norm_num)

/-- What is cut off far from the range of doubles would be rounded to the same. -/
theorem nearest_eq_toFloat (negative : Bool) (d : Decimal) :
    nearest negative d = toFloat negative d := by
  have hden : 0 < 10 ^ (-d.exponent).toNat := Nat.pow_pos (by decide)
  have hlt := toRat_lt d
  simp only [nearest, toFloat, Nat.pow_eq]
  by_cases hzero : d.coefficient = 0
  · rw [if_pos (.inl hzero), hzero, zero_mul, Binary64.signedZero, Binary64.ofRatio,
      Binary64.ofRatio, if_pos rfl, if_pos rfl]
  · have hnum : 0 < d.coefficient * 10 ^ d.exponent.toNat :=
      Nat.mul_pos (Nat.pos_of_ne_zero hzero) (Nat.pow_pos (by decide))
    have hle := le_toRat hzero
    rw [toRat_eq_div] at hlt hle
    simp only [hzero, false_or]
    -- the decimal lies between the powers of ten above and below its first digit
    generalize ((digits d.coefficient).length : Int) + d.exponent = top at hlt hle ⊢
    apply Binary64.eq_of_toBits
    split
    · next hsmall =>
      rw [Binary64.signedZero, Binary64.toNat_toBits_ofRatio, Binary64.toNat_toBits_ofRatio,
        if_pos rfl, if_neg (Nat.ne_of_gt hnum), Binary64.nearestBits_of_small hnum hden]
      calc _ < (10 : ℚ) ^ top := hlt
        _ ≤ 10 ^ (-400 : Int) := zpow_le_zpow_right₀ (by norm_num) hsmall.le
        _ ≤ 2 ^ (-1100 : Int) := by
          rw [zpow_neg, zpow_neg]
          exact inv_anti₀ (by positivity) two_zpow_le_ten_zpow
        _ ≤ 2 ^ (-1075 : Int) := zpow_le_zpow_right₀ one_le_two (by decide)
    · split
      · next hlarge =>
        rw [Binary64.toNat_toBits_infinity, Binary64.toNat_toBits_ofRatio,
          if_neg (Nat.ne_of_gt hnum), Binary64.nearestBits_of_large hnum hden]
        calc (2 : ℚ) ^ (1100 : Int) ≤ 10 ^ (400 : Int) := two_zpow_le_ten_zpow
          _ ≤ 10 ^ (top - 1) := zpow_le_zpow_right₀ (by norm_num) (by omega)
          _ ≤ _ := hle
      · rfl

/-! ## Digits around a point -/

/-- Digits around a point, which is left out where none come after it. -/
def pointed (whole part : List Char) : List Char :=
  if part.isEmpty then whole else whole ++ '.' :: part

def wholeDigits (ds : List Char) (point : Int) : List Char :=
  if point ≤ 0 then ['0']
  else ds.take point.toNat ++ List.replicate (point.toNat - ds.length) '0'

/-- The digits after the point, before any that are added to make them enough. -/
def partDigits (ds : List Char) (point : Int) : List Char :=
  if point ≤ 0 then List.replicate (-point).toNat '0' ++ ds else ds.drop point.toNat

def padded (ds : List Char) (places : Nat) : List Char :=
  ds ++ List.replicate (places - ds.length) '0'

theorem spread_eq (ds : List Char) (point : Int) (places : Nat) :
    spread ds point places false =
      pointed (wholeDigits ds point) (padded (partDigits ds point) places) := rfl

theorem isDigitOf_of_mem_zeros (zeros : Nat) :
    ∀ c ∈ List.replicate zeros '0', isDigitOf 10 c = true := by
  intro c hc
  rw [List.eq_of_mem_replicate hc]
  rfl

section Spread

variable {ds : List Char} (hds : ∀ c ∈ ds, isDigitOf 10 c = true) (point : Int)

include hds

theorem isDigitOf_of_mem_wholeDigits : ∀ c ∈ wholeDigits ds point, isDigitOf 10 c = true := by
  rw [wholeDigits]
  split
  · exact isDigitOf_of_mem_zeros 1
  · rw [List.forall_mem_append]
    exact ⟨fun c hc => hds c (List.mem_of_mem_take hc), isDigitOf_of_mem_zeros _⟩

theorem isDigitOf_of_mem_padded (places : Nat) :
    ∀ c ∈ padded (partDigits ds point) places, isDigitOf 10 c = true := by
  rw [padded, partDigits, List.forall_mem_append]
  refine ⟨?_, isDigitOf_of_mem_zeros _⟩
  split
  · rw [List.forall_mem_append]
    exact ⟨isDigitOf_of_mem_zeros _, hds⟩
  · exact fun c hc => hds c (List.mem_of_mem_drop hc)

end Spread

theorem wholeDigits_ne_nil {ds : List Char} (hne : ds ≠ []) (point : Int) :
    wholeDigits ds point ≠ [] := by
  have hlength := List.length_pos_of_ne_nil hne
  rw [wholeDigits]
  split
  · exact List.cons_ne_nil _ _
  · next hpoint =>
    apply List.ne_nil_of_length_pos
    rw [List.length_append, List.length_take, List.length_replicate]
    omega

theorem value_wholeDigits_append (ds : List Char) (point e : Int) :
    (value 10 (wholeDigits ds point ++ partDigits ds point) : ℚ) *
      10 ^ (e - (partDigits ds point).length) = value 10 ds * 10 ^ (e + point - ds.length) := by
  rw [wholeDigits, partDigits]
  split
  · next hpoint =>
    have hzeros : ['0'] ++ (List.replicate (-point).toNat '0' ++ ds) =
        List.replicate ((-point).toNat + 1) '0' ++ ds := by
      rw [List.replicate_succ, List.cons_append, List.cons_append, List.nil_append]
    rw [hzeros, value_replicate_append, List.length_append, List.length_replicate]
    congr 2
    omega
  · next hpoint =>
    -- the point stands among the digits or behind all of them
    rcases Nat.le_total point.toNat ds.length with hle | hle
    · rw [Nat.sub_eq_zero_of_le hle, List.replicate_zero, List.append_nil,
        List.take_append_drop, List.length_drop]
      congr 2
      omega
    · rw [List.take_of_length_le hle, List.drop_of_length_le hle, List.append_nil,
        value_append_zeros, List.length_nil]
      congr 2
      omega

theorem value_append_padded (whole part : List Char) (places : Nat) (e : Int) :
    (value 10 (whole ++ padded part places) : ℚ) * 10 ^ (e - (padded part places).length) =
      value 10 (whole ++ part) * 10 ^ (e - part.length) := by
  rw [padded, ← List.append_assoc, value_append_zeros, List.length_append,
    List.length_replicate]
  congr 2
  omega

/-! ## Numerals -/

theorem takeWhile_append_of_digits {cs rest : List Char}
    (hcs : ∀ c ∈ cs, isDigitOf 10 c = true) (hrest : rest.takeWhile (isDigitOf 10) = []) :
    (cs ++ rest).takeWhile (isDigitOf 10) = cs := by
  rw [List.takeWhile_append_of_pos hcs, hrest, List.append_nil]

/-- Digits around a point and an exponent behind them are read as what they are. -/
theorem readUnsigned?_pointed {whole part rest : List Char}
    (hwhole : ∀ c ∈ whole, isDigitOf 10 c = true) (hne : whole ≠ [])
    (hpart : ∀ c ∈ part, isDigitOf 10 c = true) (hrest : rest.takeWhile (isDigitOf 10) = [])
    (hpoint : ∀ cs, rest ≠ '.' :: cs) :
    readUnsigned? (pointed whole part ++ rest) =
      (readExponent? rest).map fun e => ⟨value 10 (whole ++ part), e - part.length⟩ := by
  rw [pointed]
  split
  · next hnil =>
    -- where no point is written, what follows must not begin with one
    obtain rfl := List.isEmpty_iff.mp hnil
    rw [readUnsigned?, takeWhile_append_of_digits hwhole hrest, List.drop_left]
    split
    next _ _ hmatch =>
      split at hmatch
      · next cs => exact absurd rfl (hpoint cs)
      · cases hmatch
        simp [hne]
  · have hstop : ('.' :: (part ++ rest)).takeWhile (isDigitOf 10) = [] := rfl
    rw [List.append_assoc, List.cons_append, readUnsigned?,
      takeWhile_append_of_digits hwhole hstop, List.drop_left]
    simp only [takeWhile_append_of_digits hpart hrest, List.drop_left, List.isEmpty_iff, hne,
      false_and, if_false]

theorem exists_exponentChars_eq (e : Int) :
    ∃ ds, exponentChars e = (if e < 0 then '-' else '+') :: ds ∧ ds ≠ [] ∧
      (∀ c ∈ ds, isDigitOf 10 c = true) ∧ value 10 ds = e.natAbs := by
  rw [exponentChars]
  refine ⟨_, rfl, ?_⟩
  split
  · refine ⟨List.cons_ne_nil _ _, ?_, ?_⟩
    · exact List.forall_mem_cons.mpr ⟨rfl, isDigitOf_of_mem_digits _⟩
    · exact (value_replicate_append 10 1 (digits e.natAbs)).trans (value_digits _)
  · exact ⟨digits_ne_nil _, isDigitOf_of_mem_digits _, value_digits _⟩

theorem readExponent?_exponentChars (e : Int) :
    readExponent? ('e' :: exponentChars e) = some e := by
  obtain ⟨ds, hds, hne, hdigits, hvalue⟩ := exists_exponentChars_eq e
  have hsign : takeSign (exponentChars e) = (decide (e < 0), ds) := by
    rw [hds]
    by_cases hneg : e < 0
    · rw [if_pos hneg, decide_eq_true hneg]
      rfl
    · rw [if_neg hneg, decide_eq_false hneg]
      rfl
  have hall : ds.all (isDigitOf 10) = true := List.all_eq_true.mpr hdigits
  rw [readExponent?, if_pos (.inl rfl), hsign]
  simp only [List.isEmpty_iff, hne, hall, hvalue, Bool.not_true, Bool.false_eq_true, or_self,
    if_false, decide_eq_true_eq, Option.some.injEq]
  split <;> omega

section Layout

variable {ds : List Char} (hds : ∀ c ∈ ds, isDigitOf 10 c = true) (hne : ds ≠ []) (point : Int)

include hds hne

theorem exists_readUnsigned?_spread (places : Nat) (rest : List Char) {e : Int}
    (hrest : rest.takeWhile (isDigitOf 10) = []) (hpoint : ∀ cs, rest ≠ '.' :: cs)
    (he : readExponent? rest = some e) :
    ∃ d, readUnsigned? (spread ds point places false ++ rest) = some d ∧
      toRat d = value 10 ds * 10 ^ (e + point - ds.length) := by
  refine ⟨⟨value 10 (wholeDigits ds point ++ padded (partDigits ds point) places),
    e - (padded (partDigits ds point) places).length⟩, ?_, ?_⟩
  · rw [spread_eq, readUnsigned?_pointed (isDigitOf_of_mem_wholeDigits hds point)
      (wholeDigits_ne_nil hne point) (isDigitOf_of_mem_padded hds point places) hrest hpoint,
      he, Option.map_some]
  · rw [toRat, value_append_padded, value_wholeDigits_append]

/-- The text of digits is read as a decimal that stands for what they denote. -/
theorem exists_readUnsigned?_layout :
    ∃ d, readUnsigned? (layout ds point) = some d ∧
      toRat d = value 10 ds * 10 ^ (point - ds.length) := by
  rw [layout]
  split
  · have hread := exists_readUnsigned?_spread hds hne point 1 [] rfl
      (fun cs h => by cases h) rfl
    rwa [List.append_nil, zero_add] at hread
  · have hread := exists_readUnsigned?_spread hds hne 1 0 ('e' :: exponentChars (point - 1))
      rfl (fun cs h => by cases h) (readExponent?_exponentChars _)
    rwa [sub_add_cancel] at hread

end Layout

/-! ## Characters -/

def numberChars : List Char :=
  ['0', '1', '2', '3', '4', '5', '6', '7', '8', '9', '+', '-', '.', 'e']

theorem mem_numberChars_of_isDigitOf {c : Char} (h : isDigitOf 10 c = true) :
    c ∈ numberChars := by
  have hall : ∀ n < 128, isDigitOf 10 (Char.ofNat n) = true → Char.ofNat n ∈ numberChars := by
    decide
  have hlt := (toNat_of_isWordChar (isWordChar_of_isDigitOf h)).2
  rw [← Char.ofNat_toNat c] at h ⊢
  exact hall c.toNat hlt h

theorem mem_numberChars_of_digits {cs : List Char} (hcs : ∀ c ∈ cs, isDigitOf 10 c = true) :
    ∀ c ∈ cs, c ∈ numberChars := fun c hc => mem_numberChars_of_isDigitOf (hcs c hc)

theorem mem_numberChars_of_mem_exponentChars (e : Int) :
    ∀ c ∈ exponentChars e, c ∈ numberChars := by
  obtain ⟨ds, hds, -, hdigits, -⟩ := exists_exponentChars_eq e
  rw [hds, List.forall_mem_cons]
  refine ⟨?_, mem_numberChars_of_digits hdigits⟩
  split <;> decide

section LayoutCharacters

variable {ds : List Char} (hds : ∀ c ∈ ds, isDigitOf 10 c = true) (point : Int)

include hds

theorem mem_numberChars_of_mem_spread (places : Nat) :
    ∀ c ∈ spread ds point places false, c ∈ numberChars := by
  have hwhole := mem_numberChars_of_digits (isDigitOf_of_mem_wholeDigits hds point)
  have hpart := mem_numberChars_of_digits (isDigitOf_of_mem_padded hds point places)
  rw [spread_eq, pointed]
  split
  · exact hwhole
  · rw [List.forall_mem_append, List.forall_mem_cons]
    exact ⟨hwhole, by decide, hpart⟩

theorem mem_numberChars_of_mem_layout : ∀ c ∈ layout ds point, c ∈ numberChars := by
  rw [layout]
  split
  · exact mem_numberChars_of_mem_spread hds point 1
  · rw [List.forall_mem_append, List.forall_mem_cons]
    exact ⟨mem_numberChars_of_mem_spread hds 1 0, by decide,
      mem_numberChars_of_mem_exponentChars _⟩

variable (hne : ds ≠ [])

include hne

theorem exists_spread_eq_cons (places : Nat) :
    ∃ c cs, spread ds point places false = c :: cs ∧ isDigitOf 10 c = true := by
  obtain ⟨c, cs, hwhole⟩ := List.exists_cons_of_ne_nil (wholeDigits_ne_nil hne point)
  have hdigits := isDigitOf_of_mem_wholeDigits hds point
  rw [hwhole] at hdigits
  have hc := hdigits c List.mem_cons_self
  rw [spread_eq, pointed, hwhole]
  split
  · exact ⟨c, cs, rfl, hc⟩
  · exact ⟨c, _, rfl, hc⟩

theorem exists_layout_eq_cons :
    ∃ c cs, layout ds point = c :: cs ∧ isDigitOf 10 c = true := by
  rw [layout]
  split
  · exact exists_spread_eq_cons hds point hne 1
  · obtain ⟨c, cs, hspread, hc⟩ := exists_spread_eq_cons hds 1 hne 0
    rw [hspread]
    exact ⟨c, _, rfl, hc⟩

end LayoutCharacters

/-- The text of digits is not the text of a whole number: it has a point or an exponent. -/
theorem exists_mem_layout_not_digit (ds : List Char) (point : Int) :
    ∃ c ∈ layout ds point, isDigitOf 10 c = false := by
  rw [layout]
  split
  · have hpart : padded (partDigits ds point) 1 ≠ [] := by
      apply List.ne_nil_of_length_pos
      rw [padded, List.length_append, List.length_replicate]
      omega
    refine ⟨'.', ?_, rfl⟩
    rw [spread_eq, pointed, if_neg (mt List.isEmpty_iff.mp hpart)]
    exact List.mem_append_right _ List.mem_cons_self
  · exact ⟨'e', List.mem_append_right _ List.mem_cons_self, rfl⟩

/-! ## Texts -/

theorem dropUnderscores?_eq_some {last : Char} {cs : List Char} (hlast : last ≠ '_')
    (h : '_' ∉ cs) : dropUnderscores? last cs = some cs := by
  induction cs generalizing last with
  | nil => rw [dropUnderscores?, if_neg hlast]
  | cons c cs ih =>
      rw [List.mem_cons, not_or] at h
      rw [dropUnderscores?, if_neg (Ne.symm h.1), if_neg (fun hc => hlast hc.1),
        ih (Ne.symm h.1) h.2, Option.map_some]

theorem named?_eq_none_of_digit (negative : Bool) {c : Char} (hc : isDigitOf 10 c = true)
    (cs : List Char) : named? negative (c :: cs) = none := by
  have hne : ∀ name : String, (name.toList.all fun d => !isDigitOf 10 d) = true →
      String.ofList ((c :: cs).map Char.toLower) ≠ name := by
    rintro name hname rfl
    rw [String.toList_ofList, List.map_cons, List.all_cons, isDigitOf_toLower, hc] at hname
    cases hname
  simp only [named?]
  rw [if_neg (not_or.mpr ⟨hne "inf" (by decide), hne "infinity" (by decide)⟩),
    if_neg (hne "nan" (by decide))]

def signedChars (negative : Bool) (cs : List Char) : List Char :=
  if negative then '-' :: cs else cs

theorem takeSign_signedChars (negative : Bool) {c : Char} (hc : isDigitOf 10 c = true)
    (cs : List Char) : takeSign (signedChars negative (c :: cs)) = (negative, c :: cs) := by
  cases negative with
  | false => exact takeSign_of_isWordChar (isWordChar_of_isDigitOf hc) cs
  | true => rfl

theorem mem_numberChars_of_mem_signedChars (negative : Bool) {cs : List Char}
    (hcs : ∀ c ∈ cs, c ∈ numberChars) : ∀ c ∈ signedChars negative cs, c ∈ numberChars := by
  cases negative with
  | false => exact hcs
  | true => exact List.forall_mem_cons.mpr ⟨by decide, hcs⟩

theorem numberChars_spec {c : Char} (h : c ∈ numberChars) :
    c.toNat < 128 ∧ isAsciiBlank c = false ∧ c ≠ '_' := by
  have hall : numberChars.all
      (fun c => c.toNat < 128 ∧ isAsciiBlank c = false ∧ c ≠ '_') = true := by decide
  exact of_decide_eq_true (List.all_eq_true.mp hall c h)

/-- Nothing but the sign has to be taken off the text of a number. -/
theorem read?_signedChars (negative : Bool) {c : Char} {cs : List Char}
    (hc : isDigitOf 10 c = true) (hcs : ∀ d ∈ c :: cs, d ∈ numberChars) :
    read? (String.ofList (signedChars negative (c :: cs))) =
      (readUnsigned? (c :: cs)).map (nearest negative) := by
  have hchars := mem_numberChars_of_mem_signedChars negative hcs
  have hplain : plain (signedChars negative (c :: cs)) = signedChars negative (c :: cs) := by
    rw [plain, if_pos]
    rw [List.all_eq_true]
    exact fun d hd => decide_eq_true (numberChars_spec (hchars d hd)).1
  have htrim : trimAscii (signedChars negative (c :: cs)) = signedChars negative (c :: cs) := by
    rw [trimAscii, dropWhile_isAsciiBlank fun d hd => (numberChars_spec (hchars d hd)).2.1,
      dropWhile_isAsciiBlank fun d hd =>
        (numberChars_spec (hchars d (List.mem_reverse.mp hd))).2.1,
      List.reverse_reverse]
  have hunderscores : dropUnderscores? ' ' (signedChars negative (c :: cs)) =
      some (signedChars negative (c :: cs)) :=
    dropUnderscores?_eq_some (by decide) fun hmem => (numberChars_spec (hchars '_' hmem)).2.2 rfl
  rw [read?, String.toList_ofList, hplain, readPlain?, htrim, hunderscores]
  simp only [Option.bind_eq_bind, Option.bind_some, takeSign_signedChars negative hc,
    named?_eq_none_of_digit negative hc]

/-! ## Doubles -/

/-- The digits of the text of a finite double are those of a decimal that is rounded to its
magnitude. -/
theorem exists_text_eq {x : Float} (hfinite : Binary64.exponentField x ≠ 2047) :
    ∃ d : Decimal, toFloat false d = Binary64.abs x ∧
      (Binary64.text x).toList = signedChars (Binary64.isNegative x)
        (layout (digits d.coefficient) ((digits d.coefficient).length + d.exponent)) := by
  have hzero : (if Binary64.isNegative x then -Binary64.magnitude x else Binary64.magnitude x) = 0 ↔
      Binary64.units x = 0 := by
    have hmagnitude : Binary64.magnitude x = 0 ↔ Binary64.units x = 0 := by
      rw [Binary64.magnitude, Rat.mkRat_eq_zero (Nat.ne_of_gt (Nat.two_pow_pos 1074)),
        Int.natCast_eq_zero]
    split
    · rw [neg_eq_zero, hmagnitude]
    · exact hmagnitude
  rw [Binary64.text, Binary64.exact, if_neg hfinite]
  simp only [hzero, String.toList_ofList]
  by_cases hunits : Binary64.units x = 0
  · refine ⟨⟨0, 0⟩, ?_, ?_⟩
    · exact Binary64.ofRatio_zero_eq_abs hfinite hunits 1
    · rw [if_pos hunits]
      rfl
  · obtain ⟨d, hd, hround⟩ := exists_shortest? hfinite hunits
    refine ⟨d, hround, ?_⟩
    rw [if_neg hunits, positiveChars, hd]
    rfl

/-- The text of a finite double is read as that double. -/
theorem read?_text {x : Float} (hfinite : Binary64.exponentField x ≠ 2047) :
    read? (Binary64.text x) = some x := by
  obtain ⟨d, hd, htext⟩ := exists_text_eq hfinite
  have hdigits := isDigitOf_of_mem_digits d.coefficient
  have hne := digits_ne_nil d.coefficient
  generalize hpoint : ((digits d.coefficient).length : Int) + d.exponent = point at htext
  obtain ⟨c, cs, hlayout, hc⟩ := exists_layout_eq_cons hdigits point hne
  obtain ⟨e, he, heq⟩ := exists_readUnsigned?_layout hdigits hne point
  have hchars := mem_numberChars_of_mem_layout hdigits point
  rw [hlayout] at hchars
  have hsame : toRat e = toRat d := by
    rw [heq, value_digits, ← hpoint, add_sub_cancel_left, toRat]
  rw [← String.ofList_toList (s := Binary64.text x), htext, hlayout,
    read?_signedChars _ hc hchars, ← hlayout, he, Option.map_some, nearest_eq_toFloat,
    toFloat_congr _ hsame]
  exact congrArg some (Binary64.ofRatio_isNegative (Binary64.isUndefined_of_ne hfinite) hd)

end EventSieve.Decimal
