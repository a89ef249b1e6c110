import EventSieve.Number.Binary64
import Mathlib

/-!
# Bits of doubles

A double is given by its bits, and every pattern of bits is the pattern of the double
that is made from it, except for those that stand for nothing: these are all brought
to one. The doubles that rounding gives are made from patterns up to that of the
infinity, so none of them is undefined. The lemmas on how the bits of a double are packed
come with the library as a whole, and with no part of it.
-/

namespace EventSieve.Binary64

open Float.Model

theorem isUndefined_iff {x : Float} :
    isUndefined x = true ↔ exponentField x = 2047 ∧ fractionField x ≠ 0 := by
  rw [isUndefined, exact]
  by_cases hexponent : exponentField x = 2047
  · by_cases hfraction : fractionField x = 0
    · simp [hexponent, hfraction]
    · simp [hexponent, hfraction]
  · simp [hexponent]

theorem isUndefined_of_ne {x : Float} (h : exponentField x ≠ 2047) : isUndefined x = false := by
  rw [← Bool.not_eq_true, isUndefined_iff]
  exact fun hundefined => h hundefined.1

theorem exact_eq_infinite_iff {x : Float} {negative : Bool} :
    exact x = .infinite negative ↔
      exponentField x = 2047 ∧ fractionField x = 0 ∧ isNegative x = negative := by
  rw [exact]
  by_cases hexponent : exponentField x = 2047
  · by_cases hfraction : fractionField x = 0
    · simp [hexponent, hfraction]
    · simp [hexponent, hfraction]
  · simp [hexponent]

theorem exponentField_ne_of_exact {x : Float} {q : Rat} (h : exact x = .finite q) :
    exponentField x ≠ 2047 := by
  intro hexponent
  rw [exact, if_pos hexponent] at h
  split at h <;> cases h

theorem toNat_unpackExponent (b : BitVec Format.binary64.numBits) :
    (UnpackedFloat.unpackExponent b).toNat = b.toNat / 2 ^ 52 % 2 ^ 11 := by
  rw [UnpackedFloat.unpackExponent_def, BitVec.extractLsb'_toNat, Nat.shiftRight_eq_div_pow]

theorem toNat_unpackMantissa (b : BitVec Format.binary64.numBits) :
    (UnpackedFloat.unpackMantissa b).toNat = b.toNat % 2 ^ 52 := by
  rw [UnpackedFloat.unpackMantissa_def, BitVec.extractLsb'_toNat, Nat.shiftRight_zero]

theorem toBits_ofBits {bits : UInt64}
    (h : bits.toNat / 2 ^ 52 % 2 ^ 11 = 2047 → bits.toNat % 2 ^ 52 = 0) :
    (Float.ofBits bits).toBits = bits := by
  have hnan : @UnpackedFloat.isNaNBits Format.binary64 bits.toBitVec = false := by
    rw [UnpackedFloat.isNaNBits, decide_eq_false_iff_not]
    rintro ⟨hexponent, hmantissa⟩
    apply hmantissa
    rw [← BitVec.toNat_inj, toNat_unpackExponent] at hexponent
    rw [← BitVec.toNat_inj, toNat_unpackMantissa]
    exact h hexponent
  have hpack := @UnpackedFloat.pack_unpack Format.binary64 bits.toBitVec (by decide)
  rw [hnan, if_neg (by decide)] at hpack
  exact UInt64.toBitVec_inj.mp hpack

/-- A sign and a magnitude that is at most that of the infinity make no double that stands for
nothing. -/
theorem isUndefined_ofBits {n bits : Nat} (hbits : bits ≤ 2047 * 2 ^ 52)
    (hn : n = bits ∨ n = 2 ^ 63 + bits) :
    isUndefined (Float.ofBits (UInt64.ofNat n)) = false := by
  have hlt : n < 2 ^ 64 := by omega
  have htoNat : (UInt64.ofNat n).toNat = n := UInt64.toNat_ofNat_of_lt hlt
  have hfields : n / 2 ^ 52 % 2 ^ 11 = 2047 → n % 2 ^ 52 = 0 := by omega
  rw [← Bool.not_eq_true, isUndefined_iff, exponentField, fractionField,
    toBits_ofBits (by rwa [htoNat]), htoNat]
  rintro ⟨hexponent, hfraction⟩
  exact hfraction (hfields hexponent)

theorem nearestBits_le (num den : Nat) : nearestBits num den ≤ 2047 * 2 ^ 52 := by
  rw [nearestBits]
  exact Nat.min_le_right _ _

theorem isUndefined_ofRatio (negative : Bool) (num den : Nat) :
    isUndefined (ofRatio negative num den) = false := by
  have hbits : (if num = 0 then 0 else nearestBits num den) ≤ 2047 * 2 ^ 52 := by
    split
    · exact Nat.zero_le _
    · exact nearestBits_le num den
  rw [ofRatio]
  apply isUndefined_ofBits hbits
  cases negative with
  | false => exact .inl (if_neg Bool.false_ne_true)
  | true => exact .inr (if_pos rfl)

theorem isUndefined_infinity (negative : Bool) : isUndefined (infinity negative) = false := by
  rw [infinity]
  apply isUndefined_ofBits (Nat.le_refl (2047 * 2 ^ 52))
  cases negative with
  | false => simp
  | true => simp

/-! ## Fields of bits -/

theorem eq_of_toBits {x y : Float} (h : x.toBits.toNat = y.toBits.toNat) : x = y := by
  rw [← Float.ofBits_toBits x, ← Float.ofBits_toBits y, UInt64.toNat_inj.mp h]

def signBit (negative : Bool) : Nat := if negative then 2 ^ 63 else 0

/-- The significand of a double, with the bit that is not written. -/
def significand (x : Float) : Nat :=
  if exponentField x = 0 then fractionField x else 2 ^ 52 + fractionField x

theorem fractionField_lt (x : Float) : fractionField x < 2 ^ 52 := Nat.mod_lt _ (by decide)

theorem exponentField_lt (x : Float) : exponentField x < 2 ^ 11 := Nat.mod_lt _ (by decide)

theorem significand_lt (x : Float) : significand x < 2 ^ 53 := by
  have h := fractionField_lt x
  rw [significand]
  split <;> omega

/-- A double is at the least place or has a significand of full length. -/
theorem exponentField_eq_zero_or_le_significand (x : Float) :
    exponentField x - 1 = 0 ∨ 2 ^ 52 ≤ significand x := by
  rw [significand]
  split <;> omega

theorem units_eq (x : Float) : units x = significand x * 2 ^ (exponentField x - 1) := by
  rw [units, significand]
  split
  · next h => rw [h, Nat.zero_sub, Nat.pow_zero, Nat.mul_one]
  · rw [Nat.pow_eq]

/-- The fields make up the bits: a carry out of the significand counts the exponent up. -/
theorem toNat_toBits (x : Float) :
    x.toBits.toNat =
      signBit (isNegative x) + ((exponentField x - 1) * 2 ^ 52 + significand x) := by
  have hlt : x.toBits.toNat < 2 ^ 64 := UInt64.toNat_lt x.toBits
  rw [signBit, significand, isNegative, exponentField, fractionField]
  by_cases hsign : 2 ^ 63 ≤ x.toBits.toNat
  · simp only [hsign, decide_true, if_true]
    split <;> omega
  · simp only [hsign, decide_false, if_false, Bool.false_eq_true]
    split <;> omega

/-! ## Special doubles -/

theorem toBits_of_isUndefined {x : Float} (h : isUndefined x = true) :
    x.toBits.toBitVec = UnpackedFloat.packedNaN Format.binary64 := by
  obtain ⟨hexponent, hfraction⟩ := isUndefined_iff.mp h
  apply x.toModel.valid.eq_packedNaN
  · rw [← BitVec.toNat_inj, toNat_unpackExponent]
    exact hexponent
  · rw [ne_eq, ← BitVec.toNat_inj, toNat_unpackMantissa]
    exact hfraction

theorem eq_undefined_of_isUndefined {x : Float} (h : isUndefined x = true) : x = undefined := by
  have hbits : x.toBits.toBitVec = undefined.toBits.toBitVec :=
    (toBits_of_isUndefined h).trans (toBits_of_isUndefined (by decide +kernel)).symm
  exact eq_of_toBits (congrArg BitVec.toNat hbits)

/-! ## Signs -/

theorem unpack_eq_neg {a b : BitVec Format.binary64.numBits}
    (hexponent : UnpackedFloat.unpackExponent a = UnpackedFloat.unpackExponent b)
    (hmantissa : UnpackedFloat.unpackMantissa a = UnpackedFloat.unpackMantissa b)
    (hsign : UnpackedFloat.Sign.ofBitVec (UnpackedFloat.unpackSign a) =
      -UnpackedFloat.Sign.ofBitVec (UnpackedFloat.unpackSign b)) :
    UnpackedFloat.unpack Format.binary64 a = (UnpackedFloat.unpack Format.binary64 b).neg := by
  simp only [UnpackedFloat.unpack, hexponent, hmantissa, hsign]
  split
  · split <;> rfl
  · split
    · split <;> rfl
    · rfl

theorem toNat_unpackSign (b : BitVec Format.binary64.numBits) :
    (UnpackedFloat.unpackSign b).toNat = b.toNat / 2 ^ 63 % 2 := by
  rw [UnpackedFloat.unpackSign, BitVec.toNat_cast, BitVec.extractLsb, BitVec.extractLsb'_toNat,
    Nat.shiftRight_eq_div_pow]
  rfl

/-- The bits of a negative double without the sign make its opposite. -/
theorem neg_eq_ofBits {x : Float} (h : isNegative x = true) :
    -x = Float.ofBits (UInt64.ofNat (x.toBits.toNat - 2 ^ 63)) := by
  have hlt : x.toBits.toNat < 2 ^ 64 := UInt64.toNat_lt x.toBits
  have hle : 2 ^ 63 ≤ x.toBits.toNat := of_decide_eq_true h
  have hsmall : x.toBits.toNat - 2 ^ 63 < 2 ^ 64 := by omega
  have htoNat : (UInt64.ofNat (x.toBits.toNat - 2 ^ 63)).toBitVec.toNat =
      x.toBits.toNat - 2 ^ 63 := UInt64.toNat_ofNat_of_lt hsmall
  have hunpack : UnpackedFloat.unpack Format.binary64
      (UInt64.ofNat (x.toBits.toNat - 2 ^ 63)).toBitVec =
        (UnpackedFloat.unpack Format.binary64 x.toBits.toBitVec).neg := by
    generalize (UInt64.ofNat (x.toBits.toNat - 2 ^ 63)).toBitVec = bits at htoNat
    apply unpack_eq_neg
    · rw [← BitVec.toNat_inj, toNat_unpackExponent, toNat_unpackExponent, htoNat]
      show _ = x.toBits.toNat / 2 ^ 52 % 2 ^ 11
      omega
    · rw [← BitVec.toNat_inj, toNat_unpackMantissa, toNat_unpackMantissa, htoNat]
      show _ = x.toBits.toNat % 2 ^ 52
      omega
    · have hpositive : @UnpackedFloat.unpackSign Format.binary64 bits = 0#1 := by
        rw [← BitVec.toNat_inj, toNat_unpackSign, htoNat]
        show _ = 0
        omega
      have hnegative :
          @UnpackedFloat.unpackSign Format.binary64 x.toBits.toBitVec = 1#1 := by
        rw [← BitVec.toNat_inj, toNat_unpackSign]
        show x.toBits.toNat / 2 ^ 63 % 2 = 1
        omega
      rw [hpositive, hnegative]
      rfl
  show Float.ofModel (pack x.toModel.unpack.neg) = Float.ofModel (pack _)
  rw [hunpack]
  rfl

theorem toNat_toBits_ofBits {n : Nat} (hn : n < 2 ^ 64)
    (h : n / 2 ^ 52 % 2 ^ 11 = 2047 → n % 2 ^ 52 = 0) :
    (Float.ofBits (UInt64.ofNat n)).toBits.toNat = n := by
  have htoNat : (UInt64.ofNat n).toNat = n := UInt64.toNat_ofNat_of_lt hn
  rw [toBits_ofBits (by rwa [htoNat]), htoNat]

theorem toNat_toBits_abs {x : Float} (h : isUndefined x = false) :
    (Binary64.abs x).toBits.toNat = (exponentField x - 1) * 2 ^ 52 + significand x := by
  have hfields := toNat_toBits x
  have hlt : x.toBits.toNat < 2 ^ 64 := UInt64.toNat_lt x.toBits
  rw [Binary64.abs]
  cases hsign : isNegative x with
  | false =>
      rw [if_neg Bool.false_ne_true, hfields, hsign, signBit, if_neg Bool.false_ne_true,
        Nat.zero_add]
  | true =>
      rw [hsign, signBit, if_pos rfl] at hfields
      have hdefined : exponentField x = 2047 → fractionField x = 0 := by
        intro hexponent
        by_contra hfraction
        rw [isUndefined_iff.mpr ⟨hexponent, hfraction⟩] at h
        cases h
      rw [exponentField, fractionField] at hdefined
      rw [if_pos rfl, neg_eq_ofBits hsign, toNat_toBits_ofBits]
      · omega
      · omega
      · omega

theorem toNat_toBits_infinity (negative : Bool) :
    (infinity negative).toBits.toNat = signBit negative + 2047 * 2 ^ 52 := by
  have hsign : signBit negative = 0 ∨ signBit negative = 2 ^ 63 := by
    cases negative with
    | false => exact .inl rfl
    | true => exact .inr rfl
  show (Float.ofBits (UInt64.ofNat (signBit negative + 2047 * 2 ^ 52))).toBits.toNat = _
  rw [toNat_toBits_ofBits (by omega) (by omega)]

theorem toNat_toBits_ofRatio (negative : Bool) (num den : Nat) :
    (ofRatio negative num den).toBits.toNat =
      signBit negative + if num = 0 then 0 else nearestBits num den := by
  have hbits : (if num = 0 then 0 else nearestBits num den) ≤ 2047 * 2 ^ 52 := by
    split
    · exact Nat.zero_le _
    · exact nearestBits_le num den
  rw [ofRatio]
  generalize (if num = 0 then 0 else nearestBits num den) = bits at hbits ⊢
  cases negative with
  | false =>
      rw [signBit, if_neg Bool.false_ne_true, if_neg Bool.false_ne_true, Nat.zero_add,
        toNat_toBits_ofBits (by omega) (by omega)]
  | true => rw [signBit, if_pos rfl, if_pos rfl, toNat_toBits_ofBits (by omega) (by omega)]

theorem eq_infinity_of_exact {x : Float} {negative : Bool} (h : exact x = .infinite negative) :
    x = infinity negative := by
  obtain ⟨hexponent, hfraction, hsign⟩ := exact_eq_infinite_iff.mp h
  apply eq_of_toBits
  rw [toNat_toBits, toNat_toBits_infinity, significand, hexponent, hfraction, hsign]
  rfl

theorem ofRatio_zero_eq_abs {x : Float} (hfinite : exponentField x ≠ 2047) (hunits : units x = 0)
    (den : Nat) : ofRatio false 0 den = Binary64.abs x := by
  have hsignificand : significand x = 0 := by
    rw [units_eq, Nat.mul_eq_zero] at hunits
    exact hunits.resolve_right (Nat.ne_of_gt (Nat.two_pow_pos _))
  have hexponent := exponentField_eq_zero_or_le_significand x
  apply eq_of_toBits
  rw [toNat_toBits_ofRatio, toNat_toBits_abs (isUndefined_of_ne hfinite), hsignificand,
    if_pos rfl, signBit, if_neg Bool.false_ne_true]
  omega

theorem ofRatio_isNegative {x : Float} (h : isUndefined x = false) {num den : Nat}
    (habs : ofRatio false num den = Binary64.abs x) : ofRatio (isNegative x) num den = x := by
  have hbits := toNat_toBits_ofRatio false num den
  rw [habs, toNat_toBits_abs h, signBit, if_neg Bool.false_ne_true, Nat.zero_add] at hbits
  apply eq_of_toBits
  rw [toNat_toBits_ofRatio, ← hbits, ← toNat_toBits]

end EventSieve.Binary64
