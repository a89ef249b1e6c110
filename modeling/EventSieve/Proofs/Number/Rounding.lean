import EventSieve.Proofs.Number.Binary64
import Mathlib.Algebra.Order.Field.Power
import Mathlib.Data.Int.Log
import Mathlib.Data.Rat.Floor
import Mathlib.Tactic.FieldSimp
import Mathlib.Tactic.Linarith
import Mathlib.Tactic.Positivity
import Mathlib.Tactic.Ring

/-!
# Rounding to doubles

Rounding is a function of the ratio alone, however it is written: the place of the last bit
is read off its binary logarithm, and the significand is the nearest whole number of units
at that place. A ratio that is closer to a double than a quarter of the distance to the next
one is rounded to it; a ratio beyond every double is rounded to the infinity, and one below
half the least double to zero.
-/

namespace EventSieve.Binary64

/-! ## Powers as integers -/

theorem div_lt_zpow_iff {b : Nat} (hb : 0 < b) (num : Nat) {den : Nat} (hden : 0 < den) (k : Int) :
    (num : ℚ) / den < (b : ℚ) ^ k ↔ num * b ^ (-k).toNat < den * b ^ k.toNat := by
  have hbq : (0 : ℚ) < b := by exact_mod_cast hb
  have hdenq : (0 : ℚ) < den := by exact_mod_cast hden
  rcases Int.le_total 0 k with hk | hk
  · obtain ⟨n, rfl⟩ := Int.eq_ofNat_of_zero_le hk
    have hneg : (-(n : Int)).toNat = 0 := by omega
    rw [hneg, Int.toNat_natCast, zpow_natCast, div_lt_iff₀ hdenq, pow_zero, mul_one, mul_comm]
    exact_mod_cast Iff.rfl
  · obtain ⟨n, hn⟩ := Int.eq_ofNat_of_zero_le (Int.neg_nonneg_of_nonpos hk)
    obtain rfl : k = -(n : Int) := by omega
    have hzero : (-(n : Int)).toNat = 0 := by omega
    rw [neg_neg, hzero, Int.toNat_natCast, zpow_neg, zpow_natCast, pow_zero, mul_one,
      div_lt_iff₀ hdenq, inv_mul_eq_div, lt_div_iff₀ (pow_pos hbq n)]
    exact_mod_cast Iff.rfl

theorem zpow_le_div_iff {b : Nat} (hb : 0 < b) (num : Nat) {den : Nat} (hden : 0 < den) (k : Int) :
    (b : ℚ) ^ k ≤ (num : ℚ) / den ↔ den * b ^ k.toNat ≤ num * b ^ (-k).toNat := by
  rw [← not_lt, div_lt_zpow_iff hb num hden, not_lt]

theorem cast_div_zpow (b num den : Nat) (k : Int) :
    ((num * b ^ (-k).toNat : Nat) : ℚ) / ((den * b ^ k.toNat : Nat) : ℚ) =
      (num : ℚ) / den / (b : ℚ) ^ k := by
  rcases Int.le_total 0 k with hk | hk
  · obtain ⟨n, rfl⟩ := Int.eq_ofNat_of_zero_le hk
    have hneg : (-(n : Int)).toNat = 0 := by omega
    rw [hneg, Int.toNat_natCast, zpow_natCast]
    push_cast
    rw [pow_zero, mul_one, div_div]
  · obtain ⟨n, hn⟩ := Int.eq_ofNat_of_zero_le (Int.neg_nonneg_of_nonpos hk)
    obtain rfl : k = -(n : Int) := by omega
    have hzero : (-(n : Int)).toNat = 0 := by omega
    rw [neg_neg, hzero, Int.toNat_natCast, zpow_neg, zpow_natCast]
    push_cast
    rw [pow_zero, mul_one, div_inv_eq_mul, mul_div_right_comm]

/-! ## The nearest whole number -/

theorem roundHalfEven_mul_left {k : Nat} (hk : 0 < k) (num den : Nat) :
    roundHalfEven (k * num) (k * den) = roundHalfEven num den := by
  have hlt : 2 * (k * (num % den)) < k * den ↔ 2 * (num % den) < den := by
    rw [Nat.mul_left_comm]
    exact Nat.mul_lt_mul_left hk
  have heq : 2 * (k * (num % den)) = k * den ↔ 2 * (num % den) = den := by
    rw [Nat.mul_left_comm]
    exact Nat.mul_right_inj (Nat.ne_of_gt hk)
  simp only [roundHalfEven, Nat.mul_div_mul_left _ _ hk, Nat.mul_mod_mul_left, hlt, heq]

/-- What is rounded to is at most one half away. -/
theorem abs_roundHalfEven_sub_le (num : Nat) {den : Nat} (hden : 0 < den) :
    |(roundHalfEven num den : ℚ) - num / den| ≤ 1 / 2 := by
  have hdenq : (0 : ℚ) < den := by exact_mod_cast hden
  have hmod := Nat.mod_lt num hden
  have hsum := Nat.div_add_mod num den
  have hbounds : 2 * num ≤ 2 * (den * roundHalfEven num den) + den ∧
      2 * (den * roundHalfEven num den) ≤ 2 * num + den := by
    rw [roundHalfEven]
    split
    · omega
    · rw [Nat.mul_add]
      omega
  have hlow : (2 * num : ℚ) ≤ 2 * (den * roundHalfEven num den) + den := by
    exact_mod_cast hbounds.1
  have hhigh : (2 * (den * roundHalfEven num den) : ℚ) ≤ 2 * num + den := by
    exact_mod_cast hbounds.2
  rw [abs_le]
  constructor
  · rw [neg_le_sub_iff_le_add, div_le_iff₀ hdenq]
    linarith
  · rw [sub_le_iff_le_add, ← sub_le_iff_le_add', le_div_iff₀ hdenq]
    linarith

/-- A whole number that is less than one half away is the one that is rounded to. -/
theorem roundHalfEven_eq_of_near {num den m : Nat} (hden : 0 < den)
    (h : |(num : ℚ) / den - m| < 1 / 2) : roundHalfEven num den = m := by
  have hround := abs_roundHalfEven_sub_le num hden
  have hlt : |((roundHalfEven num den : Int) : ℚ) - (m : Int)| < 1 := by
    push_cast
    calc |(roundHalfEven num den : ℚ) - m|
        ≤ |(roundHalfEven num den : ℚ) - num / den| + |(num : ℚ) / den - m| := abs_sub_le _ _ _
      _ < 1 := by linarith
  have hint : |(roundHalfEven num den : Int) - m| < 1 := by exact_mod_cast hlt
  rw [Int.abs_lt_one_iff, sub_eq_zero] at hint
  exact_mod_cast hint

/-! ## The place of the last bit -/

theorem log_div_near {num den : Nat} (hnum : 0 < num) (hden : 0 < den) :
    (Nat.log2 num : Int) - Nat.log2 den - 1 ≤ Int.log 2 ((num : ℚ) / den) ∧
      Int.log 2 ((num : ℚ) / den) ≤ (Nat.log2 num : Int) - Nat.log2 den := by
  have hnumq : (0 : ℚ) < num := by exact_mod_cast hnum
  have hdenq : (0 : ℚ) < den := by exact_mod_cast hden
  have hnum_low : (2 : ℚ) ^ Nat.log2 num ≤ num := by
    exact_mod_cast Nat.log2_self_le (Nat.ne_of_gt hnum)
  have hnum_high : (num : ℚ) < 2 ^ (Nat.log2 num + 1) := by exact_mod_cast Nat.lt_log2_self
  have hden_low : (2 : ℚ) ^ Nat.log2 den ≤ den := by
    exact_mod_cast Nat.log2_self_le (Nat.ne_of_gt hden)
  have hden_high : (den : ℚ) < 2 ^ (Nat.log2 den + 1) := by exact_mod_cast Nat.lt_log2_self
  constructor
  · rw [← Int.zpow_le_iff_le_log (by decide) (div_pos hnumq hdenq), Nat.cast_ofNat]
    calc (2 : ℚ) ^ ((Nat.log2 num : Int) - Nat.log2 den - 1)
        = 2 ^ Nat.log2 num / 2 ^ (Nat.log2 den + 1) := by
          rw [sub_sub, zpow_sub₀ two_ne_zero]
          norm_cast
      _ ≤ num / den := div_le_div₀ hnumq.le hnum_low hdenq hden_high.le
  · rw [← Int.lt_add_one_iff, ← Int.lt_zpow_iff_log_lt (by decide) (div_pos hnumq hdenq),
      Nat.cast_ofNat]
    calc (num : ℚ) / den < 2 ^ (Nat.log2 num + 1) / 2 ^ Nat.log2 den :=
          div_lt_div₀ hnum_high hden_low (by positivity) (by positivity)
      _ = (2 : ℚ) ^ ((Nat.log2 num : Int) - Nat.log2 den + 1) := by
          rw [sub_add_eq_add_sub, zpow_sub₀ two_ne_zero]
          norm_cast

theorem ratioLog2_eq_log {num den : Nat} (hnum : 0 < num) (hden : 0 < den) :
    ratioLog2 num den = Int.log 2 ((num : ℚ) / den) := by
  have hnumq : (0 : ℚ) < num := by exact_mod_cast hnum
  have hdenq : (0 : ℚ) < den := by exact_mod_cast hden
  obtain ⟨hlow, hhigh⟩ := log_div_near hnum hden
  rw [ratioLog2]
  generalize (Nat.log2 num : Int) - (Nat.log2 den : Int) = e at hlow hhigh ⊢
  have hreached : e ≤ Int.log 2 ((num : ℚ) / den) ↔
      den * 2 ^ e.toNat ≤ num * 2 ^ (-e).toNat := by
    rw [← Int.zpow_le_iff_le_log (by decide) (div_pos hnumq hdenq),
      zpow_le_div_iff (by decide) num hden]
  by_cases hsign : 0 ≤ e
  · rw [show (-e).toNat = 0 by omega, pow_zero, mul_one] at hreached
    simp only [hsign, if_true, Nat.pow_eq, decide_eq_true_eq, ← hreached]
    split <;> omega
  · rw [show e.toNat = 0 by omega, pow_zero, mul_one] at hreached
    simp only [hsign, if_false, Nat.pow_eq, decide_eq_true_eq, ← hreached]
    split <;> omega

/-- The place of the last bit of the double nearest to a positive ratio. -/
def lastPlace (q : ℚ) : Int := max (Int.log 2 q - 52) (-1074)

theorem nearestBits_eq {num den : Nat} (hnum : 0 < num) (hden : 0 < den) {place : Int}
    (hplace : place = lastPlace ((num : ℚ) / den)) :
    nearestBits num den =
      min ((place + 1074).toNat * 2 ^ 52 +
        roundHalfEven (num * 2 ^ (-place).toNat) (den * 2 ^ place.toNat)) (2047 * 2 ^ 52) := by
  rw [nearestBits, ratioLog2_eq_log hnum hden, ← lastPlace, ← hplace]
  by_cases hsign : 0 ≤ place
  · rw [if_pos hsign, show (-place).toNat = 0 by omega, pow_zero, mul_one, Nat.pow_eq]
  · rw [if_neg hsign, show place.toNat = 0 by omega, pow_zero, mul_one, Nat.pow_eq]

theorem nearestBits_mul_left {k num den : Nat} (hk : 0 < k) (hnum : 0 < num) (hden : 0 < den) :
    nearestBits (k * num) (k * den) = nearestBits num den := by
  have hratio : ((k * num : Nat) : ℚ) / ((k * den : Nat) : ℚ) = num / den := by
    push_cast
    exact mul_div_mul_left _ _ (by exact_mod_cast Nat.ne_of_gt hk)
  rw [nearestBits_eq (Nat.mul_pos hk hnum) (Nat.mul_pos hk hden) (congrArg lastPlace hratio.symm),
    nearestBits_eq hnum hden rfl, mul_assoc, mul_assoc, roundHalfEven_mul_left hk]

theorem ofRatio_congr (negative : Bool) {num den num' den' : Nat} (hden : 0 < den)
    (hden' : 0 < den') (h : num * den' = num' * den) :
    ofRatio negative num den = ofRatio negative num' den' := by
  rcases Nat.eq_zero_or_pos num with rfl | hnum
  · have hnum' : num' = 0 := by
      rw [Nat.zero_mul, eq_comm, Nat.mul_eq_zero] at h
      omega
    rw [hnum', ofRatio, ofRatio, if_pos rfl, if_pos rfl]
  · have hnum' : 0 < num' := Nat.pos_of_mul_pos_right (h ▸ Nat.mul_pos hnum hden')
    have hbits : nearestBits num den = nearestBits num' den' := by
      rw [← nearestBits_mul_left hden' hnum hden, ← nearestBits_mul_left hden hnum' hden',
        mul_comm den' num, h, mul_comm num' den, mul_comm den' den]
    rw [ofRatio, ofRatio, if_neg (Nat.ne_of_gt hnum), if_neg (Nat.ne_of_gt hnum'), hbits]

/-- The significand is the whole number nearest to the ratio in units of the last place. -/
theorem nearestBits_eq_of_near {num den m : Nat} (hnum : 0 < num) (hden : 0 < den) (place : Int)
    (hplace : place = lastPlace ((num : ℚ) / den))
    (hm : |(num : ℚ) / den / 2 ^ place - m| < 1 / 2) :
    nearestBits num den = min ((place + 1074).toNat * 2 ^ 52 + m) (2047 * 2 ^ 52) := by
  have hpos : 0 < den * 2 ^ place.toNat := Nat.mul_pos hden (Nat.two_pow_pos _)
  rw [nearestBits_eq hnum hden hplace, roundHalfEven_eq_of_near hpos]
  rw [cast_div_zpow]
  exact_mod_cast hm

theorem lastPlace_eq_of_le {q : ℚ} {place : Int} (hplace : -1074 ≤ place)
    (hlow : (2 : ℚ) ^ (52 + place) ≤ q) (hhigh : q < 2 ^ (53 + place)) : lastPlace q = place := by
  have hq : 0 < q := lt_of_lt_of_le (by positivity) hlow
  have hge : 52 + place ≤ Int.log 2 q := (Int.zpow_le_iff_le_log (by decide) hq).mp hlow
  have hlt : Int.log 2 q < 53 + place := (Int.lt_zpow_iff_log_lt (by decide) hq).mp hhigh
  rw [lastPlace]
  omega

theorem lastPlace_eq_least {q : ℚ} (hq : 0 < q) (hhigh : q < 2 ^ (53 + (-1074 : Int))) :
    lastPlace q = -1074 := by
  have hlt : Int.log 2 q < 53 + (-1074) := (Int.lt_zpow_iff_log_lt (by decide) hq).mp hhigh
  rw [lastPlace]
  omega

/-- Beyond every double a ratio is rounded to the infinity. -/
theorem nearestBits_of_large {num den : Nat} (hnum : 0 < num) (hden : 0 < den)
    (h : (2 : ℚ) ^ (1100 : Int) ≤ num / den) : nearestBits num den = 2047 * 2 ^ 52 := by
  have hq : (0 : ℚ) < num / den := lt_of_lt_of_le (by positivity) h
  have hlog : 1100 ≤ Int.log 2 ((num : ℚ) / den) :=
    (Int.zpow_le_iff_le_log (by decide) hq).mp h
  have hplace : 1048 ≤ lastPlace ((num : ℚ) / den) := by
    rw [lastPlace]
    omega
  rw [nearestBits_eq hnum hden rfl]
  omega

theorem nearestBits_of_small {num den : Nat} (hnum : 0 < num) (hden : 0 < den)
    (h : (num : ℚ) / den < 2 ^ (-1075 : Int)) : nearestBits num den = 0 := by
  have hq : (0 : ℚ) < num / den := div_pos (by exact_mod_cast hnum) (by exact_mod_cast hden)
  have hhigh : (num : ℚ) / den < 2 ^ (53 + (-1074 : Int)) :=
    h.trans (zpow_lt_zpow_right₀ one_lt_two (by decide))
  have hplace := lastPlace_eq_least hq hhigh
  rw [nearestBits_eq_of_near (m := 0) hnum hden _ hplace.symm]
  · rfl
  · rw [Nat.cast_zero, sub_zero, abs_of_pos (by positivity), div_lt_iff₀ (by positivity)]
    calc (num : ℚ) / den < 2 ^ (-1075 : Int) := h
      _ = 1 / 2 * 2 ^ (-1074 : Int) := by
        rw [show (-1075 : Int) = -1 + -1074 by norm_num, zpow_add₀ two_ne_zero, zpow_neg_one,
          one_div]

/-- A ratio that is so near to `m` units at a place that it is within one part in `2 * 10 ^ 16`
of it is rounded to it. -/
theorem nearestBits_of_near {num den m e : Nat} (hnum : 0 < num) (hden : 0 < den)
    (hm : m < 2 ^ 53) (hnormal : e = 0 ∨ 2 ^ 52 ≤ m) (he : e ≤ 2045)
    (hnear : |(num : ℚ) / den / 2 ^ ((e : Int) - 1074) - m| * (2 * 10 ^ 16) ≤ m) :
    nearestBits num den = e * 2 ^ 52 + m := by
  set place : Int := (e : Int) - 1074 with hplace
  set y : ℚ := (num : ℚ) / den / 2 ^ place with hy
  have hpow : (0 : ℚ) < 2 ^ place := by positivity
  have hq : (0 : ℚ) < num / den := div_pos (by exact_mod_cast hnum) (by exact_mod_cast hden)
  have hqy : (num : ℚ) / den = y * 2 ^ place := by
    rw [hy, div_mul_cancel₀ _ hpow.ne']
  have hmq : (m : ℚ) + 1 ≤ 2 ^ 53 := by exact_mod_cast hm
  obtain ⟨hlow, hhigh⟩ := abs_le.mp ((le_div_iff₀ (by norm_num)).mpr hnear)
  have hhalf : |y - m| < 1 / 2 := by
    rw [abs_lt]
    constructor <;> linarith
  have hcap : (place + 1074).toNat * 2 ^ 52 + m ≤ 2047 * 2 ^ 52 := by omega
  have hupper : (num : ℚ) / den < 2 ^ (53 + place) := by
    rw [hqy, zpow_add₀ two_ne_zero]
    apply mul_lt_mul_of_pos_right _ hpow
    rw [zpow_ofNat]
    linarith
  rcases Nat.eq_zero_or_pos e with rfl | hepos
  · have hleast : place = -1074 := by omega
    rw [nearestBits_eq_of_near hnum hden place _ hhalf, min_eq_left hcap, hleast]
    · rfl
    · rw [hleast] at hupper ⊢
      exact (lastPlace_eq_least hq hupper).symm
  · have hm52 : 2 ^ 52 ≤ m := hnormal.resolve_left (Nat.ne_of_gt hepos)
    have hm52q : (2 : ℚ) ^ 52 ≤ m := by exact_mod_cast hm52
    by_cases hbinade : (2 : ℚ) ^ 52 ≤ y
    · rw [nearestBits_eq_of_near hnum hden place _ hhalf, min_eq_left hcap]
      · rw [show (place + 1074).toNat = e by omega]
      · refine (lastPlace_eq_of_le (by omega) ?_ hupper).symm
        rw [hqy, zpow_add₀ two_ne_zero]
        exact mul_le_mul_of_nonneg_right hbinade hpow.le
    · -- just below the least significand of a place the last place is one lower
      rw [not_le] at hbinade
      have hleast : m = 2 ^ 52 := by
        have hlt : (m : ℚ) < 2 ^ 52 + 1 := by linarith
        have hltNat : m < 2 ^ 52 + 1 := by exact_mod_cast hlt
        omega
      have hhalves : (num : ℚ) / den / 2 ^ (place - 1) = 2 * y := by
        rw [zpow_sub₀ two_ne_zero, zpow_one, hy]
        field_simp
      rw [nearestBits_eq_of_near (m := 2 ^ 53) hnum hden (place - 1)]
      · rw [hleast]
        omega
      · symm
        apply lastPlace_eq_of_le (by omega)
        · rw [hqy, show 52 + (place - 1) = 51 + place by ring, zpow_add₀ two_ne_zero]
          apply mul_le_mul_of_nonneg_right _ hpow.le
          rw [zpow_ofNat]
          linarith
        · rw [hqy, show 53 + (place - 1) = 52 + place by ring, zpow_add₀ two_ne_zero]
          exact mul_lt_mul_of_pos_right hbinade hpow
      · rw [hhalves, abs_lt]
        rw [hleast] at hlow hhigh
        push_cast at hlow hhigh ⊢
        constructor <;> linarith

/-! ## The double that is near -/

/-- A ratio that is within one part in `2 * 10 ^ 16` of a finite double other than zero is rounded
to its magnitude. -/
theorem ofRatio_eq_abs_of_near {x : Float} (hfinite : exponentField x ≠ 2047)
    (hunits : units x ≠ 0) {num den : Nat} (hden : 0 < den)
    (hnear : |(num : ℚ) / den - (units x : ℚ) / 2 ^ 1074| * (2 * 10 ^ 16) ≤
      (units x : ℚ) / 2 ^ 1074) :
    ofRatio false num den = Binary64.abs x := by
  have hexponent := exponentField_lt x
  have hvalue : (units x : ℚ) / 2 ^ 1074 =
      significand x * 2 ^ (((exponentField x - 1 : Nat) : Int) - 1074) := by
    rw [units_eq, zpow_sub₀ two_ne_zero, zpow_natCast, zpow_ofNat, mul_div_assoc']
    push_cast
    rfl
  have hpos : (0 : ℚ) < units x / 2 ^ 1074 := by
    have : (0 : ℚ) < units x := by exact_mod_cast Nat.pos_of_ne_zero hunits
    positivity
  have hnum : 0 < num := by
    apply Nat.pos_of_ne_zero
    rintro rfl
    rw [Nat.cast_zero, zero_div, zero_sub, abs_neg, abs_of_pos hpos] at hnear
    generalize (units x : ℚ) / 2 ^ 1074 = q at hpos hnear
    linarith
  rw [hvalue] at hnear
  have hpow : (0 : ℚ) < 2 ^ (((exponentField x - 1 : Nat) : Int) - 1074) := by positivity
  have hbits : nearestBits num den = (exponentField x - 1) * 2 ^ 52 + significand x := by
    apply nearestBits_of_near hnum hden (significand_lt x)
      (exponentField_eq_zero_or_le_significand x) (by omega)
    rw [← mul_le_mul_iff_of_pos_right hpow]
    refine le_trans (le_of_eq ?_) hnear
    rw [mul_right_comm, ← abs_of_pos hpow, ← abs_mul, abs_of_pos hpow, sub_mul,
      div_mul_cancel₀ _ hpow.ne']
  apply eq_of_toBits
  rw [toNat_toBits_ofRatio, toNat_toBits_abs (isUndefined_of_ne hfinite),
    if_neg (Nat.ne_of_gt hnum), hbits, signBit, if_neg Bool.false_ne_true, Nat.zero_add]

end EventSieve.Binary64
