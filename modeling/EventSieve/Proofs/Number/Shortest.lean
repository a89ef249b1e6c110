import EventSieve.Number.Shortest
import EventSieve.Proofs.Number.Rounding

/-!
# Seventeen digits suffice

A double is rounded from the rational number that a decimal stands for, so zeros at the end
of the coefficient make no difference. The scale of a ratio is at most one above its decimal
logarithm; on the grid of seventeen digits the nearest decimal is therefore within one part
in `2 * 10 ^ 16`, and such a decimal reads back. So the search always ends with one.
-/

namespace EventSieve.Decimal

def toRat (d : Decimal) : ℚ := d.coefficient * 10 ^ d.exponent

theorem toRat_eq_div (d : Decimal) :
    toRat d = ((d.coefficient * 10 ^ d.exponent.toNat : Nat) : ℚ) /
      ((10 ^ (-d.exponent).toNat : Nat) : ℚ) := by
  have h := Binary64.cast_div_zpow 10 d.coefficient 1 (-d.exponent)
  rw [neg_neg, one_mul, Nat.cast_one, div_one, zpow_neg, div_inv_eq_mul] at h
  exact h.symm

theorem toFloat_congr (negative : Bool) {d e : Decimal} (h : toRat d = toRat e) :
    toFloat negative d = toFloat negative e := by
  have hpos : ∀ n : Nat, 0 < 10 ^ n := fun n => Nat.pow_pos (by decide)
  have hne : ∀ n : Nat, ((10 ^ n : Nat) : ℚ) ≠ 0 := fun n => by exact_mod_cast (hpos n).ne'
  rw [toRat_eq_div, toRat_eq_div, div_eq_div_iff (hne _) (hne _)] at h
  simp only [toFloat, Nat.pow_eq]
  exact Binary64.ofRatio_congr negative (hpos _) (hpos _) (by exact_mod_cast h)

theorem toRat_strip (fuel : Nat) (d : Decimal) : toRat (strip fuel d) = toRat d := by
  induction fuel generalizing d with
  | zero => rfl
  | succ fuel ih =>
      rw [strip]
      split
      · next hzero =>
        have hcoefficient : (d.coefficient : ℚ) = (d.coefficient / 10 : Nat) * 10 := by
          have hmul : d.coefficient = d.coefficient / 10 * 10 := by omega
          exact_mod_cast hmul
        rw [ih, toRat, toRat, hcoefficient, zpow_add_one₀ (by norm_num), mul_comm ((10 : ℚ) ^ _),
          mul_assoc]
      · rfl

/-! ## The scale -/

/-- Powers of ten and of two are compared through an approximation of the logarithm. -/
theorem ten_zpow_le_two_zpow {a b : Nat} {k l : Int} (hb : b ≠ 0) (h : b * k ≤ a * l)
    (hpow : ((10 : ℚ) ^ a) ^ l ≤ (2 ^ b) ^ l) : (10 : ℚ) ^ k ≤ 2 ^ l := by
  rw [← pow_le_pow_iff_left₀ (by positivity) (by positivity) hb]
  calc ((10 : ℚ) ^ k) ^ b = 10 ^ (b * k) := by rw [← zpow_natCast, ← zpow_mul, mul_comm]
    _ ≤ 10 ^ (a * l) := zpow_le_zpow_right₀ (by norm_num) h
    _ = (10 ^ a) ^ l := by rw [zpow_mul, zpow_natCast]
    _ ≤ (2 ^ b) ^ l := hpow
    _ = (2 ^ l) ^ b := by rw [← zpow_natCast, ← zpow_natCast, zpow_comm]

/-- The guess at the scale is not more than one too high. -/
theorem ten_zpow_guess_le {l : Int} (hlow : -20000 ≤ l) (hhigh : l ≤ 20000) :
    (10 : ℚ) ^ ((l * 30103).fdiv 100000 - 1) ≤ 2 ^ l := by
  have hguess : (l * 30103).fdiv 100000 * 100000 ≤ l * 30103 := by
    rw [Int.fdiv_eq_ediv_of_nonneg _ (by decide)]
    omega
  generalize (l * 30103).fdiv 100000 = g at hguess ⊢
  -- the decimal logarithm of two is above 59 / 196 and below 28 / 93
  rcases Int.le_total 0 l with hsign | hsign
  · apply ten_zpow_le_two_zpow (a := 59) (b := 196) (by decide) (by push_cast; omega)
    exact zpow_le_zpow_left₀ hsign (by norm_num) (by norm_num)
  · apply ten_zpow_le_two_zpow (a := 28) (b := 93) (by decide) (by push_cast; omega)
    rw [← neg_neg l, zpow_neg _ (-l), zpow_neg _ (-l)]
    apply inv_anti₀ (by positivity)
    exact zpow_le_zpow_left₀ (by omega) (by norm_num) (by norm_num)

theorem ten_zpow_scale_le {num den : Nat} (hnum : 0 < num) (hden : 0 < den)
    (hlow : -20000 ≤ Int.log 2 ((num : ℚ) / den)) (hhigh : Int.log 2 ((num : ℚ) / den) ≤ 20000) :
    (10 : ℚ) ^ (scale num den - 1) ≤ num / den := by
  have hq : (0 : ℚ) < num / den := div_pos (by exact_mod_cast hnum) (by exact_mod_cast hden)
  have hguess := (ten_zpow_guess_le hlow hhigh).trans (by
    exact_mod_cast Int.zpow_log_le_self (b := 2) (by decide) hq)
  have hbelow : ∀ k : Int,
      (if 0 ≤ k then decide (num < den * 10 ^ k.toNat)
        else decide (num * 10 ^ (-k).toNat < den)) = decide ((num : ℚ) / den < 10 ^ k) := by
    intro k
    have hiff := Binary64.div_lt_zpow_iff (b := 10) (by decide) num hden k
    rw [Nat.cast_ofNat] at hiff
    simp only [hiff]
    split
    · rw [show (-k).toNat = 0 by omega, pow_zero, mul_one]
    · rw [show k.toNat = 0 by omega, pow_zero, mul_one]
  simp only [scale, Nat.pow_eq, hbelow, Binary64.ratioLog2_eq_log hnum hden, decide_eq_true_eq]
  split
  · exact hguess
  · split
    · next hnot _ => rwa [add_sub_cancel_right, ← not_lt]
    · next hnot => rwa [add_sub_assoc, show (2 : Int) - 1 = 1 by rfl, ← not_lt]

/-! ## The search -/

theorem readsBack_of_onGrid? {readsBack : Decimal → Bool} {num den : Nat} {place : Int}
    {d : Decimal} (h : onGrid? readsBack num den place = some d) : readsBack d = true := by
  have hcases : ∀ nearest other : Decimal,
      (if readsBack nearest then some nearest else if readsBack other then some other else none) =
        some d → readsBack d = true := by
    intro nearest other h
    split at h
    · next hnearest =>
      cases h
      exact hnearest
    · split at h
      · next hother =>
        cases h
        exact hother
      · cases h
  exact hcases _ _ h

theorem readsBack_of_search {readsBack : Decimal → Bool} {num den : Nat} {scale : Int}
    {refinements digits : Nat} {d : Decimal}
    (h : search readsBack num den scale refinements digits = some d) : readsBack d = true := by
  induction refinements generalizing digits with
  | zero => cases h
  | succ refinements ih =>
      rw [search] at h
      split at h
      · next hgrid =>
        cases h
        exact readsBack_of_onGrid? hgrid
      · exact ih h

/-- The search ends at the latest with the grid on which the nearest decimal reads back. -/
theorem exists_search {readsBack : Decimal → Bool} {num den : Nat} {scale : Int}
    {refinements digits last : Nat} (hfirst : digits ≤ last) (hlast : last < digits + refinements)
    (hnearest : readsBack ⟨Binary64.roundHalfEven (num * 10 ^ (-(scale - last)).toNat)
      (den * 10 ^ (scale - last).toNat), scale - last⟩ = true) :
    ∃ d, search readsBack num den scale refinements digits = some d := by
  induction refinements generalizing digits with
  | zero => omega
  | succ refinements ih =>
      rw [search]
      split
      · exact ⟨_, rfl⟩
      · next hnone =>
        -- this grid is not the last one, where the nearest decimal would have been found
        apply ih _ (by omega)
        apply Nat.succ_le_of_lt
        apply Nat.lt_of_le_of_ne hfirst
        rintro rfl
        simp only [onGrid?, Nat.pow_eq, hnearest, if_true] at hnone
        cases hnone

/-! ## The decimal of a double -/

theorem log_div_two_pow {m n k : Nat} (hm : 0 < m) (h : m < 2 ^ (k + n)) :
    -(n : Int) ≤ Int.log 2 ((m : ℚ) / (2 ^ n : Nat)) ∧
      Int.log 2 ((m : ℚ) / (2 ^ n : Nat)) < k := by
  have hden : (0 : ℚ) < (2 ^ n : Nat) := by exact_mod_cast Nat.two_pow_pos n
  have hpos : (0 : ℚ) < (m : ℚ) / (2 ^ n : Nat) := div_pos (by exact_mod_cast hm) hden
  constructor
  · rw [← Int.zpow_le_iff_le_log (by decide) hpos, le_div_iff₀ hden, zpow_neg, zpow_natCast]
    push_cast
    rw [inv_mul_cancel₀ (by positivity)]
    exact_mod_cast hm
  · rw [← Int.lt_zpow_iff_log_lt (by decide) hpos, div_lt_iff₀ hden, zpow_natCast]
    rw [pow_add] at h
    exact_mod_cast h

theorem units_lt {x : Float} (hfinite : Binary64.exponentField x ≠ 2047) {e : Nat}
    (he : 2098 ≤ e) : Binary64.units x < 2 ^ e := by
  have hexponent := Binary64.exponentField_lt x
  calc Binary64.units x = Binary64.significand x * 2 ^ (Binary64.exponentField x - 1) :=
        Binary64.units_eq x
    _ < 2 ^ 53 * 2 ^ (Binary64.exponentField x - 1) :=
        Nat.mul_lt_mul_of_pos_right (Binary64.significand_lt x) (Nat.two_pow_pos _)
    _ = 2 ^ (53 + (Binary64.exponentField x - 1)) := (Nat.pow_add 2 _ _).symm
    _ ≤ 2 ^ e := Nat.pow_le_pow_right (by decide) (by omega)

theorem abs_toRat_sub_le (num : Nat) {den : Nat} (hden : 0 < den) (place : Int) :
    |toRat ⟨Binary64.roundHalfEven (num * 10 ^ (-place).toNat) (den * 10 ^ place.toNat), place⟩ -
      (num : ℚ) / den| * 2 ≤ 10 ^ place := by
  have hpow : (0 : ℚ) < 10 ^ place := by positivity
  have hround := Binary64.abs_roundHalfEven_sub_le (num * 10 ^ (-place).toNat)
    (Nat.mul_pos hden (Nat.pow_pos (n := place.toNat) (by decide : 0 < 10)))
  rw [Binary64.cast_div_zpow, Nat.cast_ofNat] at hround
  generalize Binary64.roundHalfEven _ _ = nearest at hround ⊢
  have hscaled : toRat ⟨nearest, place⟩ - (num : ℚ) / den =
      (nearest - (num : ℚ) / den / 10 ^ place) * 10 ^ place := by
    rw [sub_mul, div_mul_cancel₀ _ hpow.ne', toRat]
  rw [hscaled, abs_mul, abs_of_pos hpow]
  calc |nearest - (num : ℚ) / den / 10 ^ place| * 10 ^ place * 2
      ≤ 1 / 2 * 10 ^ place * 2 := by gcongr
    _ = 10 ^ place := by ring

/-- A decimal that is within one part in `2 * 10 ^ 16` of a double reads back. -/
theorem toFloat_eq_abs_of_near {x : Float} (hfinite : Binary64.exponentField x ≠ 2047)
    (hunits : Binary64.units x ≠ 0) {d : Decimal}
    (hnear : |toRat d - (Binary64.units x : ℚ) / 2 ^ 1074| * (2 * 10 ^ 16) ≤
      (Binary64.units x : ℚ) / 2 ^ 1074) :
    toFloat false d = Binary64.abs x := by
  rw [toRat_eq_div] at hnear
  simp only [toFloat, Nat.pow_eq]
  exact Binary64.ofRatio_eq_abs_of_near hfinite hunits (Nat.pow_pos (by decide)) hnear

/-- On the grid of seventeen digits the nearest decimal reads back. -/
theorem toFloat_nearest_eq_abs {x : Float} (hfinite : Binary64.exponentField x ≠ 2047)
    (hunits : Binary64.units x ≠ 0) {n : Nat} (hn : n = 1074) {place : Int}
    (hplace : place = scale (Binary64.units x) (2 ^ n) - 17) :
    toFloat false ⟨Binary64.roundHalfEven (Binary64.units x * 10 ^ (-place).toNat)
      (2 ^ n * 10 ^ place.toNat), place⟩ = Binary64.abs x := by
  have hunitsPos := Nat.pos_of_ne_zero hunits
  have hden := Nat.two_pow_pos n
  obtain ⟨hlow, hhigh⟩ := log_div_two_pow (k := 1024) (n := n) hunitsPos
    (units_lt hfinite (by omega))
  have hscale := ten_zpow_scale_le hunitsPos hden (by omega) (by omega)
  have hnear := abs_toRat_sub_le (Binary64.units x) hden place
  generalize Binary64.roundHalfEven _ _ = nearest at hnear ⊢
  generalize scale (Binary64.units x) (2 ^ n) = s at hplace hscale
  apply toFloat_eq_abs_of_near hfinite hunits
  rw [Nat.cast_pow, Nat.cast_ofNat] at hnear hscale
  rw [← hn]
  generalize (Binary64.units x : ℚ) / 2 ^ n = q at hnear hscale ⊢
  calc |toRat ⟨nearest, place⟩ - q| * (2 * 10 ^ 16)
      = |toRat ⟨nearest, place⟩ - q| * 2 * 10 ^ 16 := (mul_assoc _ _ _).symm
    _ ≤ 10 ^ place * 10 ^ 16 := mul_le_mul_of_nonneg_right hnear (by positivity)
    _ = 10 ^ (s - 1) := by
        rw [← zpow_natCast, ← zpow_add₀ (by norm_num), hplace]
        congr 1
        omega
    _ ≤ q := hscale

/-- Every finite double other than zero has a decimal that is rounded to its magnitude. -/
theorem exists_shortest? {x : Float} (hfinite : Binary64.exponentField x ≠ 2047)
    (hunits : Binary64.units x ≠ 0) :
    ∃ d, shortest? x = some d ∧ toFloat false d = Binary64.abs x := by
  rw [shortest?]
  -- with a variable for the exponent the power is not computed
  generalize hn : 1074 = n
  have hnearest : toFloat false (strip 17 ⟨Binary64.roundHalfEven
      (Binary64.units x * 10 ^ (-(scale (Binary64.units x) (2 ^ n) - 17)).toNat)
      (2 ^ n * 10 ^ (scale (Binary64.units x) (2 ^ n) - 17).toNat),
      scale (Binary64.units x) (2 ^ n) - 17⟩) = Binary64.abs x := by
    rw [toFloat_congr false (toRat_strip 17 _)]
    exact toFloat_nearest_eq_abs hfinite hunits hn.symm rfl
  have hsearch : ∃ d, search (fun d => toFloat false (strip 17 d) = Binary64.abs x)
      (Binary64.units x) (2 ^ n) (scale (Binary64.units x) (2 ^ n)) 17 1 = some d :=
    exists_search (by decide : 1 ≤ 17) (by decide) (decide_eq_true hnearest)
  obtain ⟨d, hd⟩ := hsearch
  exact ⟨strip 17 d, congrArg _ hd, of_decide_eq_true (readsBack_of_search hd)⟩

end EventSieve.Decimal
