import RecordMapper.Proofs.Binary64.Rounding

/-!
Decimals of doubles. Shifting zeros between coefficient and exponent leaves the double that
a decimal rounds to (`rankOfDecimal_shift`). A magnitude rounds to its own rank
(`rankOfRatio_ratioOf`), so the decimal that `Decimal.shortest` gives reads back whether or
not the search for few digits succeeds (`Decimal.rank_shortest`).
-/

namespace RecordMapper.Binary64

/-! ## Lengths of decimals -/

theorem lt_pow_decimalLength (n : Nat) : n < 10 ^ decimalLength n :=
  (Nat.length_toDigits_le_iff (by decide) Nat.length_toDigits_pos).1 le_rfl

theorem decimalLength_le {n k : Nat} (pos : 0 < k) (small : n < 10 ^ k) : decimalLength n ≤ k :=
  (Nat.length_toDigits_le_iff (by decide) pos).2 small

theorem toDigits_mul_ten {n : Nat} (pos : 0 < n) :
    Nat.toDigits 10 (n * 10) = Nat.toDigits 10 n ++ ['0'] := by
  have step := Nat.toDigits_append_toDigits (b := 10) (n := n) (d := 0) (by decide) pos (by decide)
  rw [Nat.toDigits_zero] at step
  rw [step, Nat.add_zero, Nat.mul_comm]

theorem decimalLength_mul_pow {n : Nat} (pos : 0 < n) (k : Nat) :
    decimalLength (n * 10 ^ k) = decimalLength n + k := by
  induction k with
  | zero => simp
  | succ k ih =>
    have grown : 0 < n * 10 ^ k := Nat.mul_pos pos (by positivity)
    rw [pow_succ, ← Nat.mul_assoc, decimalLength, toDigits_mul_ten grown, List.length_append]
    exact congrArg (· + 1) ih

/-! ## Shifting zeros -/

/-- Zeros at the end of the coefficient may go into the exponent. -/
theorem rankOfDecimal_shift (coefficient k : Nat) (exponent : Int) :
    rankOfDecimal (coefficient * 10 ^ k) exponent = rankOfDecimal coefficient (exponent + k) := by
  rcases Nat.eq_zero_or_pos coefficient with rfl | pos
  · simp [rankOfDecimal]
  have grown : coefficient * 10 ^ k ≠ 0 := (Nat.mul_pos pos (by positivity)).ne'
  have order : exponent + (decimalLength (coefficient * 10 ^ k) : Int) =
      exponent + k + decimalLength coefficient := by
    rw [decimalLength_mul_pow pos]; push_cast; ring
  have ratio : rankOfRatio (coefficient * 10 ^ k * 10 ^ exponent.toNat) (10 ^ (-exponent).toNat) =
      rankOfRatio (coefficient * 10 ^ (exponent + k).toNat) (10 ^ (-(exponent + k)).toNat) := by
    refine rankOfRatio_congr (Nat.mul_ne_zero grown (by positivity)) (by positivity)
      (by positivity) ?_
    have sum : k + exponent.toNat + (-(exponent + k)).toNat =
        (exponent + k).toNat + (-exponent).toNat := by omega
    calc coefficient * 10 ^ k * 10 ^ exponent.toNat * 10 ^ (-(exponent + k)).toNat
        = coefficient * 10 ^ (k + exponent.toNat + (-(exponent + k)).toNat) := by
          rw [pow_add, pow_add]; ring
      _ = coefficient * 10 ^ (exponent + k).toNat * 10 ^ (-exponent).toNat := by
          rw [sum, pow_add]; ring
  simp only [rankOfDecimal, grown, pos.ne', if_false, order, Nat.pow_eq, ratio]

/-! ## Magnitudes of doubles -/

theorem significandOf_lt (rank : Nat) : significandOf rank < 2 * binadeSize := by
  unfold significandOf
  have := Nat.mod_lt rank (show 0 < binadeSize by decide)
  split <;> omega

theorem significandOf_pos {rank : Nat} (nonzero : rank ≠ 0) : 0 < significandOf rank := by
  unfold significandOf
  split
  · exact Nat.pos_of_ne_zero nonzero
  · exact Nat.add_pos_left (by decide) _

theorem exponentOf_bounds {rank : Nat} (finite : rank < rankBound) :
    -1074 ≤ exponentOf rank ∧ exponentOf rank ≤ 971 := by
  have quotient : rank / binadeSize < 2047 := Nat.div_lt_of_lt_mul (by rwa [Nat.mul_comm])
  unfold exponentOf
  omega

theorem fits_ratioOf_iff (rank : Nat) (q : Int) :
    Fits (ratioOf rank).1 (ratioOf rank).2 q ↔
      (significandOf rank : ℚ) * 2 ^ (exponentOf rank - q) < 2 ^ (53 : Nat) := by
  have den : (0 : ℚ) < (ratioOf rank).2 := by exact_mod_cast ratioOf_snd_pos rank
  have unit : (0 : ℚ) < (ratioOf rank).2 * 2 ^ q := by positivity
  have value : ((ratioOf rank).1 : ℚ) =
      significandOf rank * 2 ^ (exponentOf rank - q) * ((ratioOf rank).2 * 2 ^ q) := by
    calc ((ratioOf rank).1 : ℚ)
        = significandOf rank * ((ratioOf rank).2 * 2 ^ exponentOf rank) := by
          rw [zpow_eq_div]
          simp only [ratioOf, Nat.pow_eq]
          push_cast
          field_simp
      _ = significandOf rank * 2 ^ (exponentOf rank - q) * ((ratioOf rank).2 * 2 ^ q) := by
          rw [← Int.sub_add_cancel (exponentOf rank) q, zpow_add₀ (by norm_num),
            Int.add_sub_cancel]
          ring
  rw [Fits, value, mul_lt_mul_iff_left₀ unit]

/-- The spacing of a magnitude is the power of two that its rank names. -/
theorem gridExponent_ratioOf {rank : Nat} (nonzero : rank ≠ 0) :
    gridExponent (ratioOf rank).1 (ratioOf rank).2 = exponentOf rank := by
  have numerator : (ratioOf rank).1 ≠ 0 :=
    (Nat.mul_pos (significandOf_pos nonzero) (Nat.two_pow_pos _)).ne'
  rcases gridExponent_spec numerator (ratioOf_snd_pos rank) with ⟨low, fits, least⟩
  refine eq_of_least_fit low fits least ?_ ?_ ?_
  · unfold exponentOf; omega
  · rw [fits_ratioOf_iff, Int.sub_self, zpow_zero, mul_one]
    exact_mod_cast significandOf_lt rank
  · by_cases subnormal : rank < binadeSize
    · left
      simp [exponentOf, Nat.div_eq_of_lt subnormal]
    · right
      have large : binadeSize ≤ significandOf rank := by simp [significandOf, subnormal]
      have large' : (2 : ℚ) ^ (52 : Nat) ≤ significandOf rank := by exact_mod_cast large
      rw [fits_ratioOf_iff, sub_sub_cancel, zpow_one]
      linarith

/-- A magnitude of a double rounds to its own rank. -/
theorem rankOfRatio_ratioOf {rank : Nat} (nonzero : rank ≠ 0) :
    rankOfRatio (ratioOf rank).1 (ratioOf rank).2 = rank := by
  have scaled : roundHalfEven
      (scaleDown (ratioOf rank).1 (ratioOf rank).2 (exponentOf rank)).1
      (scaleDown (ratioOf rank).1 (ratioOf rank).2 (exponentOf rank)).2 = significandOf rank := by
    rw [← roundHalfEven_one (significandOf rank)]
    refine roundHalfEven_congr (scaleDown_snd_pos (ratioOf_snd_pos rank) _ _) (by decide) ?_
    simp only [scaleDown, ratioOf]
    ring
  rw [rankOfRatio, gridExponent_ratioOf nonzero]
  simp only [scaled]
  have digits := Nat.div_add_mod rank binadeSize
  by_cases subnormal : rank < binadeSize
  · simp [exponentOf, significandOf, subnormal, Nat.div_eq_of_lt subnormal]
  · have quotient : 1 ≤ rank / binadeSize :=
      (Nat.one_le_div_iff (by decide)).2 (Nat.not_lt.1 subnormal)
    have binade : (exponentOf rank + 1074).toNat + 1 = rank / binadeSize := by
      unfold exponentOf; omega
    calc (exponentOf rank + 1074).toNat * binadeSize + significandOf rank
        = ((exponentOf rank + 1074).toNat + 1) * binadeSize + rank % binadeSize := by
          rw [significandOf, if_neg subnormal]; ring
      _ = rank := by rw [binade, Nat.mul_comm, digits]

namespace Decimal

/-- The shortcuts of `rankOfDecimal` for decimals out of range are not taken by one whose
order of magnitude is within 400. -/
theorem rank_eq_rankOfRatio {d : Decimal} (nonzero : d.coefficient ≠ 0)
    (low : -400 ≤ d.exponent + decimalLength d.coefficient)
    (high : d.exponent + decimalLength d.coefficient ≤ 400) :
    d.rank = rankOfRatio (d.coefficient * 10 ^ d.exponent.toNat) (10 ^ (-d.exponent).toNat) := by
  rw [Decimal.rank, rankOfDecimal, if_neg nonzero, if_neg (Int.not_lt.2 high),
    if_neg (Int.not_lt.2 low)]
  rfl

theorem two_pow_lt {n k : Nat} (pos : k ≠ 0) (small : n ≤ 3 * k) : 2 ^ n < 10 ^ k :=
  calc 2 ^ n ≤ 2 ^ (3 * k) := Nat.pow_le_pow_right (by decide) small
    _ = 8 ^ k := Nat.pow_mul 2 3 k
    _ < 10 ^ k := Nat.pow_lt_pow_left (by decide) pos

/-- A magnitude written out with all its digits reads back. -/
theorem rank_exact {rank : Nat} (nonzero : rank ≠ 0) (finite : rank < rankBound) :
    (exact rank).rank = rank := by
  rcases exponentOf_bounds finite with ⟨low, high⟩
  have significand : significandOf rank < 2 ^ 53 := significandOf_lt rank
  have positive := significandOf_pos nonzero
  have ratio := rankOfRatio_ratioOf nonzero
  by_cases whole : 0 ≤ exponentOf rank
  · rcases Int.eq_ofNat_of_zero_le whole with ⟨n, size⟩
    have coefficient : 0 < significandOf rank * 2 ^ n := by positivity
    have small : significandOf rank * 2 ^ n < 10 ^ 400 :=
      calc significandOf rank * 2 ^ n
          < 2 ^ 53 * 2 ^ n := Nat.mul_lt_mul_of_pos_right significand (by positivity)
        _ = 2 ^ (53 + n) := (pow_add 2 53 n).symm
        _ < 10 ^ 400 := two_pow_lt (by decide) (by omega)
    have length : decimalLength (significandOf rank * 2 ^ n) ≤ 400 :=
      decimalLength_le (by decide) small
    have written : exact rank = ⟨significandOf rank * 2 ^ n, 0⟩ := by
      simp [exact, size]
    rw [written, rank_eq_rankOfRatio coefficient.ne' (by dsimp only; omega) (by dsimp only; omega)]
    simpa [ratioOf, size] using ratio
  · rcases Int.eq_ofNat_of_zero_le (by omega : 0 ≤ -exponentOf rank) with ⟨n, size⟩
    have exponent : exponentOf rank = -n := by omega
    have coefficient : 0 < significandOf rank * 5 ^ n := by positivity
    have short : decimalLength (significandOf rank * 5 ^ n) ≤ 400 + n := by
      refine decimalLength_le (by omega) ?_
      calc significandOf rank * 5 ^ n
          < 2 ^ 53 * 5 ^ n := Nat.mul_lt_mul_of_pos_right significand (by positivity)
        _ ≤ 10 ^ 400 * 10 ^ n :=
            Nat.mul_le_mul (two_pow_lt (by decide) (by decide)).le
              (Nat.pow_le_pow_left (by decide) n)
        _ = 10 ^ (400 + n) := (pow_add 10 400 n).symm
    have long : n ≤ 400 + decimalLength (significandOf rank * 5 ^ n) := by
      have large : 10 ^ n < 10 ^ (400 + decimalLength (significandOf rank * 5 ^ n)) :=
        calc 10 ^ n = 2 ^ n * 5 ^ n := Nat.mul_pow 2 5 n
          _ < 10 ^ 400 * 5 ^ n :=
              Nat.mul_lt_mul_of_pos_right (two_pow_lt (by decide) (by omega)) (by positivity)
          _ ≤ 10 ^ 400 * (significandOf rank * 5 ^ n) :=
              Nat.mul_le_mul_left _ (Nat.le_mul_of_pos_left _ positive)
          _ ≤ 10 ^ 400 * 10 ^ decimalLength (significandOf rank * 5 ^ n) :=
              Nat.mul_le_mul_left _ (lt_pow_decimalLength _).le
          _ = 10 ^ (400 + decimalLength (significandOf rank * 5 ^ n)) := (pow_add 10 400 _).symm
      exact ((Nat.pow_lt_pow_iff_right (by decide)).1 large).le
    have written : exact rank = ⟨significandOf rank * 5 ^ n, -n⟩ := by
      rw [exact, if_neg whole, exponent, neg_neg, Int.toNat_natCast]
      rfl
    rw [written, rank_eq_rankOfRatio coefficient.ne' (by dsimp only; omega) (by dsimp only; omega)]
    simp only [ratioOf, exponent, neg_neg, Int.toNat_natCast, Int.toNat_neg_natCast, Nat.pow_eq,
      pow_zero, mul_one] at ratio ⊢
    refine (rankOfRatio_congr coefficient.ne' (by positivity) (by positivity) ?_).trans ratio
    rw [show (10 : Nat) = 2 * 5 from rfl, Nat.mul_pow]
    ring

/-- The decimal that is written for a double reads back. -/
theorem rank_shortest (tie : Tie) {rank : Nat} (nonzero : rank ≠ 0) (finite : rank < rankBound) :
    (shortest tie rank).rank = rank := by
  unfold shortest
  cases search : (List.range 17).findSome? fun n => nearest? tie rank (n + 1) with
  | none => exact rank_exact nonzero finite
  | some found =>
    rcases List.exists_of_findSome?_eq_some search with ⟨n, -, hit⟩
    exact rank_nearest? hit

end Decimal

/-! ## Whole numbers -/

theorem roundHalfEven_le (num den : Nat) : roundHalfEven num den ≤ num / den + 1 := by
  simp only [roundHalfEven]
  split_ifs <;> omega

/-- Whole numbers of 64 bits lie far below the largest double. -/
theorem rankOfRatio_lt_of_whole {n : Nat} (small : n < 2 ^ 64) : rankOfRatio n 1 < rankBound := by
  rcases Nat.eq_zero_or_pos n with rfl | pos
  · decide
  obtain ⟨low, fits, least⟩ := gridExponent_spec pos.ne' Nat.one_pos
  have coarse : Fits n 1 11 := by
    have cast : (n : ℚ) < 2 ^ 64 := by exact_mod_cast small
    unfold Fits
    norm_num at cast ⊢
    exact cast
  have spacing : gridExponent n 1 ≤ 11 := by
    rcases least with least | least
    · omega
    · by_contra finer
      exact least (coarse.mono (by omega))
  have short := (scaleDown_lt_iff Nat.one_pos _).2 fits
  have rounded := roundHalfEven_le (scaleDown n 1 (gridExponent n 1)).1
    (scaleDown n 1 (gridExponent n 1)).2
  have exponent : (gridExponent n 1 + 1074).toNat * binadeSize ≤ 1085 * binadeSize :=
    Nat.mul_le_mul_right _ (by omega)
  simp only [rankOfRatio, rankBound]
  simp only [binadeSize] at *
  omega

/-- A whole number of 64 bits has a nearest double that is finite. -/
theorem exists_finite_of_whole {n : Nat} (small : n < 2 ^ 64) :
    ∃ x, ofDecimal false n 0 = .finite x := by
  have lt : rankOfDecimal n 0 < rankBound := by
    unfold rankOfDecimal
    split
    · decide
    · have digits : decimalLength n ≤ 20 := decimalLength_le (by decide) (by omega)
      have whole := rankOfRatio_lt_of_whole small
      simp only [Int.zero_add]
      rw [if_neg (by omega), if_neg (by omega)]
      simpa using whole
  exact ⟨⟨false, _, lt⟩, dif_pos lt⟩

end RecordMapper.Binary64
