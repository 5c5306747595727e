import RecordMapper.Binary64.Basic

/-!
Rounding to double precision: a fraction of whole numbers, or a decimal, goes to the
nearest double and a tie to the one whose significand is even. Everything is exact
arithmetic on natural numbers.
-/

namespace RecordMapper.Binary64

/-- The whole number nearest to `num / den`; a half goes to the even neighbour. -/
def roundHalfEven (num den : Nat) : Nat :=
  let floor := num / den
  let rest := num % den
  if 2 * rest < den then floor
  else if den < 2 * rest then floor + 1
  else if floor % 2 = 0 then floor else floor + 1

/-- The fraction `num / den` divided by `2 ^ q`. -/
def scaleDown (num den : Nat) (q : Int) : Nat × Nat :=
  (num * Nat.pow 2 (-q).toNat, den * Nat.pow 2 q.toNat)

/-- The spacing, as a power of two, of the doubles around `num / den`: 53 significant bits,
but never finer than the spacing of the subnormal doubles. -/
def gridExponent (num den : Nat) : Int :=
  let q := max ((num.log2 : Int) - den.log2 - 53) (-1074)
  let scaled := scaleDown num den q
  if scaled.1 / scaled.2 < 2 * binadeSize then q else q + 1

/-- The rank of the magnitude nearest to `num / den`. A significand rounded up to the next
power of two carries into the exponent by itself. -/
def rankOfRatio (num den : Nat) : Nat :=
  let q := gridExponent num den
  let scaled := scaleDown num den q
  (q + 1074).toNat * binadeSize + roundHalfEven scaled.1 scaled.2

/-- How many digits the decimal form of a number has. -/
def decimalLength (n : Nat) : Nat := (Nat.toDigits 10 n).length

/-- The rank of the magnitude nearest to `coefficient * 10 ^ exponent`. Decimals far outside
the range of doubles are settled by their order of magnitude alone. -/
def rankOfDecimal (coefficient : Nat) (exponent : Int) : Nat :=
  if coefficient = 0 then 0
  else
    let order := exponent + decimalLength coefficient
    if 400 < order then rankBound
    else if order < -400 then 0
    else rankOfRatio (coefficient * Nat.pow 10 exponent.toNat) (Nat.pow 10 (-exponent).toNat)

/-- The double nearest to a signed decimal; past the largest double it is an infinity. -/
def ofDecimal (negative : Bool) (coefficient : Nat) (exponent : Int) : Binary64 :=
  ofRank negative (rankOfDecimal coefficient exponent)

theorem roundHalfEven_one (n : Nat) : roundHalfEven n 1 = n := by
  simp [roundHalfEven, Nat.mod_one]

end RecordMapper.Binary64
