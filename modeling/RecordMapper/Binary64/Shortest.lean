import RecordMapper.Binary64.Rounding

/-!
Shortest decimals: the fewest digits that read back as the given double, and among those
the decimal nearest to it. A decimal counts only if reading it gives the double again, so
the result of the search reads back whatever the search tries.
-/

namespace RecordMapper.Binary64

/-- A nonnegative decimal, `coefficient * 10 ^ exponent`. -/
structure Decimal where
  coefficient : Nat
  exponent : Int
deriving DecidableEq

/-- Which of two equally near decimals stands for a double. -/
inductive Tie where
  | up
  | even
deriving DecidableEq

namespace Decimal

/-- The rank that the decimal rounds to. -/
def rank (d : Decimal) : Nat := rankOfDecimal d.coefficient d.exponent

/-- The order of magnitude of a nonzero fraction: `10 ^ order ≤ num / den`, and one more
power of ten is too much. Any magnitude of a double is at least `10 ^ -400`. -/
def order (num den : Nat) : Int :=
  (decimalLength (num * Nat.pow 10 400 / den) : Int) - 401

/-- The decimal of a magnitude with all its digits. -/
def exact (rank : Nat) : Decimal :=
  let q := exponentOf rank
  if 0 ≤ q then ⟨significandOf rank * Nat.pow 2 q.toNat, 0⟩
  else ⟨significandOf rank * Nat.pow 5 (-q).toNat, q⟩

/-- Whether the part `rest / den` left over below a whole number is rounded up. -/
def roundsUp (tie : Tie) (below rest den : Nat) : Bool :=
  if 2 * rest < den then false
  else if den < 2 * rest then true
  else match tie with
    | .up => true
    | .even => below % 2 = 1

/-- The nearer of the two neighbours of a magnitude among the decimals with `digits` digits,
or the other one if only that reads back. -/
def nearest? (tie : Tie) (rank digits : Nat) : Option Decimal :=
  let ratio := ratioOf rank
  let exponent := order ratio.1 ratio.2 - digits + 1
  let num := ratio.1 * Nat.pow 10 (-exponent).toNat
  let den := ratio.2 * Nat.pow 10 exponent.toNat
  let below : Decimal := ⟨num / den, exponent⟩
  let above : Decimal := ⟨num / den + 1, exponent⟩
  let candidates := if roundsUp tie (num / den) (num % den) den then [above, below]
    else [below, above]
  candidates.find? fun d => d.rank = rank

/-- The shortest decimal that reads back as a magnitude: at most 17 digits are needed. -/
def shortest (tie : Tie) (rank : Nat) : Decimal :=
  ((List.range 17).findSome? fun n => nearest? tie rank (n + 1)).getD (exact rank)

/-- Digits without the zeros at the end. -/
def dropTrailingZeros (digits : List Char) : List Char :=
  (digits.reverse.dropWhile (· = '0')).reverse

/-- The significant digits of a nonzero decimal. -/
def digits (d : Decimal) : List Char :=
  dropTrailingZeros (Nat.toDigits 10 d.coefficient)

/-- The power of ten of the first digit. -/
def leadingPower (d : Decimal) : Int :=
  d.exponent + decimalLength d.coefficient - 1

theorem rank_nearest? {tie : Tie} {rank digits : Nat} {d : Decimal}
    (h : nearest? tie rank digits = some d) : d.rank = rank := by
  simpa using List.find?_some h

end Decimal

end RecordMapper.Binary64
