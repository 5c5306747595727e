/-!
Hexadecimal digits.
-/

namespace RecordMapper.Text

/-- The digit of the lowest four bits of a number, in lower case. -/
def hexDigit (n : Nat) : Char := Nat.digitChar (n % 16)

/-- The value of a digit in either case. -/
def hexValue? (c : Char) : Option Nat :=
  if '0' ≤ c ∧ c ≤ '9' then some (c.toNat - '0'.toNat)
  else if 'a' ≤ c ∧ c ≤ 'f' then some (c.toNat - 'a'.toNat + 10)
  else if 'A' ≤ c ∧ c ≤ 'F' then some (c.toNat - 'A'.toNat + 10)
  else none

/-- The number that digits spell. -/
def hexNumber? (digits : List Char) : Option Nat :=
  digits.foldl (fun sum c => do return 16 * (← sum) + (← hexValue? c)) (some 0)

end RecordMapper.Text
