/-!
The Gregorian calendar, extended to all years. Days are numbered from the first day of the
year 1; a date and its day number determine each other.
-/

namespace RecordMapper

/-- A calendar date; the year before 1 is the year 0. -/
structure Date where
  year : Int
  month : Nat
  day : Nat
deriving DecidableEq

namespace Date

/-- Every fourth year is a leap year, but of the full centuries only every fourth. -/
def isLeapYear (year : Int) : Bool :=
  year % 4 = 0 && (year % 100 ≠ 0 || year % 400 = 0)

/-- The lengths of the twelve months. -/
def monthLengths (year : Int) : List Nat :=
  [31, if isLeapYear year then 29 else 28, 31, 30, 31, 30, 31, 31, 30, 31, 30, 31]

/-- How many days a month has; none if there is no such month. -/
def daysInMonth (year : Int) (month : Nat) : Nat :=
  if month = 0 then 0 else (monthLengths year).getD (month - 1) 0

/-- The month exists in the year and the day in the month. -/
def isValid (date : Date) : Bool :=
  1 ≤ date.day && date.day ≤ daysInMonth date.year date.month

/-- The day number of the first day of a year. -/
def yearStart (year : Int) : Int :=
  let before := year - 1
  365 * before + before / 4 - before / 100 + before / 400

/-- How many days of a year lie before a month. -/
def daysBeforeMonth (year : Int) (month : Nat) : Nat :=
  ((monthLengths year).take (month - 1)).foldl (· + ·) 0

/-- The number of the day. -/
def dayNumber (date : Date) : Int :=
  yearStart date.year + daysBeforeMonth date.year date.month + (date.day - 1 : Int)

/-- The year in which a day lies. Four centuries have 146097 days, so the estimate misses by
at most one year. -/
def yearOfDay (n : Int) : Int :=
  let guess := n * 400 / 146097 + 1
  if n < yearStart guess then guess - 1
  else if yearStart (guess + 1) ≤ n then guess + 1
  else guess

/-- The month and the day in it of a day of the year, both counted from one, where the list
holds the lengths of the months from the given one on. -/
def splitMonths (month : Nat) : List Nat → Nat → Nat × Nat
  | [], offset => (month, offset + 1)
  | length :: rest, offset =>
    if offset < length then (month, offset + 1)
    else splitMonths (month + 1) rest (offset - length)

/-- The date of a day number. -/
def ofDayNumber (n : Int) : Date :=
  let year := yearOfDay n
  let (month, day) := splitMonths 1 (monthLengths year) (n - yearStart year).toNat
  ⟨year, month, day⟩

/-- A common year has 365 days, a leap year one more. -/
theorem yearStart_succ (year : Int) :
    yearStart (year + 1) = yearStart year + if isLeapYear year then 366 else 365 := by
  simp only [yearStart, isLeapYear, Bool.and_eq_true, Bool.or_eq_true, decide_eq_true_eq, ne_eq]
  split <;> omega

/-- A day lies in its year. -/
theorem yearOfDay_bounds (n : Int) :
    yearStart (yearOfDay n) ≤ n ∧ n < yearStart (yearOfDay n + 1) := by
  unfold yearOfDay
  by_cases early : n < yearStart (n * 400 / 146097 + 1)
  · simp only [early, if_true]
    simp only [yearStart] at early ⊢
    omega
  · by_cases late : yearStart (n * 400 / 146097 + 1 + 1) ≤ n
    · simp only [early, if_false, if_pos late]
      refine ⟨late, ?_⟩
      simp only [yearStart]
      omega
    · simp only [early, late, if_false]
      exact ⟨Int.not_lt.1 early, Int.not_le.1 late⟩

end Date

end RecordMapper
