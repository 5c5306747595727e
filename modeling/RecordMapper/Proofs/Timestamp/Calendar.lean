import Mathlib.Algebra.Ring.Nat
import RecordMapper.Timestamp.Basic

/-!
Dates and day numbers determine each other: `Date.dayNumber_ofDayNumber` for every number and
`Date.ofDayNumber_dayNumber` for every date that exists. Days are numbered without gaps, since the
number goes up by one from each date to the next in the calendar (`Date.dayNumber_next`). With the
seconds of a day the same holds of what a clock shows and the seconds since the year 1 began.
-/

namespace RecordMapper

namespace Date

/-! ## Months in a year -/

theorem daysBeforeMonth_succ (year : Int) (i : Nat) :
    daysBeforeMonth year (i + 1) = ((monthLengths year).take i).sum := by
  rw [daysBeforeMonth, ← List.sum_eq_foldl, Nat.add_sub_cancel]

/-- The place of a day that is told by the lengths before its month and the days before it. -/
theorem splitMonths_take_sum {lengths : List Nat} {i d length : Nat}
    (found : lengths[i]? = some length) (inside : d < length) (month : Nat) :
    splitMonths month lengths ((lengths.take i).sum + d) = (month + i, d + 1) := by
  induction lengths generalizing i month with
  | nil => cases found
  | cons first rest ih =>
    cases i with
    | zero =>
      cases found
      simp [splitMonths, inside]
    | succ i =>
      have later : ¬first + ((rest.take i).sum + d) < first := by omega
      have passed := @ih i (by simpa using found) (month + 1)
      rw [List.take_succ_cons, List.sum_cons, Nat.add_assoc, splitMonths, if_neg later,
        Nat.add_sub_cancel_left, passed, Nat.add_assoc, Nat.add_comm 1]

/-- Every day of a year is in a month. -/
theorem exists_month {lengths : List Nat} {offset : Nat} (within : offset < lengths.sum) :
    ∃ i d length, lengths[i]? = some length ∧ d < length ∧ offset = (lengths.take i).sum + d := by
  induction lengths generalizing offset with
  | nil => cases within
  | cons first rest ih =>
    by_cases here : offset < first
    · exact ⟨0, offset, first, rfl, here, by simp⟩
    · rw [List.sum_cons] at within
      obtain ⟨i, d, length, found, inside, split⟩ := @ih (offset - first) (by omega)
      refine ⟨i + 1, d, length, by simpa using found, inside, ?_⟩
      rw [List.take_succ_cons, List.sum_cons]
      omega

theorem take_sum_add_lt {lengths : List Nat} {i d length : Nat}
    (found : lengths[i]? = some length) (inside : d < length) :
    (lengths.take i).sum + d < lengths.sum := by
  obtain ⟨below, rfl⟩ := List.getElem?_eq_some_iff.1 found
  have split : lengths.sum = (lengths.take i).sum + (lengths[i] + (lengths.drop (i + 1)).sum) := by
    rw [← List.sum_cons, ← List.drop_eq_getElem_cons below, ← List.sum_append,
      List.take_append_drop]
  omega

/-- A date exists if its month is one of the twelve and has its day. -/
theorem isValid_iff {date : Date} : date.isValid ↔ ∃ i d length,
    date = ⟨date.year, i + 1, d + 1⟩ ∧ (monthLengths date.year)[i]? = some length ∧ d < length := by
  obtain ⟨year, month, day⟩ := date
  simp only [isValid, daysInMonth, Bool.and_eq_true, decide_eq_true_eq]
  constructor
  · rintro ⟨some, within⟩
    have month_pos : month ≠ 0 := by
      rintro rfl
      rw [if_pos rfl] at within
      omega
    rw [if_neg month_pos, List.getD_eq_getElem?_getD] at within
    cases found : (monthLengths year)[month - 1]? with
    | none =>
      rw [found, Option.getD_none] at within
      omega
    | some length =>
      rw [found, Option.getD_some] at within
      refine ⟨month - 1, day - 1, length, ?_, found, by omega⟩
      congr <;> omega
  · rintro ⟨i, d, length, same, found, inside⟩
    obtain ⟨-, rfl, rfl⟩ := Date.mk.inj same
    rw [if_neg (Nat.succ_ne_zero i), Nat.add_sub_cancel, List.getD_eq_getElem?_getD, found,
      Option.getD_some]
    omega

theorem length_monthLengths (year : Int) : (monthLengths year).length = 12 := rfl

/-- Months and days are numbers of two digits. -/
theorem isValid_bounds {date : Date} (valid : date.isValid) : date.month ≤ 12 ∧ date.day ≤ 31 := by
  obtain ⟨i, d, length, same, found, inside⟩ := isValid_iff.1 valid
  obtain ⟨month_lt, at_i⟩ := List.getElem?_eq_some_iff.1 found
  have longest : ∀ length ∈ monthLengths date.year, length ≤ 31 := by
    unfold monthLengths
    cases isLeapYear date.year <;> decide
  have day_le := longest length (at_i ▸ List.getElem_mem month_lt)
  rw [length_monthLengths] at month_lt
  rw [same]
  exact ⟨by simp only; omega, by simp only; omega⟩

/-! ## Years -/

/-- A year is as long as its months. -/
theorem yearStart_succ_eq_add_sum (year : Int) :
    yearStart (year + 1) = yearStart year + (monthLengths year).sum := by
  rw [yearStart_succ, monthLengths]
  cases isLeapYear year <;> rfl

theorem yearStart_le {a b : Int} (le : a ≤ b) : yearStart a ≤ yearStart b := by
  simp only [yearStart]
  omega

/-- A day lies before the years that begin after it. -/
theorem yearOfDay_lt_iff {year n : Int} : yearOfDay n < year ↔ n < yearStart year := by
  obtain ⟨lower, upper⟩ := yearOfDay_bounds n
  constructor
  · intro before
    exact Int.lt_of_lt_of_le upper (yearStart_le before)
  · intro before
    refine Int.not_le.1 fun after => ?_
    have started := yearStart_le after
    omega

/-- A year is found from any day in it. -/
theorem yearOfDay_eq {year n : Int} (first : yearStart year ≤ n) (last : n < yearStart (year + 1)) :
    yearOfDay n = year := by
  have notBefore := mt yearOfDay_lt_iff.1 (Int.not_lt.2 first)
  have notAfter := yearOfDay_lt_iff.2 last
  omega

/-! ## Dates and their numbers -/

theorem dayNumber_mk (year : Int) (i d : Nat) : dayNumber ⟨year, i + 1, d + 1⟩ =
    yearStart year + (((monthLengths year).take i).sum + d : Nat) := by
  simp only [dayNumber, daysBeforeMonth_succ]
  omega

theorem ofDayNumber_add {year : Int} {i d length : Nat}
    (found : (monthLengths year)[i]? = some length) (inside : d < length) :
    ofDayNumber (yearStart year + (((monthLengths year).take i).sum + d : Nat)) =
      ⟨year, i + 1, d + 1⟩ := by
  have within := take_sum_add_lt found inside
  have next := yearStart_succ_eq_add_sum year
  have inYear : yearOfDay (yearStart year + (((monthLengths year).take i).sum + d : Nat)) = year :=
    yearOfDay_eq (by omega) (by omega)
  have offset : (yearStart year + (((monthLengths year).take i).sum + d : Nat) -
      yearStart year).toNat = ((monthLengths year).take i).sum + d := by omega
  simp only [ofDayNumber, inYear, offset, splitMonths_take_sum found inside]
  rw [Nat.add_comm]

/-- A date that exists is found from its number. -/
theorem ofDayNumber_dayNumber {date : Date} (valid : date.isValid) :
    ofDayNumber date.dayNumber = date := by
  obtain ⟨i, d, length, same, found, inside⟩ := isValid_iff.1 valid
  rw [same, dayNumber_mk, ofDayNumber_add found inside]

/-- Every number is that of a day in a month of its year. -/
theorem exists_eq_add (n : Int) : ∃ year i d length, (monthLengths year)[i]? = some length ∧
    d < length ∧ n = yearStart year + (((monthLengths year).take i).sum + d : Nat) := by
  obtain ⟨lower, upper⟩ := yearOfDay_bounds n
  rw [yearStart_succ_eq_add_sum] at upper
  have within : (n - yearStart (yearOfDay n)).toNat < (monthLengths (yearOfDay n)).sum := by omega
  obtain ⟨i, d, length, found, inside, split⟩ := exists_month within
  exact ⟨yearOfDay n, i, d, length, found, inside, by omega⟩

theorem dayNumber_ofDayNumber (n : Int) : (ofDayNumber n).dayNumber = n := by
  obtain ⟨year, i, d, length, found, inside, rfl⟩ := exists_eq_add n
  rw [ofDayNumber_add found inside, dayNumber_mk]

theorem isValid_ofDayNumber (n : Int) : (ofDayNumber n).isValid := by
  obtain ⟨year, i, d, length, found, inside, rfl⟩ := exists_eq_add n
  rw [ofDayNumber_add found inside]
  exact isValid_iff.2 ⟨i, d, length, rfl, found, inside⟩

/-! ## From one date to the next -/

/-- The next date: the next day of the month, or else the first day of the next month, or else
that of the next year. -/
def next (date : Date) : Date :=
  if date.day < daysInMonth date.year date.month then ⟨date.year, date.month, date.day + 1⟩
  else if date.month < 12 then ⟨date.year, date.month + 1, 1⟩
  else ⟨date.year + 1, 1, 1⟩

theorem daysInMonth_succ {year : Int} {i length : Nat}
    (found : (monthLengths year)[i]? = some length) : daysInMonth year (i + 1) = length := by
  rw [daysInMonth, if_neg (Nat.succ_ne_zero i), Nat.add_sub_cancel, List.getD_eq_getElem?_getD,
    found, Option.getD_some]

theorem sum_take_succ {lengths : List Nat} {i length : Nat} (found : lengths[i]? = some length) :
    (lengths.take (i + 1)).sum = (lengths.take i).sum + length := by
  rw [List.take_add_one, found, List.sum_append]
  rfl

/-- Days are numbered one after the other. -/
theorem dayNumber_next {date : Date} (valid : date.isValid) :
    date.next.dayNumber = date.dayNumber + 1 := by
  obtain ⟨i, d, length, same, found, inside⟩ := isValid_iff.1 valid
  have month_lt : i < 12 := (List.getElem?_eq_some_iff.1 found).1
  have closed := sum_take_succ found
  have today := dayNumber_mk date.year i d
  have tomorrow := dayNumber_mk date.year i (d + 1)
  have nextMonth : dayNumber ⟨date.year, i + 1 + 1, 1⟩ = _ := dayNumber_mk date.year (i + 1) 0
  have nextYear : dayNumber ⟨date.year + 1, 1, 1⟩ = _ := dayNumber_mk (date.year + 1) 0 0
  have yearEnd := yearStart_succ_eq_add_sum date.year
  rw [same, next]
  simp only [daysInMonth_succ found]
  split
  · omega
  · split
    · omega
    · -- the last month ends with the year
      have all : (monthLengths date.year).take (i + 1) = monthLengths date.year :=
        List.take_of_length_le (by rw [length_monthLengths]; omega)
      rw [all] at closed
      rw [List.take_zero, List.sum_nil] at nextYear
      omega

end Date

namespace Timestamp

namespace Reading

/-! ## Readings of clocks -/

theorem secondNumber_ofSecondNumber (n : Int) : (ofSecondNumber n).secondNumber = n := by
  simp only [secondNumber, ofSecondNumber, secondOfDay, Date.dayNumber_ofDayNumber]
  omega

theorem isValid_iff {r : Reading} :
    r.isValid ↔ r.date.isValid ∧ r.hour ≤ 23 ∧ r.minute ≤ 59 ∧ r.second ≤ 59 := by
  simp [isValid, and_assoc]

theorem isValid_ofSecondNumber (n : Int) : (ofSecondNumber n).isValid := by
  refine isValid_iff.2 ⟨Date.isValid_ofDayNumber _, ?_⟩
  simp only [ofSecondNumber]
  omega

/-- What a clock shows is found from the seconds that it has counted. -/
theorem ofSecondNumber_secondNumber {r : Reading} (valid : r.isValid) :
    ofSecondNumber r.secondNumber = r := by
  obtain ⟨date, hour, minute, second⟩ := r
  obtain ⟨dated, hour_le, minute_le, second_le⟩ := isValid_iff.1 valid
  simp only at dated hour_le minute_le second_le
  have day : (date.dayNumber * 86400 + ((hour * 60 + minute) * 60 + second : Nat)) / 86400 =
      date.dayNumber := by omega
  have rest : ((date.dayNumber * 86400 + ((hour * 60 + minute) * 60 + second : Nat)) % 86400).toNat =
      (hour * 60 + minute) * 60 + second := by omega
  simp only [secondNumber, secondOfDay, ofSecondNumber, day, rest, Date.ofDayNumber_dayNumber dated]
  congr 1 <;> omega

/-- A clock shows an earlier year before the first second of the year. -/
theorem year_ofSecondNumber_lt_iff {year n : Int} :
    (ofSecondNumber n).date.year < year ↔ n < Date.yearStart year * 86400 := by
  have dated : (ofSecondNumber n).date.year = Date.yearOfDay (n / 86400) := rfl
  rw [dated, Date.yearOfDay_lt_iff]
  omega

end Reading

theorem isValid_reading (t : Timestamp) : t.reading.isValid := Reading.isValid_ofSecondNumber _

/-- A timestamp shows the reading that it was made of. -/
theorem reading_ofReading {r : Reading} (valid : r.isValid) {nanosecond : Nat} (offset : Int)
    (below : nanosecond < 1000000000) : (ofReading r nanosecond offset below).reading = r := by
  simp only [reading, ofReading, Int.sub_add_cancel, Reading.ofSecondNumber_secondNumber valid]

/-- A timestamp is made of what it shows. -/
theorem ofReading_reading (t : Timestamp) :
    ofReading t.reading t.nanosecond t.offset t.nanosecond_lt = t := by
  simp only [reading, ofReading, Reading.secondNumber_ofSecondNumber, Int.add_sub_cancel]

end Timestamp

end RecordMapper
