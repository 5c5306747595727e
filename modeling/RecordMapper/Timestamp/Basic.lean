import RecordMapper.Timestamp.Calendar

/-!
Points in time with a nanosecond and a distance from UTC. A timestamp is an instant together
with the offset in which its calendar fields are told.
-/

namespace RecordMapper

/-- An instant and the offset of the clock that shows it. -/
structure Timestamp where
  /-- Whole seconds since the year 1 began in UTC. -/
  second : Int
  nanosecond : Nat
  nanosecond_lt : nanosecond < 1000000000
  /-- How many seconds the clock is ahead of UTC. -/
  offset : Int
deriving DecidableEq

namespace Timestamp

/-- What a calendar and a clock show. -/
structure Reading where
  date : Date
  hour : Nat
  minute : Nat
  second : Nat
deriving DecidableEq

namespace Reading

/-- The seconds of the clock since midnight. -/
def secondOfDay (r : Reading) : Nat := (r.hour * 60 + r.minute) * 60 + r.second

/-- The seconds since the year 1 began, by the same clock. -/
def secondNumber (r : Reading) : Int := r.date.dayNumber * 86400 + r.secondOfDay

/-- What shows that many seconds after the year 1 began. -/
def ofSecondNumber (n : Int) : Reading :=
  let rest := (n % 86400).toNat
  ⟨Date.ofDayNumber (n / 86400), rest / 3600, rest / 60 % 60, rest % 60⟩

/-- The date exists, and the clock shows a time of day. -/
def isValid (r : Reading) : Bool :=
  r.date.isValid && r.hour ≤ 23 && r.minute ≤ 59 && r.second ≤ 59

end Reading

/-- The timestamp of a reading of a clock with the given offset. -/
def ofReading (reading : Reading) (nanosecond : Nat) (offset : Int)
    (h : nanosecond < 1000000000 := by decide) : Timestamp :=
  ⟨reading.secondNumber - offset, nanosecond, h, offset⟩

/-- What the clock of the timestamp shows. -/
def reading (t : Timestamp) : Reading := Reading.ofSecondNumber (t.second + t.offset)

/-- The same instant, told in UTC. It is relied on for timestamps that are `Supported` only. -/
def toUtc (t : Timestamp) : Timestamp := { t with offset := 0 }

/-- Calendars in use reach from the year -9999 to the year 9999. The clock of the timestamp and the
clock of UTC have both to show one of these years. -/
def Supported (t : Timestamp) : Prop :=
  (-9999 ≤ t.reading.date.year ∧ t.reading.date.year ≤ 9999) ∧
    -9999 ≤ t.toUtc.reading.date.year ∧ t.toUtc.reading.date.year ≤ 9999

instance (t : Timestamp) : Decidable t.Supported := inferInstanceAs (Decidable (_ ∧ _))

theorem toUtc_eq_iff {a b : Timestamp} :
    a.toUtc = b.toUtc ↔ a.second = b.second ∧ a.nanosecond = b.nanosecond := by
  simp [toUtc]

end Timestamp

end RecordMapper
