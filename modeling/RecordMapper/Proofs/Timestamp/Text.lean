import RecordMapper.Proofs.Binary64.Text
import RecordMapper.Proofs.Timestamp.Calendar
import RecordMapper.Timestamp.Text

/-!
Text of timestamps reads back. A text `Shows` a reading with its fraction of a second in the form
of RFC 3339 when each field stands there in its width and the fraction has no zero at its end.
The text that is written shows what the clock of the timestamp shows (`shows_rfc3339`), and a text
that shows something is read as that (`ofRfc3339?_of_shows`). So the text in UTC tells the instant
and nothing else (`utcText_keeps_instant`).
-/

namespace RecordMapper.Timestamp

open Binary64 (isDigit_of_mem_zeros takeWhile_digits)
open Binary64.Decimal (dropTrailingZeros dropTrailingZeros_append)

/-! ## Digits -/

/-- The text shows the number in just so many decimal digits. -/
structure Numeral (width n : Nat) (text : List Char) : Prop where
  length_eq : text.length = width
  isDigit : ∀ c ∈ text, c.isDigit
  value : Nat.ofDigitChars 10 text 0 = n

theorem numeral_padded {width n : Nat} (pos : 0 < width) (small : n < 10 ^ width) :
    Numeral width n (padded width n) where
  length_eq := by
    have fits := Binary64.decimalLength_le pos small
    rw [Binary64.decimalLength] at fits
    rw [padded, List.length_append, List.length_replicate]
    omega
  isDigit c mem := by
    rcases List.mem_append.1 mem with zero | digit
    · exact isDigit_of_mem_zeros zero
    · exact Nat.isDigit_of_mem_toDigits (by decide) (by decide) digit
  value := by
    rw [padded, Nat.ofDigitChars_append, Nat.ofDigitChars_replicate_zero, Nat.mul_zero,
      Nat.ofDigitChars_ten_toDigits]

theorem Numeral.digits?_append {width n : Nat} {text : List Char} (shows : Numeral width n text)
    (rest : List Char) : Reader.digits? width (text ++ rest) = some (n, rest) := by
  have digits : text.all Char.isDigit := List.all_eq_true.2 shows.isDigit
  simp only [Reader.digits?, List.take_left' shows.length_eq, List.drop_left' shows.length_eq,
    shows.length_eq, digits, shows.value, and_self, if_true]

/-! ## Fractions -/

/-- The text shows so many nanoseconds as a fraction of a second, from the point on: nothing if
there are none, and else the digits up to the last that is not zero. -/
inductive ShowsFraction : Nat → List Char → Prop
  | absent : ShowsFraction 0 []
  | point {nanosecond : Nat} {digits : List Char} (nonzero : nanosecond ≠ 0)
    (nonempty : digits ≠ []) (stripped : digits.getLast? ≠ some '0')
    (filled : Numeral 9 nanosecond (digits ++ List.replicate (9 - digits.length) '0')) :
    ShowsFraction nanosecond ('.' :: digits)

theorem getLast?_dropTrailingZeros (digits : List Char) :
    (dropTrailingZeros digits).getLast? ≠ some '0' := by
  intro zero
  rw [dropTrailingZeros, List.getLast?_reverse] at zero
  have kept := List.head?_dropWhile_not (fun c : Char => decide (c = '0')) digits.reverse
  rw [zero] at kept
  cases kept

theorem showsFraction {nanosecond : Nat} (below : nanosecond < 1000000000) :
    ShowsFraction nanosecond
      (if nanosecond = 0 then [] else '.' :: fractionDigits nanosecond) := by
  split
  · subst nanosecond
    exact .absent
  · rename_i nonzero
    have nine : Numeral 9 nanosecond _ := numeral_padded (by decide) below
    obtain ⟨k, split⟩ := dropTrailingZeros_append (padded 9 nanosecond)
    have length := nine.length_eq
    rw [split, List.length_append, List.length_replicate] at length
    have zeros : k = 9 - (dropTrailingZeros (padded 9 nanosecond)).length := by omega
    have filled := nine
    rw [split, zeros] at filled
    refine .point nonzero ?_ (getLast?_dropTrailingZeros _) filled
    intro empty
    replace empty : dropTrailingZeros (padded 9 nanosecond) = [] := empty
    have value := nine.value
    rw [split, empty, List.nil_append, Nat.ofDigitChars_replicate_zero, Nat.mul_zero] at value
    exact nonzero value.symm

/-- The rest does not go on with a fraction. -/
def EndsFraction (rest : List Char) : Prop := ∀ c ∈ rest.head?, c.isDigit = false ∧ c ≠ '.'

theorem ShowsFraction.fraction?_append {nanosecond : Nat} {text rest : List Char}
    (shows : ShowsFraction nanosecond text) (ended : EndsFraction rest) :
    Reader.fraction? (text ++ rest) = some (nanosecond, rest) := by
  cases shows with
  | absent =>
    rw [List.nil_append]
    cases rest with
    | nil => rfl
    | cons c rest =>
      unfold Reader.fraction?
      split
      · exact absurd rfl (ended '.' (by simp_all)).2
      · rfl
  | point nonzero nonempty stripped filled =>
    rename_i digits
    have digit : ∀ c ∈ digits, c.isDigit := fun c mem =>
      filled.isDigit c (List.mem_append_left _ mem)
    obtain ⟨taken, left⟩ := takeWhile_digits digit fun c next => (ended c next).1
    have nine : (digits ++ List.replicate 9 '0').take 9 =
        digits ++ List.replicate (9 - digits.length) '0' := by
      have length := filled.length_eq
      rw [List.length_append, List.length_replicate] at length
      rw [List.take_append, List.take_of_length_le (by omega), List.take_replicate,
        Nat.min_eq_left (Nat.sub_le _ _)]
    rw [List.cons_append]
    simp only [Reader.fraction?, taken, left, nonempty, if_false, nine, filled.value]

/-! ## Offsets -/

theorem endsFraction_offsetText (offset : Int) : EndsFraction (offsetText offset) := by
  intro c next
  unfold offsetText offsetSign at next
  split at next
  · cases next
    decide
  · split at next <;> cases next <;> decide

theorem offset?_signed {sign : Char} (signed : sign = '+' ∨ sign = '-') {hours minutes : Nat}
    (hours_le : hours ≤ 23) (minutes_le : minutes ≤ 59) :
    Reader.offset? (sign :: padded 2 hours ++ ':' :: padded 2 minutes) =
      some (if sign = '-' then -((hours * 60 + minutes) * 60 : Int)
        else (hours * 60 + minutes) * 60, []) := by
  have first : Numeral 2 hours (padded 2 hours) := numeral_padded (by decide) (by omega)
  have second : Numeral 2 minutes (padded 2 minutes) := numeral_padded (by decide) (by omega)
  have last := second.digits?_append []
  rw [List.append_nil] at last
  have bounded : ¬(23 < hours ∨ 59 < minutes) := by omega
  have offZero : ¬(sign = 'Z' ∨ sign = 'z') := by rcases signed with rfl | rfl <;> decide
  simp only [List.cons_append, Reader.offset?, offZero, signed, first.digits?_append, Reader.char?,
    last, bounded, if_true, if_false, Option.bind_eq_bind, Option.bind_some]

/-- Whole minutes below a day are read back with their sign. -/
theorem offset?_offsetText {offset : Int} (minutes : offset % 60 = 0)
    (small : offset.natAbs < 86400) : Reader.offset? (offsetText offset) = some (offset, []) := by
  have hours_le : offset.natAbs / 60 / 60 ≤ 23 := by omega
  have minutes_le : offset.natAbs / 60 % 60 ≤ 59 := by omega
  unfold offsetText offsetSign
  split
  · subst offset
    rfl
  · split
    · rw [offset?_signed (.inr rfl) hours_le minutes_le, if_pos rfl]
      congr 2
      omega
    · rw [offset?_signed (.inl rfl) hours_le minutes_le, if_neg (by decide)]
      congr 2
      omega

/-! ## Texts -/

/-- The text shows a reading in the form of RFC 3339: the fields of date and time in their widths
and with the signs between them, the fraction, and what is said of the zone. -/
def Shows (text : String) (r : Reading) (nanosecond : Nat) (zone : List Char) : Prop :=
  0 ≤ r.date.year ∧ ∃ year month day hour minute second fraction,
    Numeral 4 r.date.year.toNat year ∧ Numeral 2 r.date.month month ∧ Numeral 2 r.date.day day ∧
    Numeral 2 r.hour hour ∧ Numeral 2 r.minute minute ∧ Numeral 2 r.second second ∧
    ShowsFraction nanosecond fraction ∧
    text.toList = year ++ '-' :: (month ++ '-' :: (day ++ 'T' :: (hour ++ ':' :: (minute ++ ':' ::
      (second ++ (fraction ++ zone))))))

theorem rfc3339?_eq_none_iff {t : Timestamp} : t.rfc3339? = none ↔
    t.reading.date.year < 0 ∨ 9999 < t.reading.date.year ∨ t.offset % 60 ≠ 0 := by
  by_cases unwritten : t.reading.date.year < 0 ∨ 9999 < t.reading.date.year ∨ t.offset % 60 ≠ 0
  · exact iff_of_true (if_pos unwritten) unwritten
  · refine iff_of_false (fun none => ?_) unwritten
    rw [rfc3339?, if_neg unwritten] at none
    exact Option.some_ne_none _ none

/-- A text that is written shows the clock of the timestamp. -/
theorem shows_rfc3339 {t : Timestamp} {text : String} (written : t.rfc3339? = some text) :
    t.offset % 60 = 0 ∧ Shows text t.reading t.nanosecond (offsetText t.offset) := by
  have possible := mt rfc3339?_eq_none_iff.2 (by rw [written]; exact Option.some_ne_none text)
  obtain ⟨year_ge, year_le, minutes⟩ : 0 ≤ t.reading.date.year ∧ t.reading.date.year ≤ 9999 ∧
      t.offset % 60 = 0 := by omega
  obtain ⟨dated, hour_le, minute_le, second_le⟩ := Reading.isValid_iff.1 t.isValid_reading
  obtain ⟨month_le, day_le⟩ := Date.isValid_bounds dated
  refine ⟨minutes, year_ge, _, _, _, _, _, _, _, numeral_padded (by decide) (by omega),
    numeral_padded (by decide) (by omega), numeral_padded (by decide) (by omega),
    numeral_padded (by decide) (by omega), numeral_padded (by decide) (by omega),
    numeral_padded (by decide) (by omega), showsFraction t.nanosecond_lt, ?_⟩
  unfold rfc3339? at written
  rw [if_neg (by omega)] at written
  obtain rfl := Option.some.inj written
  simp [monthAndDay, minuteAndSecond]

theorem bind_of_eq_some {α β : Type} {x : Option α} {a : α} (read : x = some a)
    {next : α → Option β} : x >>= next = next a := by
  rw [read]
  rfl

theorem char?_cons (c : Char) (rest : List Char) : Reader.char? c (c :: rest) = some rest :=
  if_pos rfl

theorem separator?_cons (rest : List Char) : Reader.separator? ('T' :: rest) = some rest := rfl

/-- A text is read as what it shows. -/
theorem ofRfc3339?_of_shows {text : String} {r : Reading} {nanosecond : Nat} {offset : Int}
    (shows : Shows text r nanosecond (offsetText offset)) (valid : r.isValid)
    (below : nanosecond < 1000000000) (minutes : offset % 60 = 0) (small : offset.natAbs < 86400) :
    ofRfc3339? text = some (ofReading r nanosecond offset below) := by
  obtain ⟨year_ge, year, month, day, hour, minute, second, fraction, years, months, days, hours,
    minutes', seconds, fractions, spelled⟩ := shows
  have second_le := (Reading.isValid_iff.1 valid).2.2.2
  have dated : (r.date.year.toNat : Int) = r.date.year := Int.toNat_of_nonneg year_ge
  have fractionRead := fractions.fraction?_append (endsFraction_offsetText offset)
  have notLeap : r.second ≠ 60 := by omega
  unfold ofRfc3339?
  rw [spelled]
  -- each field is read where the one before it ends
  refine (bind_of_eq_some (years.digits?_append _)).trans ?_
  refine (bind_of_eq_some (char?_cons _ _)).trans ?_
  refine (bind_of_eq_some (months.digits?_append _)).trans ?_
  refine (bind_of_eq_some (char?_cons _ _)).trans ?_
  refine (bind_of_eq_some (days.digits?_append _)).trans ?_
  refine (bind_of_eq_some (separator?_cons _)).trans ?_
  refine (bind_of_eq_some (hours.digits?_append _)).trans ?_
  refine (bind_of_eq_some (char?_cons _ _)).trans ?_
  refine (bind_of_eq_some (minutes'.digits?_append _)).trans ?_
  refine (bind_of_eq_some (char?_cons _ _)).trans ?_
  refine (bind_of_eq_some (seconds.digits?_append _)).trans ?_
  refine (bind_of_eq_some fractionRead).trans ?_
  refine (bind_of_eq_some (offset?_offsetText minutes small)).trans ?_
  simp [dated, notLeap, below, valid]

/-- Whatever is written for a clock that is less than a day ahead or behind is read back. -/
theorem ofRfc3339?_rfc3339? {t : Timestamp} {text : String} (written : t.rfc3339? = some text)
    (small : t.offset.natAbs < 86400) : ofRfc3339? text = some t := by
  obtain ⟨minutes, shows⟩ := shows_rfc3339 written
  rw [ofRfc3339?_of_shows shows t.isValid_reading t.nanosecond_lt minutes small,
    ofReading_reading]

/-! ## Texts in UTC -/

theorem utcText?_eq_none_iff {t : Timestamp} : t.utcText? = none ↔
    t.toUtc.reading.date.year < 0 ∨ 9999 < t.toUtc.reading.date.year := by
  have utc : t.toUtc.offset % 60 = 0 := rfl
  rw [utcText?, rfc3339?_eq_none_iff, utc]
  simp

/-- Of the timestamps that are supported just those have no text that lie before the year 0. -/
theorem Supported.utcText?_eq_none_iff {t : Timestamp} (supported : t.Supported) :
    t.utcText? = none ↔ t.toUtc.reading.date.year < 0 := by
  rw [Timestamp.utcText?_eq_none_iff, or_iff_left (Int.not_lt.2 supported.2.2)]

theorem ofRfc3339?_utcText {t : Timestamp} {text : String} (written : t.utcText? = some text) :
    ofRfc3339? text = some t.toUtc :=
  ofRfc3339?_rfc3339? written (show (0 : Int).natAbs < 86400 by decide)

/-- Two timestamps have one text in UTC where they are one instant. -/
theorem utcText?_eq_some_iff {t other : Timestamp} {text : String}
    (written : t.utcText? = some text) : other.utcText? = some text ↔
      other.second = t.second ∧ other.nanosecond = t.nanosecond := by
  rw [← toUtc_eq_iff]
  constructor
  · intro same
    have own := ofRfc3339?_utcText written
    have its := ofRfc3339?_utcText same
    exact Option.some.inj (its.symm.trans own)
  · intro same
    rw [utcText?, same]
    exact written

/-- A date and a time of day that exist, told by a clock with any offset, have a text in UTC if
the year in UTC has four digits. The text shows a date and a time of day that exist, closed by the
letter for UTC, and it is read as the same second and nanosecond. Every timestamp of that instant
has this text, whatever its offset, and no other timestamp has it. -/
theorem utcText_keeps_instant {r : Reading} (valid : r.isValid) {nanosecond : Nat}
    (below : nanosecond < 1000000000) (offset : Int)
    (first : 0 ≤ (ofReading r nanosecond offset below).toUtc.reading.date.year)
    (last : (ofReading r nanosecond offset below).toUtc.reading.date.year ≤ 9999) :
    let t := ofReading r nanosecond offset below
    t.reading = r ∧ t.toUtc.reading.isValid ∧ ∃ text, t.utcText? = some text ∧
      Shows text t.toUtc.reading nanosecond ['Z'] ∧
      ofRfc3339? text = some ⟨r.secondNumber - offset, nanosecond, below, 0⟩ ∧
      ∀ other : Timestamp, other.utcText? = some text ↔
        other.second = r.secondNumber - offset ∧ other.nanosecond = nanosecond := by
  intro t
  have possible : t.utcText? ≠ none := fun none => by
    rcases utcText?_eq_none_iff.1 none with early | late
    · exact absurd first (Int.not_le.2 early)
    · exact absurd last (Int.not_le.2 late)
  obtain ⟨text, written⟩ := Option.ne_none_iff_exists'.1 possible
  refine ⟨reading_ofReading valid offset below, t.toUtc.isValid_reading, text, written, ?_, ?_, ?_⟩
  · exact (shows_rfc3339 written).2
  · exact ofRfc3339?_utcText written
  · exact fun other => utcText?_eq_some_iff written

/-- Half an hour into a day in March it is still the last day of February in UTC, and the evening
of that day west of it. -/
theorem utcText_keeps_instant_leap_day :
    let t := ofReading ⟨⟨2024, 3, 1⟩, 0, 30, 0⟩ 500000000 3600
    let west := ofReading ⟨⟨2024, 2, 29⟩, 18, 30, 0⟩ 500000000 (-18000)
    t.utcText? = some "2024-02-29T23:30:00.5Z" ∧ west.utcText? = t.utcText? ∧
      ofRfc3339? "2024-02-29T23:30:00.5Z" = some t.toUtc := by
  intro t west
  have own : t.utcText? = some "2024-02-29T23:30:00.5Z" := by decide
  obtain ⟨-, -, text, written, -, read, same⟩ := @utcText_keeps_instant
    ⟨⟨2024, 3, 1⟩, 0, 30, 0⟩ (by decide) 500000000 (by decide) 3600 (by decide) (by decide)
  obtain rfl := Option.some.inj (own.symm.trans written)
  exact ⟨own, ((same west).2 (by decide)).trans own.symm, read⟩

end RecordMapper.Timestamp
