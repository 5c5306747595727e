import RecordMapper.Timestamp.Basic

/-!
Text of timestamps. The RFC 3339 form has a four-digit year, drops the zeros at the end of
the fraction, and names the zero offset `Z`; it exists for the years 0 to 9999 and offsets
of whole minutes. The long form exists for every timestamp.
-/

namespace RecordMapper.Timestamp

/-- Decimal digits, filled with zeros on the left up to a width. -/
def padded (width n : Nat) : List Char :=
  let digits := Nat.toDigits 10 n
  List.replicate (width - digits.length) '0' ++ digits

/-- The digits after the point of a fraction of a second, without zeros at the end. -/
def fractionDigits (nanosecond : Nat) : List Char :=
  ((padded 9 nanosecond).reverse.dropWhile (· = '0')).reverse

/-- The sign of an offset; zero counts as ahead. -/
def offsetSign (offset : Int) : Char := if offset < 0 then '-' else '+'

/-- Month and day, each after a hyphen. -/
def monthAndDay (date : Date) : List Char :=
  '-' :: padded 2 date.month ++ '-' :: padded 2 date.day

/-- Minute and second, each after a colon. -/
def minuteAndSecond (r : Reading) : List Char :=
  ':' :: padded 2 r.minute ++ ':' :: padded 2 r.second

/-- The offset of an RFC 3339 text. -/
def offsetText (offset : Int) : List Char :=
  if offset = 0 then ['Z']
  else
    let minutes := offset.natAbs / 60
    offsetSign offset :: padded 2 (minutes / 60) ++ ':' :: padded 2 (minutes % 60)

/-- The RFC 3339 text, told in the offset of the timestamp. -/
def rfc3339? (t : Timestamp) : Option String :=
  let r := t.reading
  if r.date.year < 0 ∨ 9999 < r.date.year ∨ t.offset % 60 ≠ 0 then none
  else
    let fraction := if t.nanosecond = 0 then [] else '.' :: fractionDigits t.nanosecond
    some (String.ofList (padded 4 r.date.year.toNat ++ monthAndDay r.date ++
      'T' :: padded 2 r.hour ++ minuteAndSecond r ++ fraction ++ offsetText t.offset))

/-- The RFC 3339 text of the instant, told in UTC. -/
def utcText? (t : Timestamp) : Option String := t.toUtc.rfc3339?

/-- The long form: any year, at least one digit of fraction, the offset to the second. -/
def longText (t : Timestamp) : String :=
  let r := t.reading
  let year := r.date.year
  let sign := if year < 0 then ['-'] else if 9999 < year then ['+'] else []
  let fraction := if t.nanosecond = 0 then ['0'] else fractionDigits t.nanosecond
  let ahead := t.offset.natAbs
  String.ofList (sign ++ padded 4 year.natAbs ++ monthAndDay r.date ++
    ' ' :: Nat.toDigits 10 r.hour ++ minuteAndSecond r ++ '.' :: fraction ++
    ' ' :: offsetSign t.offset :: padded 2 (ahead / 3600) ++
    ':' :: padded 2 (ahead / 60 % 60) ++ ':' :: padded 2 (ahead % 60))

namespace Reader

/-- Exactly so many digits at the start of a text, as a number. -/
def digits? (width : Nat) (text : List Char) : Option (Nat × List Char) :=
  let run := text.take width
  if run.length = width ∧ run.all Char.isDigit then
    some (Nat.ofDigitChars 10 run 0, text.drop width)
  else none

/-- A given character at the start of a text. -/
def char? (c : Char) : List Char → Option (List Char)
  | [] => none
  | d :: rest => if d = c then some rest else none

/-- Any one ASCII character between the date and the time. -/
def separator? : List Char → Option (List Char)
  | [] => none
  | c :: rest => if c.toNat < 0x80 then some rest else none

/-- An optional fraction of a second; digits beyond the nanosecond are dropped. -/
def fraction? : List Char → Option (Nat × List Char)
  | '.' :: rest =>
    let run := rest.takeWhile Char.isDigit
    if run = [] then none
    else
      let nine := (run ++ List.replicate 9 '0').take 9
      some (Nat.ofDigitChars 10 nine 0, rest.dropWhile Char.isDigit)
  | text => some (0, text)

/-- An offset, in seconds ahead of UTC. -/
def offset? : List Char → Option (Int × List Char)
  | [] => none
  | c :: rest =>
    if c = 'Z' ∨ c = 'z' then some (0, rest)
    else if c = '+' ∨ c = '-' then do
      let (hours, rest) ← digits? 2 rest
      let rest ← char? ':' rest
      let (minutes, rest) ← digits? 2 rest
      if 23 < hours ∨ 59 < minutes then none
      else
        let ahead : Int := (hours * 60 + minutes) * 60
        some (if c = '-' then -ahead else ahead, rest)
    else none

end Reader

/-- A leap second can only follow the last second of a month in UTC, which the timestamp,
one nanosecond before its end, has to lie in. -/
def endsMonth (t : Timestamp) : Bool :=
  let r := t.toUtc.reading
  r.hour = 23 && r.minute = 59 && r.second = 59 &&
    r.date.day = Date.daysInMonth r.date.year r.date.month

/-- The timestamp that an RFC 3339 text denotes. A leap second counts as the last nanosecond
before it. -/
def ofRfc3339? (text : String) : Option Timestamp := do
  let (year, rest) ← Reader.digits? 4 text.toList
  let rest ← Reader.char? '-' rest
  let (month, rest) ← Reader.digits? 2 rest
  let rest ← Reader.char? '-' rest
  let (day, rest) ← Reader.digits? 2 rest
  let rest ← Reader.separator? rest
  let (hour, rest) ← Reader.digits? 2 rest
  let rest ← Reader.char? ':' rest
  let (minute, rest) ← Reader.digits? 2 rest
  let rest ← Reader.char? ':' rest
  let (second, rest) ← Reader.digits? 2 rest
  let (nanosecond, rest) ← Reader.fraction? rest
  let (offset, rest) ← Reader.offset? rest
  if rest ≠ [] then none
  else
    let date : Date := ⟨year, month, day⟩
    if second = 60 then
      let reading : Reading := ⟨date, hour, minute, 59⟩
      let t := ofReading reading 999999999 offset
      if reading.isValid && t.endsMonth then some t else none
    else
      let reading : Reading := ⟨date, hour, minute, second⟩
      if h : nanosecond < 1000000000 ∧ reading.isValid then
        some (ofReading reading nanosecond offset h.1)
      else none

end RecordMapper.Timestamp
