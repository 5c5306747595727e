import RecordMapper.Binary64.Text
import RecordMapper.Text.Hex
import RecordMapper.Timestamp.Text
import RecordMapper.Toml.Basic

/-!
Numbers, dates and times of TOML. Underscores may stand between digits; whole numbers have
64 bits and a sign; doubles need a fraction or an exponent.
-/

namespace RecordMapper.Toml

/-- The further digits of a number, in which an underscore may precede a digit. -/
def moreDigits (isDigit : Char → Bool) : List Char → List Char × List Char
  | [] => ([], [])
  | '_' :: c :: rest =>
    if isDigit c then
      let (digits, rest) := moreDigits isDigit rest
      (c :: digits, rest)
    else ([], '_' :: c :: rest)
  | c :: rest =>
    if isDigit c then
      let (digits, rest) := moreDigits isDigit rest
      (c :: digits, rest)
    else ([], c :: rest)

/-- A run of at least one digit. -/
def digitRun? (isDigit : Char → Bool) : Reader (List Char)
  | [] => none
  | c :: rest =>
    if isDigit c then
      let (digits, rest) := moreDigits isDigit rest
      some (c :: digits, rest)
    else none

/-- Decimal digits without a superfluous zero in front. -/
def wholeDigits? : Reader (List Char)
  | '0' :: rest => some (['0'], rest)
  | text => digitRun? Char.isDigit text

/-- A fraction: a point and digits; none if there is no point. -/
def fraction? : Reader (Option (List Char))
  | '.' :: rest => (digitRun? Char.isDigit rest).map fun (digits, rest) => (some digits, rest)
  | text => some (none, text)

/-- An exponent: a mark, an optional sign and digits; none if there is no mark. -/
def exponent? : Reader (Option Int)
  | [] => some (none, [])
  | c :: rest =>
    if c = 'e' ∨ c = 'E' then
      let (negative, rest) := Binary64.readSign rest
      (digitRun? Char.isDigit rest).map fun (digits, rest) =>
        let size : Int := Binary64.digitsValue digits
        (some (if negative then -size else size), rest)
    else some (none, c :: rest)

/-- A whole number in range. -/
def integer? (n : Int) : Option Value :=
  if -9223372036854775808 ≤ n ∧ n < 9223372036854775808 then some (.integer n) else none

/-- A double; decimals above the largest one are refused. -/
def float? (x : Binary64) : Option Value :=
  if x = .infinite false then none else some (.float x)

/-- A decimal number: a double if it has a fraction or an exponent. -/
def decimal? (text : List Char) : Option (Value × List Char) := do
  let (negative, rest) := Binary64.readSign text
  let (whole, rest) ← wholeDigits? rest
  let (fraction, rest) ← fraction? rest
  let (exponent, rest) ← exponent? rest
  if fraction.isNone && exponent.isNone then
    let size : Int := Binary64.digitsValue whole
    let value ← integer? (if negative then -size else size)
    some (value, rest)
  else
    let value ← float? (Binary64.ofParts negative whole (fraction.getD []) (exponent.getD 0))
    some (value, rest)

/-- A whole number in another base, whose marker has been read. -/
def based? (base : Nat) (isDigit : Char → Bool) (text : List Char) :
    Option (Value × List Char) := do
  let (digits, rest) ← digitRun? isDigit text
  let values ← digits.mapM Text.hexValue?
  let value ← integer? (values.foldl (fun sum digit => base * sum + digit) 0 : Nat)
  some (value, rest)

/-- A number: in another base, special, or decimal. -/
def number? (text : List Char) : Option (Value × List Char) :=
  match text with
  | '0' :: 'x' :: rest => based? 16 (fun c => (Text.hexValue? c).isSome) rest
  | '0' :: 'o' :: rest => based? 8 (fun c => '0' ≤ c && c ≤ '7') rest
  | '0' :: 'b' :: rest => based? 2 (fun c => c = '0' || c = '1') rest
  | _ =>
    match Binary64.readSign text with
    | (negative, 'i' :: 'n' :: 'f' :: rest) => some (.float (.infinite negative), rest)
    | (_, 'n' :: 'a' :: 'n' :: rest) => some (.float .nan, rest)
    | _ => decimal? text

namespace Moment

open Timestamp.Reader

/-- The text after a date at its start. -/
def date? (text : List Char) : Option (List Char) := do
  let (year, rest) ← digits? 4 text
  let rest ← char? '-' rest
  let (month, rest) ← digits? 2 rest
  let rest ← char? '-' rest
  let (day, rest) ← digits? 2 rest
  if (⟨year, month, day⟩ : Date).isValid then some rest else none

/-- The text after a time of day at its start; a second may be a leap second. -/
def time? (text : List Char) : Option (List Char) := do
  let (hour, rest) ← digits? 2 text
  let rest ← char? ':' rest
  let (minute, rest) ← digits? 2 rest
  let rest ← char? ':' rest
  let (second, rest) ← digits? 2 rest
  let rest := ((Timestamp.Reader.fraction? rest).map Prod.snd).getD rest
  if hour ≤ 23 ∧ minute ≤ 59 ∧ second ≤ 60 then some rest else none

/-- The text after the date, the time, or both, at its start; only both together can have an
offset. -/
def moment? (text : List Char) : Option (List Char) :=
  match date? text with
  | none => time? text
  | some rest =>
    match rest with
    | [] => some []
    | c :: clock =>
      if c = 'T' ∨ c = 't' ∨ c = ' ' then
        match time? clock with
        | none => some rest
        | some rest => some (((offset? rest).map Prod.snd).getD rest)
      else some rest

end Moment

/-- A date or a time, or else a number. -/
def momentOrNumber? (text : List Char) : Option (Value × List Char) :=
  match Moment.moment? text with
  | some rest =>
    some (.moment (String.ofList (text.take (text.length - rest.length))), rest)
  | none => number? text

end RecordMapper.Toml
