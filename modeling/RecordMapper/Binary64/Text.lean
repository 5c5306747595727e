import RecordMapper.Binary64.Shortest

/-!
Decimal text of doubles. Writing follows a `Layout`, which fixes where positional notation
ends and how an exponent looks; reading takes any decimal, with or without a fraction and
an exponent, and the names of the special values.
-/

namespace RecordMapper.Binary64

/-- The decisions a text format makes about finite doubles. -/
structure Layout where
  /-- Which of two equally near shortest decimals is written. -/
  tie : Tie
  /-- The least power of ten of a first digit that is written positionally. -/
  leastPower : Int
  /-- The greatest such power. -/
  greatestPower : Int
  /-- Whether a nonnegative exponent carries a plus sign. -/
  plusSign : Bool

namespace Layout

/-- The layout of statements and messages: of two equally near decimals the upper is written,
first digits at powers of ten from -4 to 15 stand positionally, and a positive exponent has no
sign. -/
def plain : Layout := ⟨.up, -4, 15, false⟩

/-- Digits around a decimal point, with at least one digit on either side. -/
def positional (digits : List Char) (power : Int) : List Char :=
  if power < 0 then
    '0' :: '.' :: (List.replicate (-power - 1).toNat '0' ++ digits)
  else
    let places := power.toNat + 1
    let whole := digits.take places
    let fraction := digits.drop places
    whole ++ List.replicate (places - whole.length) '0' ++
      '.' :: (if fraction.isEmpty then ['0'] else fraction)

/-- One digit, the others after a point, and the exponent. -/
def scientific (layout : Layout) (digits : List Char) (power : Int) : List Char :=
  let fraction := digits.drop 1
  let sign := if power < 0 then ['-'] else if layout.plusSign then ['+'] else []
  digits.take 1 ++ (if fraction.isEmpty then [] else '.' :: fraction) ++
    'e' :: sign ++ Nat.toDigits 10 power.natAbs

/-- The text of the magnitude of a rank. -/
def magnitude (layout : Layout) (rank : Nat) : List Char :=
  if rank = 0 then ['0', '.', '0']
  else
    let decimal := Decimal.shortest layout.tie rank
    let power := decimal.leadingPower
    if layout.leastPower ≤ power ∧ power ≤ layout.greatestPower then
      positional decimal.digits power
    else layout.scientific decimal.digits power

/-- The text of a finite double. -/
def write (layout : Layout) (x : Finite) : String :=
  String.ofList ((if x.negative then ['-'] else []) ++ layout.magnitude x.rank)

end Layout

/-- The text of a double in which the special values have names of their own. -/
def text (layout : Layout) : Binary64 → String
  | .nan => "NaN"
  | .infinite negative => if negative then "-inf" else "inf"
  | .finite x => layout.write x

/-- A run of digits as a number. -/
def digitsValue (digits : List Char) : Nat := Nat.ofDigitChars 10 digits 0

/-- The double of a decimal given by the digits before and after its point. -/
def ofParts (negative : Bool) (whole fraction : List Char) (exponent : Int) : Binary64 :=
  ofDecimal negative (digitsValue (whole ++ fraction)) (exponent - fraction.length)

/-- A sign, if one is there, and what follows it; `true` stands for minus. -/
def readSign : List Char → Bool × List Char
  | '-' :: rest => (true, rest)
  | '+' :: rest => (false, rest)
  | text => (false, text)

/-- The exponent that a text spells, if it is nothing but an exponent. -/
def readExponent? : List Char → Option Int
  | [] => some 0
  | mark :: rest =>
    let (negative, digits) := readSign rest
    if (mark = 'e' ∨ mark = 'E') ∧ digits ≠ [] ∧ digits.all Char.isDigit then
      let size : Int := digitsValue digits
      some (if negative then -size else size)
    else none

/-- The double that a text denotes, correctly rounded. -/
def ofText? (text : String) : Option Binary64 :=
  let (negative, body) := readSign text.toList
  let name := body.map Char.toLower
  if name = ['n', 'a', 'n'] then some .nan
  else if name = ['i', 'n', 'f'] ∨ name = ['i', 'n', 'f', 'i', 'n', 'i', 't', 'y'] then
    some (.infinite negative)
  else
    let whole := body.takeWhile Char.isDigit
    let rest := body.dropWhile Char.isDigit
    let fraction := if rest.head? = some '.' then (rest.drop 1).takeWhile Char.isDigit else []
    let rest := if rest.head? = some '.' then (rest.drop 1).dropWhile Char.isDigit else rest
    if whole = [] ∧ fraction = [] then none
    else (readExponent? rest).map (ofParts negative whole fraction)

end RecordMapper.Binary64
