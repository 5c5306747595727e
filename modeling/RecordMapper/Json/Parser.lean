import RecordMapper.Binary64.Text
import RecordMapper.Json.Basic
import RecordMapper.Text.Hex

/-!
Reading JSON text, strictly by the grammar: blanks are the space, the tab and the two line
ends, strings hold no raw control characters, and nothing may follow the value. A number
without fraction or exponent that fits 64 bits is whole, and negative zero is a double.
-/

namespace RecordMapper.Json

namespace Parser

/-- The blanks of JSON. -/
def isBlank (c : Char) : Bool := c = ' ' || c = '\t' || c = '\n' || c = '\r'

/-- The text after its leading blanks. -/
def skipBlanks (text : List Char) : List Char := text.dropWhile isBlank

/-- The character that a backslash and this character stand for. -/
def shortEscape? (c : Char) : Option Char :=
  match c with
  | '"' => some '"'
  | '\\' => some '\\'
  | '/' => some '/'
  | 'b' => some '\x08'
  | 'f' => some '\x0c'
  | 'n' => some '\n'
  | 'r' => some '\r'
  | 't' => some '\t'
  | _ => none

/-- The inside of a string literal, up to its closing quote, and what follows the quote. -/
def literalBody? : List Char → Option (List Char × List Char)
  | [] => none
  | '"' :: rest => some ([], rest)
  | '\\' :: c :: rest => (literalBody? rest).map fun (body, rest) => ('\\' :: c :: body, rest)
  | c :: rest => (literalBody? rest).map fun (body, rest) => (c :: body, rest)

/-- The characters that the inside of a literal stands for. Characters beyond the basic
plane may be given by two escapes, a high and a low surrogate. -/
def unescape? : List Char → Option (List Char)
  | [] => some []
  | '\\' :: 'u' :: a :: b :: c :: d :: rest => do
    let unit ← Text.hexNumber? [a, b, c, d]
    if 0xD800 ≤ unit ∧ unit < 0xDC00 then
      match rest with
      | '\\' :: 'u' :: e :: f :: g :: h :: rest =>
        let low ← Text.hexNumber? [e, f, g, h]
        if 0xDC00 ≤ low ∧ low < 0xE000 then
          let code := 0x10000 + (unit - 0xD800) * 0x400 + (low - 0xDC00)
          (unescape? rest).map (Char.ofNat code :: ·)
        else none
      | _ => none
    else if 0xDC00 ≤ unit ∧ unit < 0xE000 then none
    else (unescape? rest).map (Char.ofNat unit :: ·)
  | '\\' :: c :: rest => do
    let meant ← shortEscape? c
    (unescape? rest).map (meant :: ·)
  | c :: rest => if c.toNat < 0x20 then none else (unescape? rest).map (c :: ·)

/-- A string whose opening quote has been read. -/
def string? (text : List Char) : Option (String × List Char) := do
  let (body, rest) ← literalBody? text
  let content ← unescape? body
  return (String.ofList content, rest)

/-- The characters of which numbers consist. -/
def isNumberChar (c : Char) : Bool :=
  c.isDigit || c = '-' || c = '+' || c = '.' || c = 'e' || c = 'E'

/-- The finite double among doubles. -/
def finite? : Binary64 → Option Number
  | .finite x => some (.double x)
  | _ => none

/-- The number that a whole text spells. -/
def number? (text : List Char) : Option Number :=
  let negative := text.head? = some '-'
  let body := if negative then text.drop 1 else text
  let whole := body.takeWhile Char.isDigit
  let rest := body.dropWhile Char.isDigit
  if whole = [] ∨ (whole.head? = some '0' ∧ 1 < whole.length) then none
  else if rest = [] then
    let size : Int := Binary64.digitsValue whole
    let n := if negative then -size else size
    if negative ∧ n = 0 then finite? (Binary64.ofParts true whole [] 0)
    else match Number.ofInt? n with
      | some fits => some fits
      | none => finite? (Binary64.ofParts negative whole [] 0)
  else
    let point := rest.head? = some '.'
    let fraction := if point then (rest.drop 1).takeWhile Char.isDigit else []
    let rest := if point then (rest.drop 1).dropWhile Char.isDigit else rest
    if point ∧ fraction = [] then none
    else do
      let exponent ← Binary64.readExponent? rest
      finite? (Binary64.ofParts negative whole fraction exponent)

mutual

/-- A value at the start of a text, and what follows it. The first argument bounds how many
values and items may be opened on the way. -/
def value? : Nat → List Char → Option (Json × List Char)
  | 0, _ => none
  | fuel + 1, text =>
    match skipBlanks text with
    | 'n' :: 'u' :: 'l' :: 'l' :: rest => some (.null, rest)
    | 't' :: 'r' :: 'u' :: 'e' :: rest => some (.bool true, rest)
    | 'f' :: 'a' :: 'l' :: 's' :: 'e' :: rest => some (.bool false, rest)
    | '"' :: rest => (string? rest).map fun (s, rest) => (.string s, rest)
    | '[' :: rest =>
      match skipBlanks rest with
      | ']' :: rest => some (.array [], rest)
      | rest => (items? fuel rest).map fun (items, rest) => (.array items, rest)
    | '\x7b' :: rest =>
      match skipBlanks rest with
      | '\x7d' :: rest => some (.object [], rest)
      | rest => (members? fuel rest).map fun (members, rest) => (.ofMembers members, rest)
    | text =>
      (number? (text.takeWhile isNumberChar)).map fun n =>
        (.number n, text.dropWhile isNumberChar)

/-- The items of an array up to its closing bracket. -/
def items? : Nat → List Char → Option (List Json × List Char)
  | 0, _ => none
  | fuel + 1, text => do
    let (item, rest) ← value? fuel text
    match skipBlanks rest with
    | ',' :: rest => (items? fuel rest).map fun (items, rest) => (item :: items, rest)
    | ']' :: rest => some ([item], rest)
    | _ => none

/-- The members of an object up to its closing brace, in the order of the text. -/
def members? : Nat → List Char → Option (List (String × Json) × List Char)
  | 0, _ => none
  | fuel + 1, text =>
    match skipBlanks text with
    | '"' :: rest => do
      let (name, rest) ← string? rest
      match skipBlanks rest with
      | ':' :: rest =>
        let (value, rest) ← value? fuel rest
        match skipBlanks rest with
        | ',' :: rest =>
          (members? fuel rest).map fun (members, rest) => ((name, value) :: members, rest)
        | '\x7d' :: rest => some ([(name, value)], rest)
        | _ => none
      | _ => none
    | _ => none

end

end Parser

/-- The value that a text spells, if it spells one and nothing else. Each bracket opens one
value and one list, so twice the length of the text bounds the openings. -/
def parse? (text : String) : Option Json :=
  let chars := text.toList
  match Parser.value? (2 * chars.length + 2) chars with
  | some (value, rest) => if Parser.skipBlanks rest = [] then some value else none
  | none => none

end RecordMapper.Json
