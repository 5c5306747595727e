import RecordMapper.Binary64.Text
import RecordMapper.Json.Basic
import RecordMapper.Text.Hex

/-!
Compact JSON text: no blanks, members in the order of their names, and in strings only the
quote, the backslash and the control characters below the space are escaped.
-/

namespace RecordMapper.Json

/-- Doubles have the fewest digits, a tie goes to an even last digit, first digits at powers
of ten from -5 to 15 are written positionally, and a positive exponent has its sign. -/
def numberLayout : Binary64.Layout := ⟨.even, -5, 15, true⟩

/-- The escaped form of one character of a string. -/
def escapeChar (c : Char) : List Char :=
  if c = '"' then ['\\', '"']
  else if c = '\\' then ['\\', '\\']
  else if c = '\x08' then ['\\', 'b']
  else if c = '\x0c' then ['\\', 'f']
  else if c = '\n' then ['\\', 'n']
  else if c = '\r' then ['\\', 'r']
  else if c = '\t' then ['\\', 't']
  else if c.toNat < 0x20 then
    ['\\', 'u', '0', '0', Text.hexDigit (c.toNat / 16), Text.hexDigit c.toNat]
  else [c]

/-- A string between quotes. -/
def quote (s : String) : String :=
  String.ofList ('"' :: s.toList.flatMap escapeChar ++ ['"'])

/-- The text of a number. -/
def Number.print : Number → String
  | .whole n _ => toString n
  | .double x => numberLayout.write x

mutual

/-- The compact text of a value. -/
def print : Json → String
  | .null => "null"
  | .bool b => if b then "true" else "false"
  | .number n => n.print
  | .string s => quote s
  | .array items => "[" ++ String.intercalate "," (printItems items) ++ "]"
  | .object members => "\x7b" ++ String.intercalate "," (printMembers members) ++ "\x7d"

/-- The texts of the items of an array. -/
def printItems : List Json → List String
  | [] => []
  | item :: rest => item.print :: printItems rest

/-- The texts of the members of an object. -/
def printMembers : List (String × Json) → List String
  | [] => []
  | (name, value) :: rest => (quote name ++ ":" ++ value.print) :: printMembers rest

end

end RecordMapper.Json
