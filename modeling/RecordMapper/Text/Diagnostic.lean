import RecordMapper.Text.Unprintable
import RecordMapper.Text.GraphemeExtend

/-!
Strings in diagnostic descriptions: quoted, with short escapes for the usual control
characters and the code point of every character that does not show by itself.
-/

namespace RecordMapper.Text.Diagnostic

/-- How one character shows between the quotes. -/
def showChar (c : Char) : List Char :=
  if c = '\x00' then ['\\', '0']
  else if c = '\t' then ['\\', 't']
  else if c = '\n' then ['\\', 'n']
  else if c = '\r' then ['\\', 'r']
  else if c = '"' then ['\\', '"']
  else if c = '\\' then ['\\', '\\']
  else if isGraphemeExtend c || isUnprintable c then
    '\\' :: 'u' :: '\x7b' :: Nat.toDigits 16 c.toNat ++ ['\x7d']
  else [c]

/-- A string as descriptions show it. -/
def quote (s : String) : String :=
  String.ofList ('"' :: s.toList.flatMap showChar ++ ['"'])

/-- Text that may be missing. -/
def option : Option String → String
  | none => "None"
  | some s => "Some(" ++ quote s ++ ")"

end RecordMapper.Text.Diagnostic
