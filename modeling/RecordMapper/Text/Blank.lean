/-!
White space: the characters with the property White_Space of the Unicode Character Database.
-/

namespace RecordMapper.Text

/-- First and last code points of the runs of white space. -/
def blankRanges : List (Nat × Nat) := [
  (0x9, 0xd), (0x20, 0x20), (0x85, 0x85), (0xa0, 0xa0), (0x1680, 0x1680), (0x2000, 0x200a),
  (0x2028, 0x2029), (0x202f, 0x202f), (0x205f, 0x205f), (0x3000, 0x3000)]

/-- The character is white space. -/
def isBlank (c : Char) : Bool :=
  blankRanges.any fun range => range.1 ≤ c.toNat && c.toNat ≤ range.2

/-- The text is empty or nothing but white space. -/
def isAllBlank (text : String) : Bool := text.toList.all isBlank

end RecordMapper.Text
