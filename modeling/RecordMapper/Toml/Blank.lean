/-!
What TOML ignores: blanks, comments and ends of lines.
-/

namespace RecordMapper.Toml

/-- Blanks within a line. -/
def isBlank (c : Char) : Bool := c = ' ' || c = '\t'

/-- Characters that comments and strings may hold: all but the control characters, of which
only the tab is allowed. -/
def isPlain (c : Char) : Bool := c = '\t' || (0x20 ≤ c.toNat && c.toNat ≠ 0x7f)

/-- The text after its leading blanks. -/
def skipBlanks (text : List Char) : List Char := text.dropWhile isBlank

/-- The text after the end of a line at its start; a carriage return needs a line feed. -/
def newline? : List Char → Option (List Char)
  | '\n' :: rest => some rest
  | '\r' :: '\n' :: rest => some rest
  | _ => none

/-- The text after the comment at its start, if there is one. -/
def skipComment : List Char → List Char
  | '#' :: rest => rest.dropWhile isPlain
  | text => text

/-- The text after the rest of a line that has nothing more to say. -/
def lineEnd? (text : List Char) : Option (List Char) :=
  match skipComment (skipBlanks text) with
  | [] => some []
  | rest => newline? rest

/-- The text after all leading blanks, comments and ends of lines; the flag tells whether the
text starts within a comment. -/
def skipGaps : Bool → List Char → List Char
  | _, [] => []
  | _, '\n' :: rest => skipGaps false rest
  | _, '\r' :: '\n' :: rest => skipGaps false rest
  | inComment, c :: rest =>
    if inComment then if isPlain c then skipGaps true rest else c :: rest
    else if isBlank c then skipGaps false rest
    else if c = '#' then skipGaps true rest
    else c :: rest

end RecordMapper.Toml
