/-!
Double-quoted literals of the query language. Inside the quotes a backslash stands before
every quote and every backslash, and all other characters stand for themselves; the second
half of the module tells, for any text, which characters lie inside literals.
-/

namespace RecordMapper.Text

namespace Quoted

/-- The characters that need a backslash. -/
def isSpecial (c : Char) : Bool := c = '"' || c = '\\'

/-- The inside of the literal that denotes the characters. -/
def escape : List Char → List Char
  | [] => []
  | c :: rest => if isSpecial c then '\\' :: c :: escape rest else c :: escape rest

/-- The characters of a literal whose opening quote has been read, and what follows its
closing quote. A backslash before any other character is refused. -/
def unescape? : List Char → Option (List Char × List Char)
  | [] => none
  | '"' :: rest => some ([], rest)
  | '\\' :: c :: rest =>
    if isSpecial c then (unescape? rest).map fun (content, rest) => (c :: content, rest)
    else none
  | c :: rest =>
    if c = '\\' then none
    else (unescape? rest).map fun (content, rest) => (c :: content, rest)

/-- Where a left-to-right scan of a text stands. -/
inductive Scan where
  | outside
  | inside
  | afterBackslash
deriving DecidableEq

/-- A quote opens and closes literals, and inside one a backslash hides the next character. -/
def Scan.step : Scan → Char → Scan
  | .outside, c => if c = '"' then .inside else .outside
  | .inside, c =>
    if c = '\\' then .afterBackslash else if c = '"' then .outside else .inside
  | .afterBackslash, _ => .inside

/-- Where the scan of a whole text ends. -/
def Scan.run (state : Scan) (text : List Char) : Scan := text.foldl step state

/-- Every literal that the text opens is closed in it. -/
def isBalanced (text : List Char) : Bool := Scan.run .outside text = .outside

/-- Reading an escaped text gives its characters back and stops at the closing quote. -/
theorem unescape?_escape (content rest : List Char) :
    unescape? (escape content ++ '"' :: rest) = some (content, rest) := by
  induction content with
  | nil => rfl
  | cons c content ih =>
    by_cases special : isSpecial c
    · simp [escape, special, unescape?, ih]
    · have notQuote : c ≠ '"' := by rintro rfl; exact special rfl
      have notBackslash : c ≠ '\\' := by rintro rfl; exact special rfl
      simp only [escape, special, Bool.false_eq_true, if_false, List.cons_append]
      rw [unescape?.eq_def]
      split <;> simp_all

/-- An escaped text does not leave the literal it stands in. -/
theorem scan_escape (content : List Char) : Scan.run .inside (escape content) = .inside := by
  induction content with
  | nil => rfl
  | cons c content ih =>
    by_cases special : isSpecial c
    · simpa [escape, special, Scan.run, Scan.step] using ih
    · have notQuote : c ≠ '"' := by rintro rfl; exact special rfl
      have notBackslash : c ≠ '\\' := by rintro rfl; exact special rfl
      simpa [escape, special, Scan.run, Scan.step, notQuote, notBackslash] using ih

end Quoted

/-- The inside of the literal that denotes a string. -/
def escape (s : String) : String := String.ofList (Quoted.escape s.toList)

/-- The literal that denotes a string. -/
def quoted (s : String) : String := "\"" ++ escape s ++ "\""

theorem quoted_append (s : String) (rest : List Char) :
    (quoted s).toList ++ rest = '"' :: (Quoted.escape s.toList ++ '"' :: rest) := by
  simp [quoted, escape]

end RecordMapper.Text
