/-!
Names that may stand in statement text: keys, paths of keys joined by points, and record
identifiers, which are a table and a key joined by a colon. Keys consist of ASCII letters,
digits and underscores, so no such name can end a token or a literal.
-/

namespace RecordMapper.Identifier

/-- The characters of keys; only ASCII letters and digits count. -/
def isKeyChar (c : Char) : Bool := c.isAlphanum || c = '_'

/-- The characters form a key. -/
def isKey (text : List Char) : Bool := !text.isEmpty && text.all isKeyChar

/-- The parts of a text between the occurrences of a separator; there is always one. -/
def parts (separator : Char) : List Char → List (List Char)
  | [] => [[]]
  | c :: rest =>
    match parts separator rest with
    | [] => [[c]]
    | part :: others => if c = separator then [] :: part :: others else (c :: part) :: others

/-- The characters form one or more keys joined by single points. -/
def isFieldPath (text : List Char) : Bool := (parts '.' text).all isKey

/-- The text before the first occurrence of a separator, and the text after it, if any. -/
def cut (separator : Char) (text : List Char) : List Char × Option (List Char) :=
  match text.dropWhile (· ≠ separator) with
  | [] => (text.takeWhile (· ≠ separator), none)
  | _ :: rest => (text.takeWhile (· ≠ separator), some rest)

/-- The characters form a table and a key joined by a colon. -/
def isRecordKey (text : List Char) : Bool :=
  match cut ':' text with
  | (table, some key) => isKey table && isKey key
  | (_, none) => false

/-- The text before its first colon: the table that a record identifier names. -/
def tableOf (text : String) : String := String.ofList (cut ':' text.toList).1

theorem parts_ne_nil (separator : Char) (text : List Char) : parts separator text ≠ [] := by
  cases text with
  | nil => simp [parts]
  | cons c rest => unfold parts; split <;> (try split) <;> simp

end RecordMapper.Identifier
