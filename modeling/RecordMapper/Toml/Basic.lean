import RecordMapper.Binary64.Basic

/-!
Values of TOML documents, the format of configuration files.
-/

namespace RecordMapper.Toml

/-- A value of a TOML document. Dates and times are kept as they are written. -/
inductive Value where
  | string (s : String)
  | integer (n : Int)
  | float (x : Binary64)
  | boolean (b : Bool)
  | moment (text : String)
  | array (items : List Value)
  | table (entries : List (String × Value))

/-- The text of a string. -/
def Value.text? : Value → Option String
  | .string s => some s
  | _ => none

/-- A reader of the start of a text: what it finds there, and what follows. -/
abbrev Reader (α : Type) := List Char → Option (α × List Char)

/-- How many parts a dotted key may have, and how deep arrays and inline tables may lie in
each other: fewer than this. -/
def nestingLimit : Nat := 80

end RecordMapper.Toml
