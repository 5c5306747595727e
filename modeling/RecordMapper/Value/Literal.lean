import RecordMapper.Text.Quoted
import RecordMapper.Timestamp.Text
import RecordMapper.Validation
import RecordMapper.Value.Basic

/-!
Literals: the text of a value in a statement. Strings are quoted, timestamps are quoted RFC
3339 texts in UTC, record identifiers stand without quotes, and a double always shows a
point or an exponent, so it never reads as a whole number.
-/

namespace RecordMapper.Value

/-- The literal of a double, which has to be finite. -/
def floatLiteral : Binary64 → Result String
  | .finite x => .ok (Binary64.Layout.plain.write x)
  | x => .error (.serialization (.nonFinite x))

/-- The literal of a timestamp, whose year in UTC has to have four digits. -/
def timestampLiteral (t : Timestamp) : Result String :=
  match t.utcText? with
  | some text => .ok (Text.quoted text)
  | none => .error (.serialization .yearOutOfRange)

mutual

/-- The literal of a value. The first part without a literal decides the error. -/
def literal : Value → Result String
  | .null => .ok "null"
  | .bool b => .ok (if b then "true" else "false")
  | .int n _ => .ok (toString n)
  | .float x => floatLiteral x
  | .string s => .ok (Text.quoted s)
  | .timestamp t => timestampLiteral t
  | .array items => do
    let texts ← itemLiterals items
    return "[" ++ String.intercalate "," texts ++ "]"
  | .object members => do
    let texts ← memberLiterals members
    return "\x7b" ++ String.intercalate "," texts ++ "\x7d"
  | .record id => .ok id.text

/-- The literals of the items of an array. -/
def itemLiterals : List Value → Result (List String)
  | [] => .ok []
  | item :: rest => do
    let text ← literal item
    let texts ← itemLiterals rest
    return text :: texts

/-- The members of an object, each as its quoted name, a colon and its literal. -/
def memberLiterals : List (String × Value) → Result (List String)
  | [] => .ok []
  | (name, value) :: rest => do
    let text ← literal value
    let texts ← memberLiterals rest
    return (Text.quoted name ++ ":" ++ text) :: texts

end

/-- One assignment: a key, whose form is checked first, and the literal of its value. -/
def assignment (entry : String × Value) : Result String := do
  let name ← Validation.key entry.1
  let text ← literal entry.2
  return " " ++ name ++ " = " ++ text

/-- The assignments that the members of an object stand for, as they follow `SET`; any other
value gives its literal. -/
def assignments : Value → Result String
  | .object members => do
    let texts ← members.mapM assignment
    return String.intercalate "," texts
  | value => literal value

end RecordMapper.Value
