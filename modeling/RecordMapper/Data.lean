import RecordMapper.Error

/-!
Structured data of programs and its JSON form: records are objects, lists and tuples are
arrays, keys of maps become text, and a case of a choice is its name, or an object from the
name to what the case holds.
-/

namespace RecordMapper

/-- Structured data. -/
inductive Data where
  | absent
  | bool (b : Bool)
  | int (n : Int)
  | float (x : Binary64)
  | text (s : String)
  | json (value : Json)
  | list (items : List Data)
  | record (fields : List (String × Data))
  | map (entries : List (Data × Data))
  | unitCase (name : String)
  | case (name : String) (content : Data)

namespace Data

/-- The text of a key: strings, whole numbers, truth values and bare names can be keys. -/
def keyText : Data → Result String
  | .text s => .ok s
  | .int n => .ok (toString n)
  | .bool b => .ok (if b then "true" else "false")
  | .unitCase name => .ok name
  | _ => .error (.serialization .keyNotText)

/-- The JSON form of a whole number. -/
def intJson (n : Int) : Result Json :=
  match Json.Number.ofInt? n with
  | some number => .ok (.number number)
  | none => .error (.serialization .numberOutOfRange)

mutual

/-- The JSON form of data; a double that is not finite becomes null. -/
def toJson : Data → Result Json
  | .absent => .ok .null
  | .bool b => .ok (.bool b)
  | .int n => intJson n
  | .float (.finite x) => .ok (.number (.double x))
  | .float _ => .ok .null
  | .text s => .ok (.string s)
  | .json value => .ok value
  | .list items => do return .array (← itemsJson items)
  | .record fields => do return .ofMembers (← fieldsJson fields)
  | .map entries => do return .ofMembers (← entriesJson entries)
  | .unitCase name => .ok (.string name)
  | .case name content => do return .object [(name, ← toJson content)]

/-- The JSON forms of the items of a list. -/
def itemsJson : List Data → Result (List Json)
  | [] => .ok []
  | item :: rest => do
    let value ← toJson item
    let values ← itemsJson rest
    return value :: values

/-- The JSON forms of the fields of a record. -/
def fieldsJson : List (String × Data) → Result (List (String × Json))
  | [] => .ok []
  | (name, item) :: rest => do
    let value ← toJson item
    let values ← fieldsJson rest
    return (name, value) :: values

/-- The JSON forms of the entries of a map; a key comes before its value. -/
def entriesJson : List (Data × Data) → Result (List (String × Json))
  | [] => .ok []
  | (key, item) :: rest => do
    let name ← keyText key
    let value ← toJson item
    let values ← entriesJson rest
    return (name, value) :: values

end

end Data

end RecordMapper
