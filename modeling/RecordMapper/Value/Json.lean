import RecordMapper.Binary64.Rounding
import RecordMapper.Json.Basic
import RecordMapper.Timestamp.Text
import RecordMapper.Value.Basic

/-!
Values from and to JSON. A whole number beyond 63 bits becomes a double. The JSON view of a
value is what the log shows of it: timestamps as the text in which they are sent, record
identifiers as strings, and null for doubles that JSON cannot write.
-/

namespace RecordMapper

/-- The value of a JSON number. -/
def Value.ofNumber : Json.Number → Value
  | .whole n range =>
    if fits : n < 9223372036854775808 then .int n ⟨range.1, fits⟩
    else .float (Binary64.ofDecimal false n.toNat 0)
  | .double x => .float (.finite x)

namespace Value

mutual

/-- The value of a JSON value. -/
def ofJson : Json → Value
  | .null => .null
  | .bool b => .bool b
  | .number n => ofNumber n
  | .string s => .string s
  | .array items => .array (ofJsonItems items)
  | .object members => .object (ofJsonMembers members)

/-- The values of the items of an array. -/
def ofJsonItems : List Json → List Value
  | [] => []
  | item :: rest => ofJson item :: ofJsonItems rest

/-- The values of the members of an object. -/
def ofJsonMembers : List (String × Json) → List (String × Value)
  | [] => []
  | (name, value) :: rest => (name, ofJson value) :: ofJsonMembers rest

end

/-- The text that shows a timestamp: the one in which it is sent, or its long form. -/
def timestampText (t : Timestamp) : String := t.utcText?.getD t.longText

mutual

/-- The JSON view of a value. -/
def toJson : Value → Json
  | .null => .null
  | .bool b => .bool b
  | .int n range => .number (.whole n ⟨range.1, Int.lt_trans range.2 (by decide)⟩)
  | .float (.finite x) => .number (.double x)
  | .float _ => .null
  | .string s => .string s
  | .timestamp t => .string (timestampText t)
  | .array items => .array (toJsonItems items)
  | .object members => .object (toJsonMembers members)
  | .record id => .string id.text

/-- The JSON views of the items of an array. -/
def toJsonItems : List Value → List Json
  | [] => []
  | item :: rest => toJson item :: toJsonItems rest

/-- The JSON views of the members of an object. -/
def toJsonMembers : List (String × Value) → List (String × Json)
  | [] => []
  | (name, value) :: rest => (name, toJson value) :: toJsonMembers rest

end

theorem ofJsonItems_eq_map (items : List Json) : ofJsonItems items = items.map ofJson := by
  induction items with
  | nil => rfl
  | cons item rest ih => simp [ofJsonItems, ih]

theorem toJsonItems_eq_map (items : List Value) : toJsonItems items = items.map toJson := by
  induction items with
  | nil => rfl
  | cons item rest ih => simp [toJsonItems, ih]

/-- Names of members are kept. -/
theorem map_fst_toJsonMembers (members : List (String × Value)) :
    (toJsonMembers members).map Prod.fst = members.map Prod.fst := by
  induction members with
  | nil => rfl
  | cons member rest ih => simp [toJsonMembers, ih]

end Value

end RecordMapper
