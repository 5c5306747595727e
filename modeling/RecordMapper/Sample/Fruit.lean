import RecordMapper.Collection
import RecordMapper.Json.Fields
import RecordMapper.Timestamp.Text

/-!
A sample model: fruit with a color and perhaps a time of creation.
-/

namespace RecordMapper.Sample

/-- A fruit. -/
structure Fruit where
  id : Option String := none
  name : String
  color : String
  createdAt : Option Timestamp := none
deriving DecidableEq

namespace Fruit

/-- The fields of a row, in order. -/
def fieldNames : List String := ["id", "name", "color", "created_at"]

/-- A time that may be missing. -/
def time? : Option Json → Option (Option Timestamp)
  | none => some none
  | some .null => some none
  | some (.string text) => (Timestamp.ofRfc3339? text).map some
  | some _ => none

/-- The fruit of a row. -/
def ofJson? (row : Json) : Option Fruit := do
  let fields ← row.fields? fieldNames
  let id ← Json.optionalText? "id" fields
  let name ← Json.requiredText? "name" fields
  let color ← Json.requiredText? "color" fields
  let createdAt ← time? (Json.field? "created_at" fields)
  return { id, name, color, createdAt }

/-- A member that is there only if its text is. -/
def optionalMember (name : String) : Option String → List (String × Json)
  | none => []
  | some text => [(name, .string text)]

/-- The row of a fruit; what is missing is left out, and the time keeps its offset. -/
def toJson (fruit : Fruit) : Json :=
  .object ([("color", .string fruit.color)] ++
    optionalMember "created_at" (fruit.createdAt.bind Timestamp.rfc3339?) ++
    optionalMember "id" fruit.id ++ [("name", .string fruit.name)])

/-- The model of fruit. -/
def model [Wording] : Model Fruit := ⟨⟨0, "Fruit"⟩, ⟨ofJson?, Wording.row "Fruit"⟩⟩

end Fruit

end RecordMapper.Sample
