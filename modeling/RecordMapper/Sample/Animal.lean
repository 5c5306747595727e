import RecordMapper.Collection
import RecordMapper.Json.Fields

/-!
A sample model: animals with their diet.
-/

namespace RecordMapper.Sample

/-- An animal. -/
structure Animal where
  id : String
  species : String
  diet : List String := []
deriving DecidableEq

namespace Animal

/-- The fields of a row, in order. -/
def fieldNames : List String := ["id", "species", "diet"]

/-- The animal of a row; a diet that is not told is empty. -/
def ofJson? (row : Json) : Option Animal := do
  let fields ← row.fields? fieldNames
  let id ← Json.requiredText? "id" fields
  let species ← Json.requiredText? "species" fields
  let diet ← match Json.field? "diet" fields with
    | none => some []
    | some value => value.texts?
  return { id, species, diet }

/-- The row of an animal. -/
def toJson (animal : Animal) : Json :=
  .object [("diet", .array (animal.diet.map .string)), ("id", .string animal.id),
    ("species", .string animal.species)]

/-- The model of animals. -/
def model [Wording] : Model Animal := ⟨⟨1, "Animal"⟩, ⟨ofJson?, Wording.row "Animal"⟩⟩

end Animal

end RecordMapper.Sample
