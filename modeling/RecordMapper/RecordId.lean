import RecordMapper.Identifier

/-!
Identifiers of records. The text of one is a table and a key joined by a colon, which the
type itself guarantees, so an identifier may stand in a statement without quotes.
-/

namespace RecordMapper

/-- The identifier of a record. -/
structure RecordId where
  text : String
  isRecordKey : Identifier.isRecordKey text.toList
deriving DecidableEq

namespace RecordId

/-- The identifier that a text spells. -/
def ofText? (text : String) : Option RecordId :=
  if h : Identifier.isRecordKey text.toList then some ⟨text, h⟩ else none

/-- The table that the record belongs to. -/
def table (id : RecordId) : String := Identifier.tableOf id.text

theorem ofText?_text (id : RecordId) : ofText? id.text = some id := by
  simp [ofText?, id.isRecordKey]

end RecordId

/-- Statement text from the developer, put into statements as it is. It marks the places
where no data of callers may go. -/
structure Fragment where
  text : String
deriving DecidableEq

end RecordMapper
