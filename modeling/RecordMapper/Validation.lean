import RecordMapper.Error
import RecordMapper.RecordId

/-!
Checks on names before they enter statement text. Each gives its text back unchanged or
tells what is wrong with it.
-/

namespace RecordMapper.Validation

/-- A key. -/
def key (text : String) : Result String :=
  if Identifier.isKey text.toList then .ok text
  else .error (.validation (.invalidKey text))

/-- A path of keys joined by points. -/
def fieldPath (text : String) : Result String :=
  if Identifier.isFieldPath text.toList then .ok text
  else .error (.validation (.invalidKey text))

/-- The text of a record identifier. -/
def recordKey (text : String) : Result String :=
  if Identifier.isRecordKey text.toList then .ok text
  else .error (.validation (.invalidRecordKey text))

/-- A record identifier. -/
def recordId (text : String) : Result RecordId :=
  match RecordId.ofText? text with
  | some id => .ok id
  | none => .error (.validation (.invalidRecordKey text))

/-- The text of a record identifier of a given table. What the text says of the table is
looked at first. -/
def ownedRecordKey (table text : String) : Result String :=
  if Identifier.tableOf text = table then recordKey text
  else .error (.validation (.tableMismatch table text))

end RecordMapper.Validation
