import RecordMapper.Json.Fields
import RecordMapper.Json.Printer
import RecordMapper.Wording

/-!
Entries of a reply. The database answers a request with one entry for each statement in it;
an entry tells whether the statement succeeded, its rows, and what went wrong.
-/

namespace RecordMapper.Reply

/-- Whether a statement succeeded. -/
inductive Status where
  | ok
  | err
deriving DecidableEq

/-- What became of one statement. -/
structure Entry where
  /-- How long the statement took, as the database tells it. -/
  time : String
  status : Status
  /-- The rows of the result; a statement may have none to give. -/
  rows : Option (List Json)
  /-- What the database says about a failure. -/
  detail : Option String

/-- Why a reply or a row cannot be read. -/
inductive DecodeError where
  /-- The shape does not fit; the reader of JSON tells why. -/
  | malformed (words : String)
  | resultShape (found : Json)

/-- The wording of the cause. -/
def DecodeError.message : DecodeError → String
  | .malformed words => words
  | .resultShape found => "statement result must be null or an array, got " ++ found.print

/-- The word for a status. -/
def Status.word : Status → String
  | .ok => "OK"
  | .err => "ERR"

/-- The status that a word stands for. -/
def Status.ofWord? (word : String) : Option Status :=
  if word = "OK" then some .ok else if word = "ERR" then some .err else none

/-- A status is written as its word, or as an object whose only member is that word with
nothing to say. -/
def Status.ofJson? : Json → Option Status
  | .string word => ofWord? word
  | .object [(word, .null)] => ofWord? word
  | _ => none

namespace Entry

/-- The names of the fields of an entry, in order. -/
def fieldNames : List String := ["time", "status", "result", "detail"]

/-- The rows and the detail of an entry, by its result. A failed statement may give its
message in place of rows, which an explicit detail overrides. -/
def ofResult (time : String) (status : Status) (result : Json) (detail : Option String) :
    Except DecodeError Entry :=
  match result with
  | .null => .ok ⟨time, status, none, detail⟩
  | .array rows => .ok ⟨time, status, some rows, detail⟩
  | .string message =>
    if status = .err then .ok ⟨time, status, none, detail.or (some message)⟩
    else .error (.resultShape result)
  | _ => .error (.resultShape result)

/-- The fields of an entry before its result is looked at. -/
def parts? (json : Json) : Option (String × Status × Json × Option String) := do
  let fields ← json.fields? fieldNames
  let time ← Json.requiredText? "time" fields
  let status ← (Json.field? "status" fields).bind Status.ofJson?
  let detail ← Json.optionalText? "detail" fields
  return (time, status, (Json.field? "result" fields).getD .null, detail)

/-- The entry that a JSON value denotes. -/
def ofJson [Wording] (json : Json) : Except DecodeError Entry :=
  match parts? json with
  | none => .error (.malformed (Wording.entry json))
  | some (time, status, result, detail) => ofResult time status result detail

/-- The JSON value of an entry; a missing detail is left out. -/
def toJson (entry : Entry) : Json :=
  let detail := match entry.detail with
    | none => []
    | some text => [("detail", Json.string text)]
  let rows := match entry.rows with
    | none => Json.null
    | some rows => .array rows
  .object (detail ++ [("result", rows), ("status", .string entry.status.word),
    ("time", .string entry.time)])

/-- The entry of a statement that succeeded with the given rows. -/
def ofRows (rows : List Json) : Entry := ⟨"", .ok, some rows, none⟩

end Entry

@[simp] theorem Status.ofJson?_word (status : Status) :
    ofJson? (.string status.word) = some status := by
  cases status <;> simp [ofJson?, ofWord?, word]

end RecordMapper.Reply
