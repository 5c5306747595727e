import RecordMapper.Error

/-!
Reading replies. A reply is a batch of entries, one per statement: the `LET` lines of a
request and the statement itself. The first entry fails when the request as a whole is
malformed, and the last one holds the result; what lies between decides nothing.
-/

namespace RecordMapper.Reply

/-- What of a reply is wanted. -/
inductive Mode where
  /-- The whole batch. -/
  | raw
  /-- The first row of the last statement. -/
  | single
  /-- All rows of the last statement. -/
  | array
deriving DecidableEq

/-- What a reply gives. -/
inductive Output where
  | raw (batch : List Entry)
  | single (row : Option Json)
  | array (rows : List Json)

/-- The rows of the last entry; there are none without entry or without result. -/
def lastRows (batch : List Entry) : List Json :=
  (batch.getLast?.bind Entry.rows).getD []

namespace Output

/-- The output as a batch. -/
def toBatch : Output → List Entry
  | .raw batch => batch
  | .single row => [.ofRows row.toList]
  | .array rows => [.ofRows rows]

/-- The first row of the output. -/
def toRow? : Output → Option Json
  | .raw batch => (lastRows batch).head?
  | .single row => row
  | .array rows => rows.head?

/-- The rows of the output. -/
def toRows : Output → List Json
  | .raw batch => lastRows batch
  | .single row => row.toList
  | .array rows => rows

end Output

/-- The code with which the database rejects a request as a whole. -/
def rejection? (payload : Json) : Option Json :=
  match payload.get? "code" with
  | none => none
  | some .null => none
  | some code => some code

/-- The batch that a payload denotes; the first entry that cannot be read decides the error. -/
def batchOf [Wording] (payload : Json) : Except DecodeError (List Entry) :=
  match payload with
  | .array items => items.mapM Entry.ofJson
  | _ => .error (.malformed (Wording.batch payload))

/-- The failed entry that governs a mode: the first, or else, where the result is wanted, the
last. -/
def failure? (mode : Mode) (batch : List Entry) : Option Entry :=
  let failed := fun (entry : Entry) => decide (entry.status = .err)
  match batch.head?.filter failed with
  | some entry => some entry
  | none => if mode = .raw then none else batch.getLast?.filter failed

/-- What a batch without governing failure gives in a mode. -/
def select (mode : Mode) (batch : List Entry) : Output :=
  match mode with
  | .raw => .raw batch
  | .single => .single (lastRows batch).head?
  | .array => .array (lastRows batch)

/-- What a payload gives in a mode. -/
def interpret [Wording] (payload : Json) (mode : Mode) : Result Output :=
  match rejection? payload with
  | some code => .error (.remote (.requestRejected code payload))
  | none =>
    match batchOf payload with
    | .error cause => .error (.decode cause)
    | .ok batch =>
      match failure? mode batch with
      | some entry => .error (.remote (.statementFailed entry))
      | none => .ok (select mode batch)

/-- A way to read rows of some type. -/
structure RowReader (α : Type) where
  read? : Json → Option α
  /-- What is said of a row that cannot be read. -/
  complaint : Json → String

/-- The reader whose rows are read on into another type. -/
def RowReader.map {α β : Type} (reader : RowReader α) (f : α → β) : RowReader β :=
  ⟨fun row => (reader.read? row).map f, reader.complaint⟩

/-- Reads one row. -/
def decodeRow {α : Type} (reader : RowReader α) (row : Json) : Result α :=
  match reader.read? row with
  | some value => .ok value
  | none => .error (.decode (.malformed (reader.complaint row)))

/-- Reads all rows; each has to be readable. -/
def decodeRows {α : Type} (reader : RowReader α) (rows : List Json) : Result (List α) :=
  rows.mapM (decodeRow reader)

/-- Reads a row that may be missing. -/
def decodeRow? {α : Type} (reader : RowReader α) (row : Option Json) : Result (Option α) :=
  row.mapM (decodeRow reader)

end RecordMapper.Reply
