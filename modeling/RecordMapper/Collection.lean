import RecordMapper.Client
import RecordMapper.Schema.Definition

/-!
Collections: the table of a model on a server, with typed rows. A collection exists only
after the server has accepted every definition of its table.
-/

namespace RecordMapper

open Connection (Options)
open Reply (Entry RowReader)

/-- A model: the key by which it is known, and how its rows are read. -/
structure Model (α : Type) where
  key : ModelKey
  reader : RowReader α

/-- The model whose rows are read on into another type. -/
def Model.map {α β : Type} (model : Model α) (f : α → β) : Model β :=
  ⟨model.key, model.reader.map f⟩

/-- The table of a model on a server, with options for every call. -/
structure Collection (α : Type) where
  client : Client
  model : Model α
  schema : ModelSchema
  options : Options := {}

namespace Collection

variable {α : Type}

/-- The table of the collection. -/
def table (c : Collection α) : String := c.schema.table

/-- How diagnostics show the collection. -/
def describe (c : Collection α) : String :=
  "Collection \x7b model: " ++ Text.Diagnostic.quote c.schema.model.name ++
    ", table: " ++ Text.Diagnostic.quote c.table ++ ", .. \x7d"

/-- The first failed entry of a batch, at whatever position. -/
def firstFailure? (batch : List Entry) : Option Entry :=
  batch.find? fun entry => entry.status = .err

/-- What becomes of a batch of definitions, each of which has to succeed. -/
def acceptDefinitions (c : Collection α) (batch : List Entry) : Result Unit × List LogEntry :=
  match firstFailure? batch with
  | some entry => (.error (.remote (.statementFailed entry)), [])
  | none => (.ok (), c.client.note .info
      (.object [("method", .string "synchronize"), ("table", .string c.table)]))

variable [Wording]

/-- Sends the definitions of the table. -/
def synchronize (c : Collection α) : Result (Exchange Unit) := do
  let text ← c.schema.definitionText
  let exchange ← c.client.queryRaw ⟨text⟩ .empty c.options
  return exchange.andThen c.acceptDefinitions

/-- The collection of a model with a schema, which has to be the schema of that model; its
definitions are sent at once. -/
def bind (client : Client) (model : Model α) (schema : ModelSchema) (options : Options := {}) :
    Result (Exchange (Collection α)) :=
  if schema.model = model.key then do
    let collection : Collection α := { client, model, schema, options }
    let exchange ← collection.synchronize
    return exchange.mapResult fun _ => .ok collection
  else .error (.configuration (.modelMismatch model.key.name schema.model.name))

/-- Sends a query and reads the first row. -/
def row (c : Collection α) (query : Query) (call : Options) : Result (Exchange (Option α)) :=
  c.client.executeRow c.model.reader query (c.options.merged call)

/-- Sends a query and reads all rows. -/
def rows (c : Collection α) (query : Query) (call : Options) : Result (Exchange (List α)) :=
  c.client.executeRows c.model.reader query (c.options.merged call)

/-- Makes a record. -/
def create (c : Collection α) (request : Request.Create) : Result (Exchange (Option α)) := do
  c.row (← request.query c.schema) request.options

/-- Finds rows. -/
def findMany (c : Collection α) (request : Request.FindMany) : Result (Exchange (List α)) := do
  c.rows (← request.query c.schema) request.options

/-- Finds the record with an identifier. -/
def findById (c : Collection α) (id : String) (request : Request.FindById) :
    Result (Exchange (Option α)) := do
  c.row (← request.query c.schema id) request.options

/-- Changes rows, and gives them as they are then. -/
def update (c : Collection α) (request : Request.Update) : Result (Exchange (List α)) := do
  c.rows (← request.query c.schema) request.options

/-- Sets fields of rows, and gives the rows as they are then. -/
def assign (c : Collection α) (request : Request.Assign) : Result (Exchange (List α)) := do
  c.rows (← request.query c.schema) request.options

/-- Deletes rows, and gives them as they were. -/
def delete (c : Collection α) (request : Request.Delete) : Result (Exchange (List α)) := do
  c.rows (← request.query c.schema) request.options

end Collection

/-- The collection of a model with the schema folded from what is registered for it. -/
def Client.collection {α : Type} [Wording] (client : Client) (registry : Schema.Registry)
    (model : Model α) : Result (Exchange (Collection α)) := do
  Collection.bind client model (← registry.schema model.key)

end RecordMapper
