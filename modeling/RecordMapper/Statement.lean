import RecordMapper.Query
import RecordMapper.Request
import RecordMapper.Schema.Registry

/-!
Statements: the query that each request stands for. Data of callers enters a statement as a
variable or as a literal, names after a check, and fragments as they are.
-/

namespace RecordMapper.Request

/-- One selected field; nothing for a field that is dropped. Its name is checked in any
case. -/
def selected (schema : ModelSchema) (entry : String × Selection) : Result (Option String) := do
  let field ← Validation.fieldPath entry.1
  match entry.2 with
  | .drop => return none
  | .keep =>
    match schema.projection? field with
    | some projection => return some (projection.expression.text ++ " AS " ++ field)
    | none => return some field
  | .expression text => return some (text.text ++ " AS " ++ field)

/-- What a statement selects: the selected fields, or all if there are none. -/
def selection (schema : ModelSchema) (select : Option (List (String × Selection))) :
    Result String := do
  let entries ← (select.getD []).mapM (selected schema)
  match entries.filterMap fun entry => entry with
  | [] => return "*"
  | texts => return String.intercalate ", " texts

/-- The condition that a field has a value. -/
def equation (entry : String × Value) : Result String := do
  let field ← Validation.fieldPath entry.1
  let text ← entry.2.literal
  return field ++ " = " ++ text

/-- The conditions of a filter: its equations, and then its own condition. -/
def Filter.conditions (filter : Filter) : Result (List String) := do
  let equations ← filter.matching.mapM equation
  return equations ++ filter.condition.toList.map Fragment.text

/-- The clause of a filter, with a blank before it; an empty filter has none. -/
def Filter.clause (filter : Filter) : Result String := do
  let conditions ← filter.conditions
  if filter.isEmpty then return ""
  else return " WHERE " ++ String.intercalate " AND " conditions

/-- One field of an order. -/
def ordering (entry : String × Direction) : Result String := do
  let field ← Validation.fieldPath entry.1
  return field ++ " " ++ entry.2.keyword

/-- A clause that lists texts after a keyword, and is absent without them. -/
def listClause (keyword : String) (texts : List String) : String :=
  if texts.isEmpty then "" else " " ++ keyword ++ " " ++ String.intercalate ", " texts

/-- A clause that gives a number after a keyword. -/
def numberClause (keyword : String) : Option Nat → String
  | none => ""
  | some n => " " ++ keyword ++ " " ++ toString n

/-- The names of the fields that are marked. -/
def marked (fields : List (String × Bool)) : List String :=
  (fields.filter Prod.snd).map Prod.fst

/-- What a new record is named by: the table, or the identifier in its data, which has to
belong to the table. -/
def Create.target (schema : ModelSchema) (request : Create) : Result String :=
  match request.data.get? "id" with
  | none => .ok schema.table
  | some .null => .ok schema.table
  | some (.string id) => Validation.ownedRecordKey schema.table id
  | some (.record id) => Validation.ownedRecordKey schema.table id.text
  | some _ => .error (.validation .nonStringId)

/-- The query that makes a record. -/
def Create.query (schema : ModelSchema) (request : Create) : Result Query := do
  let target ← request.target schema
  return ⟨"CREATE " ++ target ++ " CONTENT $data", Bindings.ofList [("data", request.data)]⟩

/-- The query that finds rows. -/
def FindMany.query (schema : ModelSchema) (request : FindMany) : Result Query := do
  let selection ← selection schema request.select
  let condition ← request.filter.clause
  let order ← request.orderBy.mapM ordering
  let fetch ← (marked request.fetch).mapM Validation.fieldPath
  return ⟨"SELECT " ++ selection ++ " FROM " ++ schema.table ++ condition ++
    listClause "ORDER BY" order ++ numberClause "LIMIT" request.limit ++
    numberClause "START" request.start ++ listClause "FETCH" fetch, request.vars⟩

/-- The rows among which a record is: those with its identifier, of which there is one. -/
def FindById.toFindMany (request : FindById) (id : RecordId) : FindMany where
  select := request.select
  filter := { matching := [("id", .record id)] }
  limit := some 1
  fetch := request.fetch

/-- The query that finds one record of the table. -/
def FindById.query (schema : ModelSchema) (id : String) (request : FindById) : Result Query := do
  let text ← Validation.ownedRecordKey schema.table id
  let id ← Validation.recordId text
  (request.toFindMany id).query schema

/-- The query that changes rows. -/
def Update.query (schema : ModelSchema) (request : Update) : Result Query := do
  let condition ← request.filter.clause
  let method := if request.replace then "CONTENT" else "MERGE"
  return ⟨"UPDATE " ++ schema.table ++ " " ++ method ++ " $data" ++ condition ++ " RETURN AFTER",
    request.vars.insert "data" request.data⟩

/-- The query that sets fields; there has to be at least one. -/
def Assign.query (schema : ModelSchema) (request : Assign) : Result Query :=
  match request.assignments with
  | .object (_ :: _) => do
    let assignments ← request.assignments.assignments
    let condition ← request.filter.clause
    return {
      statement := "UPDATE " ++ schema.table ++ " SET" ++ assignments ++ condition ++
        " RETURN AFTER" }
  | _ => .error (.serialization .emptyAssignments)

/-- The query that deletes rows. -/
def Delete.query (schema : ModelSchema) (request : Delete) : Result Query := do
  let condition ← request.filter.clause
  return ⟨"DELETE " ++ schema.table ++ condition ++ " RETURN BEFORE", request.vars⟩

/-- The record that an end of a relation names. -/
def Endpoint.recordId (side : Side) : Endpoint → Result RecordId
  | .text id => Validation.recordId id
  | .pointer id => .ok id
  | .record value =>
    match value.get? "id" with
    | some (.string id) => Validation.recordId id
    | some (.record id) => .ok id
    | _ => .error (.validation (.invalidEndpoint side))

/-- The query that relates one record to another by an edge. -/
def relate (source : Endpoint) (edge : Fragment) (target : Endpoint) (data : Option Value) :
    Result Query := do
  let sourceId ← source.recordId .source
  let targetId ← target.recordId .target
  return ⟨"RELATE $fromId -> " ++ edge.text ++ " -> $toId CONTENT $data",
    Bindings.ofList [("fromId", .record sourceId), ("toId", .record targetId),
      ("data", data.getD .emptyObject)]⟩

end RecordMapper.Request
