import RecordMapper.Proofs.Value.Masked
import RecordMapper.Statement

/-!
Operations: the seven kinds of requests as one type, so that statements about queries can be
made about all of them at once. `Operation.trusted` lists the texts that an operation puts
into its statement as they are, and `Operation.masked` empties every string that only enters
it as a literal.
-/

namespace RecordMapper

/-- The schema of a table about which nothing is declared. -/
def ModelSchema.ofTable (table : String) : ModelSchema := ⟨⟨0, table⟩, { table }, [], [], []⟩

/-- The variables with every string in their values emptied. -/
def Bindings.masked (b : Bindings) : Bindings where
  entries := b.entries.map fun entry => (entry.1, entry.2.masked)
  names_nodup := by rw [List.map_map]; exact b.names_nodup

/-- The value with every string in it emptied, except that a member `id` at the top stays. -/
def Value.maskedBelowId : Value → Value
  | .object members => .object (members.map fun entry =>
      if entry.1 = "id" then entry else (entry.1, entry.2.masked))
  | value => value.masked

namespace Request

/-- The filter with every string in its values emptied. -/
def Filter.masked (filter : Filter) : Filter :=
  { filter with matching := filter.matching.map fun entry => (entry.1, entry.2.masked) }

/-- A request of any kind. -/
inductive Operation where
  | create (request : Create)
  | findMany (request : FindMany)
  | findById (id : String) (request : FindById)
  | update (request : Update)
  | assign (request : Assign)
  | delete (request : Delete)
  | relate (source : Endpoint) (edge : Fragment) (target : Endpoint) (data : Option Value)

/-- The texts of the developer that a selected field brings into the statement. -/
def trustedSelection (schema : ModelSchema) (entry : String × Selection) : List String :=
  match entry.2 with
  | .drop => []
  | .keep => (schema.projection? entry.1).toList.map fun projection => projection.expression.text
  | .expression text => [text.text]

/-- The texts of the developer that a filter brings into the statement. -/
def Filter.trusted (filter : Filter) : List String := filter.condition.toList.map Fragment.text

namespace Operation

/-- The query of an operation. -/
def query (schema : ModelSchema) : Operation → Result Query
  | .create request => request.query schema
  | .findMany request => request.query schema
  | .findById id request => request.query schema id
  | .update request => request.query schema
  | .assign request => request.query schema
  | .delete request => request.query schema
  | .relate source edge target data => Request.relate source edge target data

/-- The request body of an operation. -/
def body (schema : ModelSchema) (operation : Operation) : Result String := do
  (← operation.query schema).render

/-- The texts that enter the statement as they are: the name of the table, and fragments. -/
def trusted (schema : ModelSchema) : Operation → List String
  | .create _ => [schema.table]
  | .findMany request => schema.table ::
      ((request.select.getD []).flatMap (trustedSelection schema) ++ request.filter.trusted)
  | .findById _ request =>
      schema.table :: (request.select.getD []).flatMap (trustedSelection schema)
  | .update request => schema.table :: request.filter.trusted
  | .assign request => schema.table :: request.filter.trusted
  | .delete request => schema.table :: request.filter.trusted
  | .relate _ edge _ _ => [edge.text]

/-- The operation with every string emptied that is part of a value. The `id` of a new record
and the ends of a relation stay: they name records. -/
def masked : Operation → Operation
  | .create request => .create { request with data := request.data.maskedBelowId }
  | .findMany request => .findMany
      { request with filter := request.filter.masked, vars := request.vars.masked }
  | .findById id request => .findById id request
  | .update request => .update { request with
      filter := request.filter.masked, data := request.data.masked, vars := request.vars.masked }
  | .assign request => .assign
      { request with filter := request.filter.masked, assignments := request.assignments.masked }
  | .delete request => .delete
      { request with filter := request.filter.masked, vars := request.vars.masked }
  | .relate source edge target data => .relate source edge target (data.map Value.masked)

end Operation

end Request

end RecordMapper
