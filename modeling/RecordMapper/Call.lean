import RecordMapper.Collection

/-!
Calls: every operation of clients and collections as a value, so that whole runs of them can
be performed and spoken about. The rows of all collections in a run have one type.
-/

namespace RecordMapper

open Connection (Options)
open Reply (Mode Output Entry Edge RowReader)

/-- An operation of a client or a collection with its arguments. -/
inductive Call (α : Type) where
  | collection (client : Client) (registry : Schema.Registry) (model : Model α)
  | bind (client : Client) (model : Model α) (schema : ModelSchema) (options : Options)
  | synchronize (collection : Collection α)
  | create (collection : Collection α) (request : Request.Create)
  | findMany (collection : Collection α) (request : Request.FindMany)
  | findById (collection : Collection α) (id : String) (request : Request.FindById)
  | update (collection : Collection α) (request : Request.Update)
  | assign (collection : Collection α) (request : Request.Assign)
  | delete (collection : Collection α) (request : Request.Delete)
  | query (client : Client) (statement : Fragment) (vars : Bindings) (mode : Mode)
      (options : Options)
  | queryRaw (client : Client) (statement : Fragment) (vars : Bindings) (options : Options)
  | queryLast (client : Client) (reader : RowReader α) (statement : Fragment)
      (vars : Bindings) (options : Options)
  | queryLastArray (client : Client) (reader : RowReader α) (statement : Fragment)
      (vars : Bindings) (options : Options)
  | relate (client : Client) (source : Request.Endpoint) (edge : Fragment)
      (target : Request.Endpoint) (data : Option Value) (options : Options)

/-- What a call gives when it succeeds. -/
inductive Answer (α : Type) where
  | done
  | collection (collection : Collection α)
  | row (row : Option α)
  | rows (rows : List α)
  | output (output : Output)
  | batch (batch : List Entry)
  | edge (edge : Option Edge)

namespace Call

variable {α β : Type}

/-- The operation whose result is an answer. -/
def answering (f : β → Answer α) (operation : Result (Exchange β)) :
    Result (Exchange (Answer α)) := do
  let exchange ← operation
  return exchange.mapResult fun value => .ok (f value)

/-- The operation of a call. -/
def operation [Wording] : Call α → Result (Exchange (Answer α))
  | .collection client registry model =>
    answering .collection (client.collection registry model)
  | .bind client model schema options =>
    answering .collection (Collection.bind client model schema options)
  | .synchronize c => answering (fun _ => .done) c.synchronize
  | .create c request => answering .row (c.create request)
  | .findMany c request => answering .rows (c.findMany request)
  | .findById c id request => answering .row (c.findById id request)
  | .update c request => answering .rows (c.update request)
  | .assign c request => answering .rows (c.assign request)
  | .delete c request => answering .rows (c.delete request)
  | .query client statement vars mode options =>
    answering .output (client.query statement vars mode options)
  | .queryRaw client statement vars options =>
    answering .batch (client.queryRaw statement vars options)
  | .queryLast client reader statement vars options =>
    answering .row (client.queryLast reader statement vars options)
  | .queryLastArray client reader statement vars options =>
    answering .rows (client.queryLastArray reader statement vars options)
  | .relate client source edge target data options =>
    answering .edge (client.relate source edge target data options)

end Call

/-- Performs calls one after the other, and gives the result of each. -/
def Transcript.run {α : Type} [Wording] (t : Transcript) :
    List (Call α) → List (Result (Answer α)) × Transcript
  | [] => ([], t)
  | call :: rest =>
    let (result, t) := t.perform call.operation
    let (results, t) := t.run rest
    (result :: results, t)

end RecordMapper
