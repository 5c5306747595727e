import RecordMapper.Proofs.Agreement
import RecordMapper.Proofs.Call.Errand

/-!
Errors on the two sides of sending. Whatever fails before a request is sent refuses the
arguments of the call (`Call.prepared_refuses`), and whatever fails afterwards has come with
the outcome of the request (`Call.settle_ofReply`), so that an error tells whether anything has
been sent.
-/

namespace RecordMapper

open Reply (Output)

/-- The error refuses arguments: the declarations of a model, a name, or a value. -/
def Error.isRefusal : Error → Bool
  | .configuration _ => true
  | .validation _ => true
  | .serialization _ => true
  | _ => false

/-- The error comes with the outcome of a request: the transport has failed, the database
reports a failure, or the reply cannot be read. -/
def Error.isOfReply : Error → Bool
  | .transport _ => true
  | .remote _ => true
  | .decode _ => true
  | _ => false

theorem Error.not_isRefusal_of_isOfReply {cause : Error} (reply : cause.isOfReply) :
    ¬cause.isRefusal := by
  cases cause <;> simp [isOfReply, isRefusal] at *

/-- Every error of the step is of a kind. -/
def FailsAs {α : Type} (kind : Error → Bool) (x : Result α) : Prop :=
  ∀ cause, x = .error cause → kind cause

namespace FailsAs

variable {α β : Type} {kind : Error → Bool}

theorem ok (a : α) : FailsAs kind (.ok a : Result α) := by
  intro cause failed
  cases failed

theorem error {cause : Error} (is : kind cause) : FailsAs kind (.error cause : Result α) := by
  intro other failed
  cases failed
  exact is

theorem bind {x : Result α} (first : FailsAs kind x) {f : α → Result β}
    (next : ∀ a, x = .ok a → FailsAs kind (f a)) : FailsAs kind (x >>= f) := by
  cases x with
  | error cause => exact error (first cause rfl)
  | ok a => exact next a rfl

theorem map {x : Result α} (first : FailsAs kind x) (f : α → β) : FailsAs kind (x.map f) := by
  cases x with
  | error cause => exact error (first cause rfl)
  | ok a => exact ok (f a)

theorem mapM {f : α → Result β} (each : ∀ a, FailsAs kind (f a)) (xs : List α) :
    FailsAs kind (xs.mapM f) := by
  intro cause failed
  obtain ⟨before, x, after, -, -, failed⟩ := mapM_eq_error_iff.1 failed
  exact each x cause failed

end FailsAs

/-! ## Names and values -/

namespace Validation

theorem key_refuses (text : String) : FailsAs Error.isRefusal (key text) := by
  unfold key
  split
  · exact .ok text
  · exact .error rfl

theorem fieldPath_refuses (text : String) : FailsAs Error.isRefusal (fieldPath text) := by
  unfold fieldPath
  split
  · exact .ok text
  · exact .error rfl

theorem recordKey_refuses (text : String) : FailsAs Error.isRefusal (recordKey text) := by
  unfold recordKey
  split
  · exact .ok text
  · exact .error rfl

theorem recordId_refuses (text : String) : FailsAs Error.isRefusal (recordId text) := by
  unfold recordId
  split
  · exact .ok _
  · exact .error rfl

theorem ownedRecordKey_refuses (table text : String) :
    FailsAs Error.isRefusal (ownedRecordKey table text) := by
  unfold ownedRecordKey
  split
  · exact recordKey_refuses text
  · exact .error rfl

end Validation

namespace Value

theorem floatLiteral_refuses (x : Binary64) : FailsAs Error.isRefusal (floatLiteral x) := by
  cases x with
  | finite y => exact .ok _
  | nan => exact .error rfl
  | infinite negative => exact .error rfl

theorem timestampLiteral_refuses (t : Timestamp) :
    FailsAs Error.isRefusal (timestampLiteral t) := by
  unfold timestampLiteral
  split
  · exact .ok _
  · exact .error rfl

mutual

theorem literal_refuses : ∀ value : Value, FailsAs Error.isRefusal value.literal
  | .null => .ok _
  | .bool _ => .ok _
  | .int _ _ => .ok _
  | .float x => floatLiteral_refuses x
  | .string _ => .ok _
  | .timestamp t => timestampLiteral_refuses t
  | .array items => (itemLiterals_refuses items).bind fun _ _ => .ok _
  | .object members => (memberLiterals_refuses members).bind fun _ _ => .ok _
  | .record _ => .ok _

theorem itemLiterals_refuses : ∀ items : List Value, FailsAs Error.isRefusal (itemLiterals items)
  | [] => .ok _
  | item :: rest =>
    (literal_refuses item).bind fun _ _ => (itemLiterals_refuses rest).bind fun _ _ => .ok _

theorem memberLiterals_refuses :
    ∀ members : List (String × Value), FailsAs Error.isRefusal (memberLiterals members)
  | [] => .ok _
  | (_, value) :: rest =>
    (literal_refuses value).bind fun _ _ => (memberLiterals_refuses rest).bind fun _ _ => .ok _

end

theorem assignments_refuses (value : Value) : FailsAs Error.isRefusal value.assignments := by
  cases value with
  | object members =>
    refine (FailsAs.mapM (fun entry => ?_) members).bind fun _ _ => .ok _
    exact (Validation.key_refuses entry.1).bind fun _ _ =>
      (literal_refuses entry.2).bind fun _ _ => .ok _
  | _ => exact literal_refuses _

end Value

namespace Query

theorem render_refuses (query : Query) : FailsAs Error.isRefusal query.render := by
  have lines : FailsAs Error.isRefusal query.bindings.preamble := by
    refine (FailsAs.mapM (fun entry => ?_) query.bindings.entries).bind fun _ _ => .ok _
    exact (Validation.key_refuses entry.1).bind fun _ _ =>
      (Value.literal_refuses entry.2).bind fun _ _ => .ok _
  exact lines.bind fun _ _ => .ok _

end Query

/-! ## Requests -/

namespace Request

theorem selection_refuses (schema : ModelSchema) (select : Option (List (String × Selection))) :
    FailsAs Error.isRefusal (selection schema select) := by
  refine (FailsAs.mapM (fun entry => ?_) _).bind fun entries _ => ?_
  · refine (Validation.fieldPath_refuses entry.1).bind fun field _ => ?_
    cases entry.2 with
    | drop => exact .ok _
    | expression text => exact .ok _
    | keep =>
      dsimp only
      split <;> exact .ok _
  · split <;> exact .ok _

theorem Filter.clause_refuses (filter : Filter) : FailsAs Error.isRefusal filter.clause := by
  have conditions : FailsAs Error.isRefusal filter.conditions := by
    refine (FailsAs.mapM (fun entry => ?_) filter.matching).bind fun _ _ => .ok _
    exact (Validation.fieldPath_refuses entry.1).bind fun _ _ =>
      (Value.literal_refuses entry.2).bind fun _ _ => .ok _
  refine conditions.bind fun _ _ => ?_
  split <;> exact .ok _

theorem Create.query_refuses (schema : ModelSchema) (request : Create) :
    FailsAs Error.isRefusal (request.query schema) := by
  have target : FailsAs Error.isRefusal (request.target schema) := by
    unfold Create.target
    split
    · exact .ok _
    · exact .ok _
    · exact Validation.ownedRecordKey_refuses _ _
    · exact Validation.ownedRecordKey_refuses _ _
    · exact .error rfl
  exact target.bind fun _ _ => .ok _

theorem ordering_refuses (entry : String × Direction) :
    FailsAs Error.isRefusal (ordering entry) :=
  (Validation.fieldPath_refuses entry.1).bind fun _ _ => .ok _

theorem FindMany.query_refuses (schema : ModelSchema) (request : FindMany) :
    FailsAs Error.isRefusal (request.query schema) := by
  have order := FailsAs.mapM ordering_refuses request.orderBy
  have fetch := FailsAs.mapM Validation.fieldPath_refuses (marked request.fetch)
  refine (selection_refuses schema request.select).bind fun _ _ => ?_
  refine request.filter.clause_refuses.bind fun _ _ => ?_
  exact order.bind fun _ _ => fetch.bind fun _ _ => .ok _

theorem FindById.query_refuses (schema : ModelSchema) (id : String) (request : FindById) :
    FailsAs Error.isRefusal (request.query schema id) := by
  refine (Validation.ownedRecordKey_refuses schema.table id).bind fun text _ => ?_
  refine (Validation.recordId_refuses text).bind fun record _ => ?_
  exact (request.toFindMany record).query_refuses schema

theorem Update.query_refuses (schema : ModelSchema) (request : Update) :
    FailsAs Error.isRefusal (request.query schema) :=
  request.filter.clause_refuses.bind fun _ _ => .ok _

theorem Assign.query_refuses (schema : ModelSchema) (request : Assign) :
    FailsAs Error.isRefusal (request.query schema) := by
  unfold Assign.query
  split
  · refine (Value.assignments_refuses _).bind fun _ _ => ?_
    exact request.filter.clause_refuses.bind fun _ _ => .ok _
  · exact .error rfl

theorem Delete.query_refuses (schema : ModelSchema) (request : Delete) :
    FailsAs Error.isRefusal (request.query schema) :=
  request.filter.clause_refuses.bind fun _ _ => .ok _

theorem relate_refuses (source : Endpoint) (edge : Fragment) (target : Endpoint)
    (data : Option Value) : FailsAs Error.isRefusal (relate source edge target data) := by
  have endpoint (side : Side) (place : Endpoint) :
      FailsAs Error.isRefusal (place.recordId side) := by
    unfold Endpoint.recordId
    split
    · exact Validation.recordId_refuses _
    · exact .ok _
    · split
      · exact Validation.recordId_refuses _
      · exact .ok _
      · exact .error rfl
  exact (endpoint .source source).bind fun _ _ => (endpoint .target target).bind fun _ _ => .ok _

end Request

/-! ## Schemas -/

namespace ModelSchema

theorem definitionText_refuses (schema : ModelSchema) :
    FailsAs Error.isRefusal schema.definitionText := by
  have fields : FailsAs Error.isRefusal
      (schema.fields.mapM fun field => field.definition schema.table) := by
    refine .mapM (fun field => ?_) _
    unfold Schema.Field.definition
    split
    · exact .error rfl
    · exact .ok _
  have definitions : FailsAs Error.isRefusal schema.definitions := fields.bind fun _ _ => .ok _
  exact definitions.bind fun _ _ => .ok _

theorem schema_refuses (registry : Schema.Registry) (model : ModelKey) :
    FailsAs Error.isRefusal (registry.schema model) := by
  unfold Schema.Registry.schema ofDeclarations
  split
  · exact .error rfl
  · split
    · exact .error rfl
    · exact .ok _

end ModelSchema

/-! ## Before sending -/

theorem Errand.ofBinding_refuses {α : Type} (client : Client) (model : Model α)
    (schema : ModelSchema) (options : Connection.Options) :
    FailsAs Error.isRefusal (ofBinding client model schema options) := by
  unfold ofBinding
  split
  · exact schema.definitionText_refuses.bind fun _ _ => .ok _
  · exact .error rfl

namespace Call

variable {α : Type} [Wording]

theorem errand_refuses (call : Call α) : FailsAs Error.isRefusal call.errand := by
  cases call with
  | collection client registry model =>
    exact (ModelSchema.schema_refuses registry model.key).bind fun schema _ =>
      Errand.ofBinding_refuses client model schema {}
  | bind client model schema options =>
    exact Errand.ofBinding_refuses client model schema options
  | synchronize c => exact c.schema.definitionText_refuses.bind fun _ _ => .ok _
  | create c request => exact (request.query_refuses c.schema).bind fun _ _ => .ok _
  | findMany c request => exact (request.query_refuses c.schema).bind fun _ _ => .ok _
  | findById c id request => exact (request.query_refuses c.schema id).bind fun _ _ => .ok _
  | update c request => exact (request.query_refuses c.schema).bind fun _ _ => .ok _
  | assign c request => exact (request.query_refuses c.schema).bind fun _ _ => .ok _
  | delete c request => exact (request.query_refuses c.schema).bind fun _ _ => .ok _
  | query client statement vars mode options => exact .ok _
  | queryRaw client statement vars options => exact .ok _
  | queryLast client reader statement vars options => exact .ok _
  | queryLastArray client reader statement vars options => exact .ok _
  | relate client source edge target data options =>
    exact (Request.relate_refuses source edge target data).bind fun _ _ => .ok _

/-- A call that is not prepared is refused. -/
theorem prepared_refuses (call : Call α) : FailsAs Error.isRefusal call.prepared :=
  call.errand_refuses.bind fun errand _ => errand.query.render_refuses.bind fun _ _ => .ok _

end Call

/-! ## After sending -/

namespace Reply

theorem interpret_ofReply [Wording] (payload : Json) (mode : Mode) :
    FailsAs Error.isOfReply (interpret payload mode) := by
  unfold interpret
  split
  · exact .error rfl
  · split
    · exact .error rfl
    · split
      · exact .error rfl
      · exact .ok _

theorem decodeRow_ofReply {α : Type} (reader : RowReader α) (row : Json) :
    FailsAs Error.isOfReply (decodeRow reader row) := by
  unfold decodeRow
  split
  · exact .ok _
  · exact .error rfl

theorem decodeRows_ofReply {α : Type} (reader : RowReader α) (rows : List Json) :
    FailsAs Error.isOfReply (decodeRows reader rows) :=
  .mapM (decodeRow_ofReply reader) rows

theorem decodeRow?_ofReply {α : Type} (reader : RowReader α) (row : Option Json) :
    FailsAs Error.isOfReply (decodeRow? reader row) := by
  cases row with
  | none => exact .ok none
  | some row => exact (decodeRow_ofReply reader row).bind fun value _ => .ok (some value)

end Reply

theorem Client.settle_ofReply [Wording] (client : Client) (mode : Reply.Mode)
    (outcome : Outcome) : FailsAs Error.isOfReply (client.settle mode outcome).1 := by
  cases outcome with
  | error message => exact .error rfl
  | ok payload =>
    have interpreted := Reply.interpret_ofReply payload mode
    unfold settle
    cases result : Reply.interpret payload mode with
    | ok output => simp only [result]; exact .ok output
    | error cause => simp only [result]; exact .error (interpreted cause result)

namespace Errand

variable {α : Type}

theorem ofDefinitions_finish (c : Collection α) (answer : Answer α) (text : String)
    (output : Output) :
    FailsAs Error.isOfReply ((ofDefinitions c answer text).finish output).1 := by
  refine FailsAs.map ?_ _
  unfold Collection.acceptDefinitions
  split
  · exact .error rfl
  · exact .ok ()

theorem ofBinding_finish {client : Client} {model : Model α} {schema : ModelSchema}
    {options : Connection.Options} {errand : Errand α}
    (bound : ofBinding client model schema options = .ok errand) (output : Output) :
    FailsAs Error.isOfReply (errand.finish output).1 := by
  unfold ofBinding at bound
  split at bound
  · obtain ⟨text, -, bound⟩ := exists_of_bind_eq_ok bound
    cases bound
    exact ofDefinitions_finish _ _ text output
  · cases bound

end Errand

namespace Call

variable {α : Type} [Wording] {call : Call α} {errand : Errand α}

/-- What a call makes of the output fails for reasons of the reply only. -/
theorem finish_ofReply (arguments : call.errand = .ok errand) (output : Output) :
    FailsAs Error.isOfReply (errand.finish output).1 := by
  cases call with
  | collection client registry model =>
    obtain ⟨schema, -, arguments⟩ := exists_of_bind_eq_ok arguments
    exact Errand.ofBinding_finish arguments output
  | bind client model schema options => exact Errand.ofBinding_finish arguments output
  | synchronize c =>
    obtain ⟨text, -, arguments⟩ := exists_of_bind_eq_ok arguments
    cases arguments
    exact Errand.ofDefinitions_finish c .done text output
  | query client statement vars mode options => cases arguments; exact .ok _
  | queryRaw client statement vars options => cases arguments; exact .ok _
  | queryLast client reader statement vars options =>
    cases arguments
    exact (Reply.decodeRow?_ofReply reader _).map _
  | queryLastArray client reader statement vars options =>
    cases arguments
    exact (Reply.decodeRows_ofReply reader _).map _
  | create c request =>
    obtain ⟨query, -, arguments⟩ := exists_of_bind_eq_ok arguments
    cases arguments
    exact (Reply.decodeRow?_ofReply _ _).map _
  | findById c id request =>
    obtain ⟨query, -, arguments⟩ := exists_of_bind_eq_ok arguments
    cases arguments
    exact (Reply.decodeRow?_ofReply _ _).map _
  | relate client source edge target data options =>
    obtain ⟨query, -, arguments⟩ := exists_of_bind_eq_ok arguments
    cases arguments
    exact (Reply.decodeRow?_ofReply _ _).map _
  | findMany c request | update c request | assign c request | delete c request =>
    obtain ⟨query, -, arguments⟩ := exists_of_bind_eq_ok arguments
    cases arguments
    exact (Reply.decodeRows_ofReply _ _).map _

/-- Whatever goes wrong with a call after it has been sent has come with the outcome. -/
theorem settle_ofReply {body : String} (prepared : call.prepared = .ok (errand, body))
    (outcome : Outcome) : FailsAs Error.isOfReply (errand.settle outcome).1 := by
  obtain ⟨errand', arguments, prepared⟩ := exists_of_bind_eq_ok prepared
  obtain ⟨body', -, prepared⟩ := exists_of_bind_eq_ok prepared
  cases prepared
  have received := errand.client.settle_ofReply errand.mode outcome
  unfold Errand.settle
  generalize errand.client.settle errand.mode outcome = done at received
  rcases done with ⟨result, log⟩
  cases result with
  | error cause => exact .error (received cause rfl)
  | ok output => exact finish_ofReply arguments output

end Call

end RecordMapper
