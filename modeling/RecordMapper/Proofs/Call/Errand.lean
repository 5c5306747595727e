import RecordMapper.Call

/-!
Errands: what is left of a call once its arguments are accepted. An errand has one query, the
options under which it goes, the mode in which its reply is read, and what becomes of the
output. Every operation of clients and collections is an errand that is rendered, sent and
finished (`Call.operation_eq`). Performing a call leaves a transcript as it is if the call is
refused, and else sends one request (`Transcript.perform_of_prepared`).
-/

namespace RecordMapper

open Connection (Options Headers)
open Reply (Mode Output)

/-- What comes of a result and its log when a step follows that may fail and be logged. -/
def Exchange.follow {α β : Type} (done : Result α × List LogEntry)
    (next : α → Result β × List LogEntry) : Result β × List LogEntry :=
  match done with
  | (.error cause, log) => (.error cause, log)
  | (.ok value, log) => ((next value).1, log ++ (next value).2)

/-- What a call has to send, and what it makes of the output. -/
structure Errand (α : Type) where
  client : Client
  /-- The options of the call, which count before those of the client. -/
  options : Options
  query : Query
  mode : Mode
  finish : Output → Result (Answer α) × List LogEntry

namespace Errand

variable {α : Type}

/-- The request that carries a body. -/
def request (errand : Errand α) (body : String) : WireRequest :=
  ⟨errand.client.endpoint ++ "/sql", body,
    Headers.ofOptions (errand.client.options.merged errand.options)⟩

/-- What the log tells before the request is sent. -/
def announcement (errand : Errand α) (body : String) : List LogEntry :=
  errand.client.note .debug (Client.queryPayload body errand.query.bindings)

variable [Wording]

/-- What the outcome of the request comes to, and what the log tells of it. -/
def settle (errand : Errand α) (outcome : Outcome) : Result (Answer α) × List LogEntry :=
  Exchange.follow (errand.client.settle errand.mode outcome) errand.finish

/-- The exchange of an errand whose query has been rendered. -/
def exchange (errand : Errand α) (body : String) : Exchange (Answer α) :=
  ⟨errand.request body, errand.announcement body, errand.settle⟩

/-- The operation that renders the query, sends it and finishes. -/
def operation (errand : Errand α) : Result (Exchange (Answer α)) := do
  return errand.exchange (← errand.query.render)

/-- The errand of a query whose first row is read. -/
def ofRow (client : Client) (reader : Reply.RowReader α) (query : Query) (options : Options) :
    Errand α where
  client
  options
  query
  mode := .single
  finish output := ((Reply.decodeRow? reader output.toRow?).map .row, [])

/-- The errand of a query of which all rows are read. -/
def ofRows (client : Client) (reader : Reply.RowReader α) (query : Query) (options : Options) :
    Errand α where
  client
  options
  query
  mode := .array
  finish output := ((Reply.decodeRows reader output.toRows).map .rows, [])

/-- The errand of sending the definitions of a table, each of which has to succeed. -/
def ofDefinitions (c : Collection α) (answer : Answer α) (text : String) : Errand α where
  client := c.client
  options := c.options
  query := ⟨text, .empty⟩
  mode := .raw
  finish output :=
    ((c.acceptDefinitions output.toBatch).1.map fun _ => answer,
      (c.acceptDefinitions output.toBatch).2)

/-- The errand of binding a model to its schema. -/
def ofBinding (client : Client) (model : Model α) (schema : ModelSchema) (options : Options) :
    Result (Errand α) :=
  if schema.model = model.key then do
    let c : Collection α := { client, model, schema, options }
    return ofDefinitions c (.collection c) (← schema.definitionText)
  else .error (.configuration (.modelMismatch model.key.name schema.model.name))

end Errand

namespace Call

variable {α : Type} [Wording]

/-- What a call has to send, unless its arguments are refused. -/
def errand : Call α → Result (Errand α)
  | .collection client registry model => do
    Errand.ofBinding client model (← registry.schema model.key) {}
  | .bind client model schema options => Errand.ofBinding client model schema options
  | .synchronize c => do return .ofDefinitions c .done (← c.schema.definitionText)
  | .create c request => do
    return .ofRow c.client c.model.reader (← request.query c.schema)
      (c.options.merged request.options)
  | .findMany c request => do
    return .ofRows c.client c.model.reader (← request.query c.schema)
      (c.options.merged request.options)
  | .findById c id request => do
    return .ofRow c.client c.model.reader (← request.query c.schema id)
      (c.options.merged request.options)
  | .update c request => do
    return .ofRows c.client c.model.reader (← request.query c.schema)
      (c.options.merged request.options)
  | .assign c request => do
    return .ofRows c.client c.model.reader (← request.query c.schema)
      (c.options.merged request.options)
  | .delete c request => do
    return .ofRows c.client c.model.reader (← request.query c.schema)
      (c.options.merged request.options)
  | .query client statement vars mode options =>
    .ok { client, options, query := ⟨statement.text, vars⟩, mode,
          finish := fun output => (.ok (.output output), []) }
  | .queryRaw client statement vars options =>
    .ok { client, options, query := ⟨statement.text, vars⟩, mode := .raw,
          finish := fun output => (.ok (.batch output.toBatch), []) }
  | .queryLast client reader statement vars options =>
    .ok (.ofRow client reader ⟨statement.text, vars⟩ options)
  | .queryLastArray client reader statement vars options =>
    .ok (.ofRows client reader ⟨statement.text, vars⟩ options)
  | .relate client source edge target data options => do
    let query ← Request.relate source edge target data
    return { client, options, query, mode := .single,
             finish := fun output =>
               ((Reply.decodeRow? Reply.Edge.reader output.toRow?).map .edge, []) }

/-- The errand of a call with the body of its request: all that is checked before sending. -/
def prepared (call : Call α) : Result (Errand α × String) := do
  let errand ← call.errand
  let body ← errand.query.render
  return (errand, body)

end Call

/-! ## Operations as errands -/

namespace Exchange

variable {α β γ : Type}

theorem follow_follow (done : Result α × List LogEntry) (next : α → Result β × List LogEntry)
    (last : β → Result γ × List LogEntry) :
    follow (follow done next) last = follow done fun value => follow (next value) last := by
  rcases done with ⟨result, log⟩
  cases result with
  | error cause => rfl
  | ok value =>
    simp only [follow]
    rcases next value with ⟨result, more⟩
    cases result <;> simp [List.append_assoc]

/-- A step that cannot fail and is not logged only changes the value. -/
theorem follow_ok (done : Result α × List LogEntry) (f : α → β) :
    (follow done fun value => (.ok (f value), [])) = (done.1.map f, done.2) := by
  rcases done with ⟨result, log⟩
  cases result <;> simp [follow, Except.map]

theorem settle_andThen (exchange : Exchange α) (next : α → Result β × List LogEntry)
    (outcome : Outcome) :
    (exchange.andThen next).settle outcome = follow (exchange.settle outcome) next := rfl

/-- Going on twice is going on once with both steps. -/
theorem andThen_andThen (exchange : Exchange α) (next : α → Result β × List LogEntry)
    (last : β → Result γ × List LogEntry) :
    (exchange.andThen next).andThen last =
      exchange.andThen fun value => follow (next value) last := by
  have settled : ((exchange.andThen next).andThen last).settle =
      (exchange.andThen fun value => follow (next value) last).settle := by
    funext outcome
    rw [settle_andThen, settle_andThen, settle_andThen, follow_follow]
  exact congrArg (Exchange.mk exchange.request exchange.announcement) settled

/-- Going on without a word in the log and then changing the value is one step. -/
theorem mapResult_mapResult (exchange : Exchange α) (f : α → Result β) (g : β → γ) :
    (exchange.mapResult f).mapResult (fun value => .ok (g value)) =
      exchange.mapResult fun value => (f value).map g := by
  unfold mapResult
  rw [andThen_andThen]
  simp only [follow_ok]

end Exchange

namespace Call

variable {α β γ : Type}

theorem answering_bind (f : γ → Answer α) (x : Result β) (next : β → Result (Exchange γ)) :
    answering f (x >>= next) = x >>= fun value => answering f (next value) := by
  cases x <;> rfl

variable [Wording]

/-- A query that is sent, and finished in some way, is the operation of an errand. -/
theorem execute_finish (errand : Errand α) :
    (do
      let exchange ← errand.client.execute errand.query errand.mode errand.options
      return exchange.andThen errand.finish) = errand.operation := by
  unfold Client.execute Errand.operation
  cases errand.query.render <;> rfl

theorem answering_execute (client : Client) (query : Query) (mode : Mode) (options : Options)
    (read : Output → Result β) (f : β → Answer α) :
    (answering f do
      let exchange ← client.execute query mode options
      return exchange.mapResult read) = Errand.operation
        ⟨client, options, query, mode, fun output => ((read output).map f, [])⟩ := by
  rw [← execute_finish, answering_bind]
  refine congrArg (client.execute query mode options >>= ·) (funext fun exchange => ?_)
  exact congrArg Except.ok (exchange.mapResult_mapResult read f)

theorem answering_synchronize (c : Collection α) (f : Unit → Answer α) :
    answering f c.synchronize = c.schema.definitionText >>= fun text =>
      (Errand.ofDefinitions c (f ()) text).operation := by
  unfold Collection.synchronize
  rw [answering_bind]
  refine congrArg (c.schema.definitionText >>= ·) (funext fun text => ?_)
  rw [← execute_finish, answering_bind]
  unfold Client.queryRaw Client.query Errand.ofDefinitions
  cases c.client.execute ⟨text, .empty⟩ .raw c.options with
  | error cause => rfl
  | ok exchange =>
    refine congrArg Except.ok ?_
    simp only [Exchange.mapResult, Exchange.andThen_andThen]
    refine congrArg exchange.andThen (funext fun output => ?_)
    rw [Exchange.follow_ok]
    rfl

theorem answering_bindCollection (client : Client) (model : Model α) (schema : ModelSchema)
    (options : Options) :
    answering .collection (Collection.bind client model schema options) =
      Errand.ofBinding client model schema options >>= Errand.operation := by
  let c : Collection α := { client, model, schema, options }
  have synchronized := answering_synchronize c fun _ => .collection c
  unfold Collection.bind Errand.ofBinding
  split
  · rw [bind_assoc]
    simp only [pure_bind]
    refine Eq.trans ?_ synchronized
    -- that the collection is kept until its definitions are accepted takes one step more
    unfold answering
    rw [bind_assoc]
    refine congrArg (c.synchronize >>= ·) (funext fun exchange => ?_)
    exact congrArg Except.ok (exchange.mapResult_mapResult _ _)
  · rfl

/-- A call that compiles its request first is refused with it, and else has the errand of
what it compiles to. -/
theorem answering_compiled {compiled : Result Query} {send : Query → Result (Exchange β)}
    {errand : Query → Errand α} {f : β → Answer α}
    (sent : ∀ query, answering f (send query) = (errand query).operation) :
    answering f (compiled >>= send) =
      (compiled >>= fun query => pure (errand query)) >>= Errand.operation := by
  rw [answering_bind, bind_assoc]
  refine congrArg (compiled >>= ·) (funext fun query => ?_)
  rw [sent, pure_bind]

/-- Every operation is an errand that is rendered, sent and finished. -/
theorem operation_eq (call : Call α) : call.operation = call.errand >>= Errand.operation := by
  cases call with
  | collection client registry model =>
    rw [operation, errand, Client.collection, answering_bind, bind_assoc]
    refine congrArg (registry.schema model.key >>= ·) (funext fun schema => ?_)
    exact answering_bindCollection client model schema {}
  | bind client model schema options => exact answering_bindCollection client model schema options
  | synchronize c =>
    rw [operation, errand, answering_synchronize, bind_assoc]
    rfl
  | create c request => exact answering_compiled fun query => answering_execute _ _ _ _ _ _
  | findMany c request => exact answering_compiled fun query => answering_execute _ _ _ _ _ _
  | findById c id request => exact answering_compiled fun query => answering_execute _ _ _ _ _ _
  | update c request => exact answering_compiled fun query => answering_execute _ _ _ _ _ _
  | assign c request => exact answering_compiled fun query => answering_execute _ _ _ _ _ _
  | delete c request => exact answering_compiled fun query => answering_execute _ _ _ _ _ _
  | query client statement vars mode options =>
    exact execute_finish
      ⟨client, options, ⟨statement.text, vars⟩, mode, fun output => (.ok (.output output), [])⟩
  | queryRaw client statement vars options => exact answering_execute _ _ _ _ _ _
  | queryLast client reader statement vars options => exact answering_execute _ _ _ _ _ _
  | queryLastArray client reader statement vars options => exact answering_execute _ _ _ _ _ _
  | relate client source edge target data options =>
    exact answering_compiled fun query => answering_execute _ _ _ _ _ _

/-- What is prepared is exchanged, and nothing else. -/
theorem operation_eq_prepared (call : Call α) :
    call.operation = do
      let (errand, body) ← call.prepared
      return errand.exchange body := by
  rw [operation_eq, prepared]
  simp only [bind_assoc, pure_bind]
  rfl

end Call

/-! ## Performing -/

namespace Transcript

variable {α : Type} [Wording] {call : Call α}

/-- A call that is refused leaves the transcript as it is. -/
theorem perform_of_refused {cause : Error} (refused : call.prepared = .error cause)
    (t : Transcript) : t.perform call.operation = (.error cause, t) := by
  rw [Call.operation_eq_prepared, refused]
  rfl

/-- A call that is prepared sends its body and takes one reply. -/
theorem perform_of_prepared {errand : Errand α} {body : String}
    (prepared : call.prepared = .ok (errand, body)) (t : Transcript) :
    t.perform call.operation = ((errand.settle t.nextReply).1, {
      replies := t.replies.tail
      requests := t.requests ++ [errand.request body]
      log := t.log ++ errand.announcement body ++ (errand.settle t.nextReply).2 }) := by
  rw [Call.operation_eq_prepared, prepared]
  rfl

end Transcript

end RecordMapper
