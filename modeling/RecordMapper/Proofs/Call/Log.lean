import RecordMapper.Proofs.Call.Run
import RecordMapper.Proofs.Reply.Classification

/-!
The log of runs. A call leaves entries in the order in which things happen to it: what is asked,
what is answered, that the answer is an error, that a table has been defined (`Call.Logged`). An
error is told by its code and its text (`Reply.Says`). The log of a run is what its calls leave, one
after the other (`Transcript.log_run`). A log only listens: calls that differ in whether they are
logged send the same requests and come to the same results (`Transcript.run_withoutLog`).
-/

namespace RecordMapper

open Reply (Mode Output)

/-! ## What errors say -/

namespace Reply

/-- The code and the text of an error that a payload comes to. A payload that rejects the request is
given back in full, and of a failed statement its time and its detail; where the payload cannot be
read, the text is that of the reader. -/
inductive Says : Error → (code text : String) → Prop
  | requestRejected (code payload : Json) :
    Says (.remote (.requestRejected code payload)) "RequestRejected"
      ("remote error: request rejected with code " ++ code.print ++ ": " ++ payload.print)
  | statementFailed (entry : Entry) : Says (.remote (.statementFailed entry)) "StatementFailed"
      ("remote error: statement failed after " ++ entry.time ++ ": " ++
        entry.detail.getD "no detail")
  | malformed (words : String) :
    Says (.decode (.malformed words)) "Decode" ("decode error: " ++ words)
  | resultShape (found : Json) : Says (.decode (.resultShape found)) "Decode"
      ("decode error: statement result must be null or an array, got " ++ found.print)

theorem message_requestRejected (code payload : Json) :
    (Error.remote (.requestRejected code payload)).message =
      "remote error: request rejected with code " ++ code.print ++ ": " ++ payload.print := by
  change "remote error: " ++
    ("request rejected with code " ++ code.print ++ ": " ++ payload.print) = _
  simp only [← String.append_assoc]
  rfl

theorem message_statementFailed (entry : Entry) :
    (Error.remote (.statementFailed entry)).message =
      "remote error: statement failed after " ++ entry.time ++ ": " ++
        entry.detail.getD "no detail" := by
  change "remote error: " ++
    ("statement failed after " ++ entry.time ++ ": " ++ entry.detail.getD "no detail") = _
  simp only [← String.append_assoc]
  rfl

theorem says_decode (reason : DecodeError) :
    Says (.decode reason) "Decode" (Error.decode reason).message := by
  cases reason with
  | malformed words => exact .malformed words
  | resultShape found =>
    have text : (Error.decode (.resultShape found)).message =
        "decode error: statement result must be null or an array, got " ++ found.print := by
      change "decode error: " ++
        ("statement result must be null or an array, got " ++ found.print) = _
      rw [← String.append_assoc]
      rfl
    rw [text]
    exact .resultShape found

/-- Whatever error a payload comes to, its code and its message are what it says. -/
theorem says_of_interpret [Wording] {payload : Json} {mode : Mode} {cause : Error}
    (failed : interpret payload mode = .error cause) : Says cause cause.code cause.message := by
  have classified := classified_interpret payload mode
  rw [failed] at classified
  cases classified with
  | rejected _ =>
    rw [message_requestRejected]
    exact .requestRejected _ _
  | undecodable _ _ => exact says_decode _
  | firstFailed _ _ =>
    rw [message_statementFailed]
    exact .statementFailed _
  | lastFailed _ _ _ _ =>
    rw [message_statementFailed]
    exact .statementFailed _

end Reply

/-! ## What calls leave in a log -/

namespace Call

variable {α : Type}

/-- The client on whose behalf a call is made. -/
def client : Call α → Client
  | .collection client _ _ | .bind client _ _ _ => client
  | .synchronize c | .create c _ | .findMany c _ | .findById c _ _ | .update c _ | .assign c _
  | .delete c _ => c.client
  | .query client _ _ _ _ | .queryRaw client _ _ _ | .queryLast client _ _ _ _
  | .queryLastArray client _ _ _ _ | .relate client _ _ _ _ _ => client

/-- How the reply to a call is read. -/
def mode : Call α → Mode
  | .collection _ _ _ | .bind _ _ _ _ | .synchronize _ | .queryRaw _ _ _ _ => .raw
  | .create _ _ | .findById _ _ _ | .queryLast _ _ _ _ _ | .relate _ _ _ _ _ _ => .single
  | .findMany _ _ | .update _ _ | .assign _ _ | .delete _ _ | .queryLastArray _ _ _ _ _ => .array
  | .query _ _ _ mode _ => mode

/-- The table that a call defines, if it defines one. -/
def definedTable? : Call α → Option String
  | .collection _ registry model => (registry.schema model.key).toOption.map ModelSchema.table
  | .bind _ _ schema _ => some schema.table
  | .synchronize c => some c.table
  | _ => none

/-- What is told after the reply to a call has been received. Only a reply that comes to an error
as such is told of once more, and only a table that has been defined. -/
inductive Told [Wording] (call : Call α) (payload : Json) :
    Result (Answer α) → List LogEntry → Prop
  | rejected {cause : Error} {code text : String} :
    Reply.interpret payload call.mode = .error cause → Reply.Says cause code text →
    Told call payload (.error cause) [⟨.error, .object [("code", .string code),
      ("error", .string text), ("method", .string "parseResponse")]⟩]
  | failed {output : Output} {cause : Error} : Reply.interpret payload call.mode = .ok output →
    Told call payload (.error cause) []
  | done {output : Output} {answer : Answer α} : Reply.interpret payload call.mode = .ok output →
    call.definedTable? = none → Told call payload (.ok answer) []
  | defined {output : Output} {answer : Answer α} {table : String} :
    Reply.interpret payload call.mode = .ok output → call.definedTable? = some table →
    Told call payload (.ok answer)
      [⟨.info, .object [("method", .string "synchronize"), ("table", .string table)]⟩]

/-- What a call leaves in a log by the outcome of its request. Nothing is told of a call that is
refused. The body of a request is told as it is sent, and a payload as it is received. -/
inductive Logged [Wording] (call : Call α) : Outcome → Result (Answer α) → List LogEntry → Prop
  | refused {outcome : Outcome} {cause : Error} : call.request? = none → cause.isRefusal →
    Logged call outcome (.error cause) []
  | unanswered {message : String} {errand : Errand α} {request : WireRequest} :
    call.errand = .ok errand → call.request? = some request →
    errand.query.render = .ok request.body →
    Logged call (.error message) (.error (.transport message))
      [⟨.debug, .object [("method", .string "query"), ("query", .string request.body),
        ("variables", errand.query.bindings.toJson)]⟩]
  | answered {payload : Json} {errand : Errand α} {request : WireRequest}
      {result : Result (Answer α)} {told : List LogEntry} :
    call.errand = .ok errand → call.request? = some request →
    errand.query.render = .ok request.body → call.Told payload result told →
    Logged call (.ok payload) result
      (⟨.debug, .object [("method", .string "query"), ("query", .string request.body),
          ("variables", errand.query.bindings.toJson)]⟩ ::
        ⟨.debug, .object [("method", .string "parseResponse"), ("response", payload)]⟩ :: told)

/-! ## Errands of calls -/

/-- What is told at the end of a call that has come to a result. -/
def conclusion (call : Call α) : Result (Answer α) → List LogEntry
  | .error _ => []
  | .ok _ => call.definedTable?.toList.flatMap fun table => call.client.note .info
      (.object [("method", .string "synchronize"), ("table", .string table)])

/-- An errand goes out for the client of its call, its reply is read in the mode of the call, and
it tells at its end what the call has to tell. -/
structure Carries (call : Call α) (errand : Errand α) : Prop where
  client : errand.client = call.client
  mode : errand.mode = call.mode
  finish : ∀ output, (errand.finish output).2 = call.conclusion (errand.finish output).1

theorem conclusion_of_plain {call : Call α} (plain : call.definedTable? = none)
    (result : Result (Answer α)) : call.conclusion result = [] := by
  cases result with
  | error cause => rfl
  | ok answer => rw [conclusion, plain]; rfl

theorem Carries.of_plain {call : Call α} {errand : Errand α} (client : errand.client = call.client)
    (mode : errand.mode = call.mode) (plain : call.definedTable? = none)
    (silent : ∀ output, (errand.finish output).2 = []) : Carries call errand :=
  ⟨client, mode, fun output => (silent output).trans (conclusion_of_plain plain _).symm⟩

theorem Carries.of_definitions {call : Call α} {c : Collection α} (client : c.client = call.client)
    (mode : call.mode = .raw) (defines : call.definedTable? = some c.table) (answer : Answer α)
    (text : String) : Carries call (.ofDefinitions c answer text) := by
  refine ⟨client, mode.symm, fun output => ?_⟩
  unfold Errand.ofDefinitions Collection.acceptDefinitions
  dsimp only
  cases Collection.firstFailure? output.toBatch with
  | some entry => rfl
  | none =>
    rw [Except.map, conclusion, defines, client]
    simp

theorem exists_definitions_of_ofBinding {client : Client} {model : Model α} {schema : ModelSchema}
    {options : Connection.Options} {errand : Errand α}
    (accepted : Errand.ofBinding client model schema options = .ok errand) :
    ∃ answer text, errand = .ofDefinitions ⟨client, model, schema, options⟩ answer text := by
  unfold Errand.ofBinding at accepted
  split at accepted
  · obtain ⟨text, -, accepted⟩ := exists_of_bind_eq_ok accepted
    cases accepted
    exact ⟨_, text, rfl⟩
  · cases accepted

/-- A call that compiles its request has an errand of what it compiles to. -/
theorem Carries.of_compiled {call : Call α} {compiled : Result Query} {made : Query → Errand α}
    (carries : ∀ query, call.Carries (made query)) {errand : Errand α}
    (accepted : (compiled >>= fun query => pure (made query)) = .ok errand) :
    call.Carries errand := by
  obtain ⟨query, -, accepted⟩ := exists_of_bind_eq_ok accepted
  cases accepted
  exact carries query

variable [Wording]

theorem carries_errand {call : Call α} {errand : Errand α} (accepted : call.errand = .ok errand) :
    call.Carries errand := by
  cases call with
  | collection client registry model =>
    obtain ⟨schema, folded, accepted⟩ := exists_of_bind_eq_ok accepted
    obtain ⟨answer, text, rfl⟩ := exists_definitions_of_ofBinding accepted
    refine .of_definitions rfl rfl ?_ answer text
    rw [definedTable?, folded]
    rfl
  | bind client model schema options =>
    obtain ⟨answer, text, rfl⟩ := exists_definitions_of_ofBinding accepted
    exact .of_definitions rfl rfl rfl answer text
  | synchronize c =>
    obtain ⟨text, -, accepted⟩ := exists_of_bind_eq_ok accepted
    cases accepted
    exact .of_definitions rfl rfl rfl .done text
  | query client statement vars mode options =>
    cases accepted
    exact .of_plain rfl rfl rfl fun _ => rfl
  | queryRaw client statement vars options =>
    cases accepted
    exact .of_plain rfl rfl rfl fun _ => rfl
  | queryLast client reader statement vars options =>
    cases accepted
    exact .of_plain rfl rfl rfl fun _ => rfl
  | queryLastArray client reader statement vars options =>
    cases accepted
    exact .of_plain rfl rfl rfl fun _ => rfl
  | create c request => exact .of_compiled (fun _ => .of_plain rfl rfl rfl fun _ => rfl) accepted
  | findMany c request => exact .of_compiled (fun _ => .of_plain rfl rfl rfl fun _ => rfl) accepted
  | findById c id request =>
    exact .of_compiled (fun _ => .of_plain rfl rfl rfl fun _ => rfl) accepted
  | update c request => exact .of_compiled (fun _ => .of_plain rfl rfl rfl fun _ => rfl) accepted
  | assign c request => exact .of_compiled (fun _ => .of_plain rfl rfl rfl fun _ => rfl) accepted
  | delete c request => exact .of_compiled (fun _ => .of_plain rfl rfl rfl fun _ => rfl) accepted
  | relate client source edge target data options =>
    exact .of_compiled (fun _ => .of_plain rfl rfl rfl fun _ => rfl) accepted

/-! ## The entries of one call -/

variable {call : Call α} {errand : Errand α}

/-- What is told after a reply, by what the reply comes to. -/
theorem Carries.told (carries : call.Carries errand) (logging : call.client.logging = true)
    (payload : Json) : ∃ told, call.Told payload (errand.settle (.ok payload)).1 told ∧
      (errand.settle (.ok payload)).2 =
        ⟨.debug, .object [("method", .string "parseResponse"), ("response", payload)]⟩ :: told := by
  have noted (level : LogLevel) (payload : Json) :
      errand.client.note level payload = [⟨level, payload⟩] := by
    rw [Client.note, carries.client, if_pos logging]
  cases interpreted : Reply.interpret payload errand.mode with
  | error cause =>
    have settled : errand.settle (.ok payload) = (.error cause,
        [⟨.debug, Client.replyPayload payload⟩, ⟨.error, Client.errorPayload cause⟩]) := by
      simp [Errand.settle, Client.settle, interpreted, noted, Exchange.follow]
    rw [settled]
    exact ⟨_, .rejected (carries.mode ▸ interpreted) (Reply.says_of_interpret interpreted), rfl⟩
  | ok output =>
    have settled : errand.settle (.ok payload) = ((errand.finish output).1,
        ⟨.debug, Client.replyPayload payload⟩ :: call.conclusion (errand.finish output).1) := by
      simp [Errand.settle, Client.settle, interpreted, noted, Exchange.follow, carries.finish]
    rw [settled]
    refine ⟨_, ?_, rfl⟩
    rw [carries.mode] at interpreted
    cases (errand.finish output).1 with
    | error cause => exact .failed interpreted
    | ok answer =>
      cases defines : call.definedTable? with
      | none =>
        rw [conclusion_of_plain defines]
        exact .done interpreted defines
      | some table =>
        have concluded : call.conclusion (.ok answer) = [⟨.info, .object
            [("method", .string "synchronize"), ("table", .string table)]⟩] := by
          simp [conclusion, defines, Client.note, logging]
        rw [concluded]
        exact .defined interpreted defines

/-- A call of a client that keeps a log leaves its entries. -/
theorem logged_entries (logging : call.client.logging = true) (outcome : Outcome) :
    call.Logged outcome (call.result outcome) (call.entries outcome) := by
  cases prepared : call.prepared with
  | error cause =>
    have unsent : call.request? = none := by rw [request?, prepared]
    rw [result, entries, prepared]
    exact .refused unsent (call.prepared_refuses cause prepared)
  | ok ready =>
    rcases ready with ⟨errand, body⟩
    have sent : call.request? = some (errand.request body) := by rw [request?, prepared]
    rw [result, entries, prepared]
    obtain ⟨errand', accepted, prepared⟩ := exists_of_bind_eq_ok prepared
    obtain ⟨body', rendered, prepared⟩ := exists_of_bind_eq_ok prepared
    cases prepared
    have carries := carries_errand accepted
    have asked : errand.announcement body = [⟨.debug, .object [("method", .string "query"),
        ("query", .string (errand.request body).body),
        ("variables", errand.query.bindings.toJson)]⟩] := by
      rw [Errand.announcement, Client.note, carries.client, if_pos logging]
      rfl
    dsimp only
    rw [asked]
    cases outcome with
    | error message => exact .unanswered accepted sent rendered
    | ok payload =>
      obtain ⟨told, tells, settled⟩ := carries.told logging payload
      rw [settled]
      exact .answered accepted sent rendered tells

/-- A call of a client that keeps no log leaves nothing. -/
theorem entries_of_silent (silent : call.client.logging = false) (outcome : Outcome) :
    call.entries outcome = [] := by
  cases prepared : call.prepared with
  | error cause => rw [entries, prepared]
  | ok ready =>
    rcases ready with ⟨errand, body⟩
    rw [entries, prepared]
    obtain ⟨errand', accepted, prepared⟩ := exists_of_bind_eq_ok prepared
    obtain ⟨body', rendered, prepared⟩ := exists_of_bind_eq_ok prepared
    cases prepared
    have carries := carries_errand accepted
    have noted (level : LogLevel) (payload : Json) : errand.client.note level payload = [] := by
      simp [Client.note, carries.client, silent]
    have concluded (result : Result (Answer α)) : call.conclusion result = [] := by
      cases result <;> simp [conclusion, ← carries.client, noted]
    have settled : (errand.settle outcome).2 = [] := by
      unfold Errand.settle Client.settle
      cases outcome with
      | error message => rfl
      | ok payload =>
        simp only [noted]
        cases Reply.interpret payload errand.mode with
        | error cause => rfl
        | ok output => simp [Exchange.follow, carries.finish, concluded]
    dsimp only
    rw [Errand.announcement, noted, settled, List.append_nil]

end Call

/-! ## The log of a run -/

namespace Transcript

variable {α : Type} [Wording]

/-- What the calls of a run leave in the log, call by call. -/
def traces (t : Transcript) (calls : List (Call α)) : List (List LogEntry) :=
  calls.mapIdx fun i call => call.entries (t.outcome (Call.sent (calls.take i)))

theorem traces_cons (t : Transcript) (call : Call α) (rest : List (Call α)) :
    t.traces (call :: rest) =
      call.entries (t.outcome 0) :: (t.perform call.operation).2.traces rest := by
  unfold traces
  rw [List.mapIdx_cons]
  simp only [outcome_perform, List.take_succ_cons, Call.sent_cons]
  rfl

/-- The log of a run is what its calls leave, one after the other. -/
theorem log_run (t : Transcript) (calls : List (Call α)) :
    (t.run calls).2.log = t.log ++ (t.traces calls).flatten := by
  induction calls generalizing t with
  | nil => exact (List.append_nil _).symm
  | cons call rest ih =>
    rw [run_cons, ih, traces_cons, perform_call, List.flatten_cons, List.append_assoc]

theorem getElem?_traces (t : Transcript) (calls : List (Call α)) (i : Nat) :
    (t.traces calls)[i]? =
      calls[i]?.map fun call => call.entries (t.outcome (Call.sent (calls.take i))) := by
  rw [traces, List.getElem?_mapIdx]

end Transcript

/-! ## Without a log -/

def Client.withoutLog (client : Client) : Client := { client with logging := false }

def Collection.withoutLog {α : Type} (c : Collection α) : Collection α :=
  { c with client := c.client.withoutLog }

/-- The answer, in which the client of a collection keeps no log. -/
def Answer.withoutLog {α : Type} : Answer α → Answer α
  | .collection c => .collection c.withoutLog
  | answer => answer

/-- The call of a client that keeps no log. -/
def Call.withoutLog {α : Type} : Call α → Call α
  | .collection client registry model => .collection client.withoutLog registry model
  | .bind client model schema options => .bind client.withoutLog model schema options
  | .synchronize c => .synchronize c.withoutLog
  | .create c request => .create c.withoutLog request
  | .findMany c request => .findMany c.withoutLog request
  | .findById c id request => .findById c.withoutLog id request
  | .update c request => .update c.withoutLog request
  | .assign c request => .assign c.withoutLog request
  | .delete c request => .delete c.withoutLog request
  | .query client statement vars mode options =>
    .query client.withoutLog statement vars mode options
  | .queryRaw client statement vars options => .queryRaw client.withoutLog statement vars options
  | .queryLast client reader statement vars options =>
    .queryLast client.withoutLog reader statement vars options
  | .queryLastArray client reader statement vars options =>
    .queryLastArray client.withoutLog reader statement vars options
  | .relate client source edge target data options =>
    .relate client.withoutLog source edge target data options

/-- The transcript with nothing in its log. -/
def Transcript.withoutLog (t : Transcript) : Transcript := { t with log := [] }

namespace Errand

variable {α : Type}

/-- The errand for a client that keeps no log. -/
def withoutLog (errand : Errand α) : Errand α :=
  { errand with
    client := errand.client.withoutLog
    finish := fun output => ((errand.finish output).1.map Answer.withoutLog, []) }

/-- Where no collection is answered, and the end is not logged, only the client differs. -/
theorem withoutLog_of_plain {client : Client} {options : Connection.Options} {query : Query}
    {mode : Mode} {β : Type} (read : Output → Result β) {f : β → Answer α}
    (plain : ∀ b, (f b).withoutLog = f b) :
    (Errand.mk client options query mode fun output => ((read output).map f, [])).withoutLog =
      ⟨client.withoutLog, options, query, mode, fun output => ((read output).map f, [])⟩ := by
  have same (x : Result β) : (x.map f).map Answer.withoutLog = x.map f := by
    cases x with
    | error cause => rfl
    | ok b => exact congrArg Except.ok (plain b)
  unfold withoutLog
  simp only [same]

theorem ofDefinitions_withoutLog (c : Collection α) (answer : Answer α) (text : String) :
    (ofDefinitions c answer text).withoutLog =
      ofDefinitions c.withoutLog answer.withoutLog text := by
  have finished : (ofDefinitions c answer text).withoutLog.finish =
      (ofDefinitions c.withoutLog answer.withoutLog text).finish := by
    funext output
    unfold withoutLog ofDefinitions Collection.acceptDefinitions
    dsimp only
    cases Collection.firstFailure? output.toBatch <;> rfl
  exact congrArg (Errand.mk _ _ _ _) finished

theorem ofBinding_withoutLog (client : Client) (model : Model α) (schema : ModelSchema)
    (options : Connection.Options) :
    ofBinding client.withoutLog model schema options =
      (ofBinding client model schema options).map withoutLog := by
  let c : Collection α := { client, model, schema, options }
  unfold ofBinding
  split
  · cases schema.definitionText with
    | error cause => rfl
    | ok text => exact congrArg Except.ok (ofDefinitions_withoutLog c (.collection c) text).symm
  · rfl

/-- What an outcome comes to does not depend on a log. -/
theorem settle_withoutLog [Wording] (errand : Errand α) (outcome : Outcome) :
    errand.withoutLog.settle outcome = ((errand.settle outcome).1.map Answer.withoutLog, []) := by
  cases outcome with
  | error message => rfl
  | ok payload =>
    have mode : errand.withoutLog.mode = errand.mode := rfl
    simp only [settle, Client.settle, mode]
    cases Reply.interpret payload errand.mode <;> rfl

end Errand

namespace Call

variable {α : Type}

theorem errand_withoutLog_of_compiled {compiled : Result Query} {made other : Query → Errand α}
    (same : ∀ query, (made query).withoutLog = other query) :
    (compiled >>= fun query => pure (other query)) =
      (compiled >>= fun query => pure (made query)).map Errand.withoutLog := by
  cases compiled with
  | error cause => rfl
  | ok query => exact congrArg Except.ok (same query).symm

theorem errand_withoutLog [Wording] (call : Call α) :
    call.withoutLog.errand = call.errand.map Errand.withoutLog := by
  cases call with
  | collection client registry model =>
    unfold withoutLog
    rw [errand, errand]
    cases registry.schema model.key with
    | error cause => rfl
    | ok schema => exact Errand.ofBinding_withoutLog client model schema {}
  | bind client model schema options =>
    exact Errand.ofBinding_withoutLog client model schema options
  | synchronize c =>
    unfold withoutLog
    rw [errand, errand]
    change c.schema.definitionText >>= _ = _
    cases c.schema.definitionText with
    | error cause => rfl
    | ok text => exact congrArg Except.ok (Errand.ofDefinitions_withoutLog c .done text).symm
  | create c request =>
    exact errand_withoutLog_of_compiled fun _ => Errand.withoutLog_of_plain _ fun _ => rfl
  | findMany c request =>
    exact errand_withoutLog_of_compiled fun _ => Errand.withoutLog_of_plain _ fun _ => rfl
  | findById c id request =>
    exact errand_withoutLog_of_compiled fun _ => Errand.withoutLog_of_plain _ fun _ => rfl
  | update c request =>
    exact errand_withoutLog_of_compiled fun _ => Errand.withoutLog_of_plain _ fun _ => rfl
  | assign c request =>
    exact errand_withoutLog_of_compiled fun _ => Errand.withoutLog_of_plain _ fun _ => rfl
  | delete c request =>
    exact errand_withoutLog_of_compiled fun _ => Errand.withoutLog_of_plain _ fun _ => rfl
  | query client statement vars mode options => rfl
  | queryRaw client statement vars options => rfl
  | queryLast client reader statement vars options =>
    exact congrArg Except.ok (Errand.withoutLog_of_plain _ fun _ => rfl).symm
  | queryLastArray client reader statement vars options =>
    exact congrArg Except.ok (Errand.withoutLog_of_plain _ fun _ => rfl).symm
  | relate client source edge target data options =>
    exact errand_withoutLog_of_compiled fun _ => Errand.withoutLog_of_plain _ fun _ => rfl

/-- The same is checked and the same body is rendered. -/
theorem prepared_withoutLog [Wording] (call : Call α) :
    call.withoutLog.prepared = call.prepared.map fun ready => (ready.1.withoutLog, ready.2) := by
  unfold prepared
  rw [errand_withoutLog]
  cases call.errand with
  | error cause => rfl
  | ok errand =>
    change errand.query.render >>= _ = (errand.query.render >>= _).map _
    cases errand.query.render <;> rfl

end Call

namespace Transcript

variable {α : Type} [Wording]

theorem perform_withoutLog (t : Transcript) (call : Call α) :
    t.withoutLog.perform call.withoutLog.operation =
      ((t.perform call.operation).1.map Answer.withoutLog,
        (t.perform call.operation).2.withoutLog) := by
  have ready := call.prepared_withoutLog
  cases prepared : call.prepared with
  | error cause =>
    rw [prepared] at ready
    rw [perform_of_refused prepared, perform_of_refused ready]
    rfl
  | ok before =>
    rcases before with ⟨errand, body⟩
    rw [prepared] at ready
    rw [perform_of_prepared prepared, perform_of_prepared ready]
    have next : t.withoutLog.nextReply = t.nextReply := rfl
    rw [next, Errand.settle_withoutLog]
    rfl

/-- Without logs a run sends the same requests and comes to the same results. -/
theorem run_withoutLog (t : Transcript) (calls : List (Call α)) :
    t.withoutLog.run (calls.map Call.withoutLog) =
      ((t.run calls).1.map fun result => result.map Answer.withoutLog,
        (t.run calls).2.withoutLog) := by
  induction calls generalizing t with
  | nil => rfl
  | cons call rest ih =>
    rw [List.map_cons, run_cons, run_cons, perform_withoutLog, ih]
    rfl

/-- In every run the log is what its calls leave, one after the other. A call of a client that
keeps a log leaves nothing if it is refused, and else its request, the payload of the reply if
there is one, and then an error if the reply comes to one as such, or the table that has been
defined. Calls that differ in nothing but whether they are logged send the same requests, take the
same replies, and come to the same results, up to the log of the client of a bound collection. -/
theorem run_log (t : Transcript) (calls : List (Call α)) :
    (∃ traces : List (List LogEntry), (t.run calls).2.log = t.log ++ traces.flatten ∧
      traces.length = calls.length ∧
      ∀ (i : Nat) (call : Call α), calls[i]? = some call → ∃ result trace,
        (t.run calls).1[i]? = some result ∧ traces[i]? = some trace ∧
        (call.client.logging = true →
          call.Logged (t.outcome (Call.sent (calls.take i))) result trace) ∧
        (call.client.logging = false → trace = [])) ∧
    (t.run calls).2.requests = t.requests ++ calls.filterMap Call.request? ∧
    ∀ others : List (Call α), others.map Call.withoutLog = calls.map Call.withoutLog →
      (t.run others).2.requests = (t.run calls).2.requests ∧
      (t.run others).2.replies = (t.run calls).2.replies ∧
      List.Forall₂ (Agree fun a b => a.withoutLog = b.withoutLog)
        (t.run others).1 (t.run calls).1 := by
  refine ⟨⟨t.traces calls, log_run t calls, List.length_mapIdx, fun i call present => ?_⟩,
    (run_sent t calls).1, fun others same => ?_⟩
  · have result := getElem?_run t calls i
    have trace := getElem?_traces t calls i
    rw [present, Option.map_some] at result trace
    exact ⟨_, _, result, trace, fun logging => Call.logged_entries logging _,
      fun silent => Call.entries_of_silent silent _⟩
  · have left := run_withoutLog t others
    have right := run_withoutLog t calls
    rw [same, right] at left
    obtain ⟨results, transcripts⟩ := Prod.mk.inj left
    refine ⟨(congrArg requests transcripts).symm, (congrArg replies transcripts).symm, ?_⟩
    apply (forall₂_of_map_eq results.symm).imp
    intro a b alike
    exact Agree.of_map_eq alike

/-- No answer comes to the first request, the second call is refused, the third succeeds, and what
comes to the last request cannot be read. -/
example :
    let _ : Wording := .terse
    let c : Collection Unit := {
      client := { endpoint := "http://db", logging := true }
      model := ⟨⟨0, "Fruit"⟩, fun _ => none, Wording.row "Fruit"⟩
      schema := ⟨⟨0, "Fruit"⟩, { table := "fruit" }, [], [], []⟩ }
    let t : Transcript := { replies := [.error "closed", .ok (.array []), .ok .null] }
    let log := (t.run [.synchronize c, .findById c "animal:1" {}, .synchronize c,
      .synchronize c]).2.log
    log.map LogEntry.level = [.debug, .debug, .debug, .info, .debug, .debug, .error] ∧
      log.getLast?.map LogEntry.payload = some (.object [("code", .string "Decode"),
        ("error", .string "decode error: cannot be read"),
        ("method", .string "parseResponse")]) := ⟨rfl, rfl⟩

end Transcript

end RecordMapper
