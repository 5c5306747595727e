import RecordMapper.Proofs.Call.Refusal
import RecordMapper.Proofs.Reply.Modes
import RecordMapper.Proofs.Reply.RoundTrip
import RecordMapper.Proofs.Schema.Definition

/-!
Binding a model to its table. The definitions of the table go out in one request, and the reply is
looked at twice: once as every reply is, which tells of a failure at its start only, and once more
from its start to its end. Both together find the first definition that was not accepted
(`Collection.verdict_of_batched`), so a collection is there just if all of them were
(`Transcript.perform_bind`).
-/

namespace RecordMapper

open Connection (Options Headers)
open Reply (Batched Entry FirstFailed)

namespace Reply

/-- The entry has failed, and none before it in the batch has. -/
def EarliestFailed (batch : List Entry) (entry : Entry) : Prop :=
  ∃ before after, batch = before ++ entry :: after ∧
    (∀ earlier ∈ before, earlier.status = .ok) ∧ entry.status = .err

theorem Status.ne_err_iff {status : Status} : status ≠ .err ↔ status = .ok := by
  cases status <;> simp

theorem FirstFailed.earliest {batch : List Entry} {entry : Entry}
    (first : FirstFailed batch entry) : EarliestFailed batch entry := by
  obtain ⟨rest, rfl, failed⟩ := first
  exact ⟨[], rest, rfl, List.forall_mem_nil _, failed⟩

/-- A statement is said to have failed only where the payload is a batch. -/
theorem exists_batched_of_statementFailed [Wording] {payload : Json} {mode : Mode} {entry : Entry}
    (failed : interpret payload mode = .error (.remote (.statementFailed entry))) :
    ∃ batch, Batched payload batch := by
  have classified := classified_interpret payload mode
  rw [failed] at classified
  cases classified with
  | firstFailed batched => exact ⟨_, batched⟩
  | lastFailed batched => exact ⟨_, batched⟩

end Reply

namespace Exchange

variable {α β : Type}

theorem fst_follow (done : Result α × List LogEntry) (next : α → Result β × List LogEntry) :
    (follow done next).1 = done.1 >>= fun value => (next value).1 := by
  rcases done with ⟨result, log⟩
  cases result <;> rfl

end Exchange

theorem Client.fst_settle [Wording] (client : Client) (mode : Reply.Mode) (payload : Json) :
    (client.settle mode (.ok payload)).1 = Reply.interpret payload mode := by
  cases interpreted : Reply.interpret payload mode <;> simp [settle, interpreted]

/-- A statement without variables is its own body. -/
theorem Query.render_of_empty (statement : String) :
    Query.render ⟨statement, .empty⟩ = .ok statement :=
  congrArg Except.ok (String.empty_append (s := statement))

namespace Collection

variable {α : Type}

/-! ## The verdict on a reply -/

theorem firstFailure?_eq_some_iff {batch : List Entry} {entry : Entry} :
    firstFailure? batch = some entry ↔ Reply.EarliestFailed batch entry := by
  rw [firstFailure?, List.find?_eq_some_iff_append]
  simp only [Bool.not_eq_true', decide_eq_false_iff_not, decide_eq_true_eq, Reply.Status.ne_err_iff]
  constructor
  · intro found
    obtain ⟨failed, before, after, split, fine⟩ := found
    exact ⟨before, after, split, fine, failed⟩
  · intro found
    obtain ⟨before, after, split, fine, failed⟩ := found
    exact ⟨failed, before, after, split, fine⟩

theorem firstFailure?_eq_none_iff {batch : List Entry} :
    firstFailure? batch = none ↔ ∀ entry ∈ batch, entry.status = .ok := by
  rw [firstFailure?, List.find?_eq_none]
  simp only [decide_eq_true_eq, Reply.Status.ne_err_iff]

variable [Wording] {c : Collection α} {reply : Outcome}

/-- What the reply to the definitions comes to: it is read as a whole batch, and then every entry
has to be a success. -/
def verdict (c : Collection α) : Outcome → Result Unit
  | .error message => .error (.transport message)
  | .ok payload => do
    let output ← Reply.interpret payload .raw
    (c.acceptDefinitions output.toBatch).1

/-- That a failure of the first entry is found while the batch is read makes no difference. -/
theorem verdict_of_batched {payload : Json} {batch : List Entry}
    (batched : Batched payload batch) :
    c.verdict (.ok payload) = (c.acceptDefinitions batch).1 := by
  rw [verdict, Reply.interpret_of_batched batched]
  by_cases starting : ∃ first, FirstFailed batch first
  · obtain ⟨first, starts⟩ := starting
    have found := firstFailure?_eq_some_iff.2 starts.earliest
    rw [Reply.judge_of_failed (Reply.failure?_of_firstFailed starts .raw), acceptDefinitions, found]
    rfl
  · have fine := Reply.failure?_eq_none_iff.2 ⟨not_exists.1 starting, .inl rfl⟩
    rw [Reply.judge_of_fine fine]
    rfl

theorem verdict_eq_ok_iff : c.verdict reply = .ok () ↔ ∃ payload batch,
    reply = .ok payload ∧ Batched payload batch ∧ ∀ entry ∈ batch, entry.status = .ok := by
  constructor
  · intro accepted
    cases reply with
    | error message => cases accepted
    | ok payload =>
      obtain ⟨output, raw, -⟩ := exists_of_bind_eq_ok accepted
      obtain ⟨batch, batched, -⟩ := Reply.interpret_raw_eq_ok_iff.1 raw
      refine ⟨payload, batch, rfl, batched, firstFailure?_eq_none_iff.1 ?_⟩
      rw [verdict_of_batched batched, acceptDefinitions] at accepted
      cases found : firstFailure? batch with
      | none => rfl
      | some entry => rw [found] at accepted; cases accepted
  · intro found
    obtain ⟨payload, batch, rfl, batched, fine⟩ := found
    rw [verdict_of_batched batched, acceptDefinitions, firstFailure?_eq_none_iff.2 fine]

theorem verdict_eq_statementFailed_iff {entry : Entry} :
    c.verdict reply = .error (.remote (.statementFailed entry)) ↔ ∃ payload batch,
      reply = .ok payload ∧ Batched payload batch ∧ Reply.EarliestFailed batch entry := by
  constructor
  · intro failed
    cases reply with
    | error message => cases failed
    | ok payload =>
      have batched : ∃ batch, Batched payload batch := by
        rcases bind_eq_error_iff.1 failed with refused | ⟨output, raw, -⟩
        · exact Reply.exists_batched_of_statementFailed refused
        · obtain ⟨batch, batched, -⟩ := Reply.interpret_raw_eq_ok_iff.1 raw
          exact ⟨batch, batched⟩
      obtain ⟨batch, batched⟩ := batched
      refine ⟨payload, batch, rfl, batched, firstFailure?_eq_some_iff.1 ?_⟩
      rw [verdict_of_batched batched, acceptDefinitions] at failed
      cases found : firstFailure? batch with
      | none => rw [found] at failed; cases failed
      | some other => rw [found] at failed; cases failed; rfl
  · intro found
    obtain ⟨payload, batch, rfl, batched, earliest⟩ := found
    rw [verdict_of_batched batched, acceptDefinitions, firstFailure?_eq_some_iff.2 earliest]

/-! ## Sending definitions -/

theorem synchronize_of_unwritten {cause : Error}
    (unwritten : c.schema.definitionText = .error cause) : c.synchronize = .error cause := by
  rw [synchronize, unwritten]
  rfl

/-- The definitions go out as they are written, and the verdict on the reply decides. -/
theorem synchronize_of_written {text : String} (written : c.schema.definitionText = .ok text) :
    ∃ exchange, c.synchronize = .ok exchange ∧
      exchange.request = ⟨c.client.endpoint ++ "/sql", text,
        Headers.ofOptions (c.client.options.merged c.options)⟩ ∧
      ∀ reply, (exchange.settle reply).1 = c.verdict reply := by
  let sent : Exchange Reply.Output := {
    request := ⟨c.client.sqlEndpoint, text, Headers.ofOptions (c.client.options.merged c.options)⟩
    announcement := c.client.note .debug (Client.queryPayload text .empty)
    settle := c.client.settle .raw }
  have executed : c.client.queryRaw ⟨text⟩ .empty c.options =
      .ok (sent.mapResult fun output => .ok output.toBatch) := by
    rw [Client.queryRaw, Client.query, Client.execute, Query.render_of_empty]
    rfl
  refine ⟨(sent.mapResult fun output => .ok output.toBatch).andThen c.acceptDefinitions, ?_, rfl,
    fun reply => ?_⟩
  · simp only [synchronize, written, Bind.bind, Except.bind, executed]
    rfl
  · cases reply with
    | error message => rfl
    | ok payload =>
      have received : (sent.settle (.ok payload)).1 = Reply.interpret payload .raw :=
        c.client.fst_settle .raw payload
      rw [Exchange.settle_andThen, Exchange.fst_follow, Exchange.mapResult,
        Exchange.settle_andThen, Exchange.fst_follow, received, bind_assoc]
      rfl

/-! ## Binding -/

variable {client : Client} {model : Model α} {schema : ModelSchema} {options : Options}

theorem bind_of_foreign (foreign : schema.model ≠ model.key) :
    bind client model schema options =
      .error (.configuration (.modelMismatch model.key.name schema.model.name)) := by
  rw [bind, if_neg foreign]

theorem bind_of_own (own : schema.model = model.key) :
    let c : Collection α := ⟨client, model, schema, options⟩
    bind client model schema options = do
      let exchange ← c.synchronize
      return exchange.mapResult fun _ => .ok c := by
  intro c
  rw [bind, if_pos own]

end Collection

namespace Transcript

section

variable {α : Type} [Wording] {client : Client} {model : Model α} {schema : ModelSchema}
  {options : Options}

theorem perform_bind_of_foreign (t : Transcript) (foreign : schema.model ≠ model.key) :
    t.perform (Collection.bind client model schema options) =
      (.error (.configuration (.modelMismatch model.key.name schema.model.name)), t) := by
  rw [Collection.bind_of_foreign foreign, perform]

theorem perform_bind_of_unwritten (t : Transcript) (own : schema.model = model.key) {cause : Error}
    (unwritten : schema.definitionText = .error cause) :
    t.perform (Collection.bind client model schema options) = (.error cause, t) := by
  rw [Collection.bind_of_own own, Collection.synchronize_of_unwritten unwritten]
  rfl

theorem perform_bind_of_written (t : Transcript) (own : schema.model = model.key) {text : String}
    (written : schema.definitionText = .ok text) :
    let c : Collection α := ⟨client, model, schema, options⟩
    let performed := t.perform (Collection.bind client model schema options)
    performed.1 = (c.verdict t.nextReply).map (fun _ => c) ∧
    performed.2.requests = t.requests ++ [⟨client.endpoint ++ "/sql", text,
      Headers.ofOptions (client.options.merged options)⟩] ∧
    performed.2.replies = t.replies.tail := by
  intro c performed
  obtain ⟨exchange, sent, request, settled⟩ := c.synchronize_of_written written
  have bound : performed = t.perform (.ok (exchange.mapResult fun _ => .ok c)) := by
    show t.perform (Collection.bind client model schema options) = _
    rw [Collection.bind_of_own own, sent]
    rfl
  rw [bound, ← settled, ← request]
  refine ⟨?_, rfl, rfl⟩
  show ((exchange.mapResult _).settle t.nextReply).1 = _
  rw [Exchange.mapResult, Exchange.settle_andThen, Exchange.fst_follow]
  cases (exchange.settle t.nextReply).1 <;> rfl

/-- What binding comes to is the verdict on the reply, if the definitions are sent at all. -/
theorem perform_bind_eq_iff {t : Transcript} {result : Result (Collection α)}
    (late : FailsAs Error.isOfReply result) :
    (t.perform (Collection.bind client model schema options)).1 = result ↔
      schema.model = model.key ∧ (∃ text, schema.definitionText = .ok text) ∧
        (Collection.verdict ⟨client, model, schema, options⟩ t.nextReply).map (fun _ =>
          (⟨client, model, schema, options⟩ : Collection α)) = result := by
  by_cases own : schema.model = model.key
  · cases written : schema.definitionText with
    | ok text =>
      rw [(perform_bind_of_written t own written).1]
      exact ⟨fun same => ⟨own, ⟨text, rfl⟩, same⟩, fun same => same.2.2⟩
    | error cause =>
      rw [perform_bind_of_unwritten t own written]
      constructor
      · intro same
        obtain ⟨before, field, after, -, -, -, rfl⟩ :=
          ModelSchema.definitionText_eq_error_iff.1 written
        cases late _ same.symm
      · intro same
        obtain ⟨text, other⟩ := same.2.1
        cases other
  · rw [perform_bind_of_foreign t own]
    constructor
    · intro same
      cases late _ same.symm
    · intro same
      exact absurd same.1 own

theorem perform_bind_eq_ok_iff {t : Transcript} {c : Collection α} :
    (t.perform (Collection.bind client model schema options)).1 = .ok c ↔
      c = ⟨client, model, schema, options⟩ ∧ schema.model = model.key ∧
        (∃ text, schema.definitionText = .ok text) ∧
        ∃ payload batch, t.nextReply = .ok payload ∧ Batched payload batch ∧
          ∀ entry ∈ batch, entry.status = .ok := by
  constructor
  · intro bound
    obtain ⟨own, written, given⟩ := (perform_bind_eq_iff (.ok c)).1 bound
    cases accepted : Collection.verdict ⟨client, model, schema, options⟩ t.nextReply with
    | error cause => rw [accepted] at given; cases given
    | ok =>
      rw [accepted] at given
      exact ⟨(Except.ok.inj given).symm, own, written, Collection.verdict_eq_ok_iff.1 accepted⟩
  · intro found
    obtain ⟨rfl, own, written, accepted⟩ := found
    refine (perform_bind_eq_iff (.ok _)).2 ⟨own, written, ?_⟩
    rw [Collection.verdict_eq_ok_iff.2 accepted]
    rfl

theorem perform_bind_eq_statementFailed_iff {t : Transcript} {entry : Entry} :
    (t.perform (Collection.bind client model schema options)).1 =
        .error (.remote (.statementFailed entry)) ↔
      schema.model = model.key ∧ (∃ text, schema.definitionText = .ok text) ∧
        ∃ payload batch, t.nextReply = .ok payload ∧ Batched payload batch ∧
          Reply.EarliestFailed batch entry := by
  constructor
  · intro failed
    obtain ⟨own, written, given⟩ := (perform_bind_eq_iff (.error rfl)).1 failed
    cases refused : Collection.verdict ⟨client, model, schema, options⟩ t.nextReply with
    | ok => rw [refused] at given; cases given
    | error cause =>
      rw [refused] at given
      cases given
      exact ⟨own, written, Collection.verdict_eq_statementFailed_iff.1 refused⟩
  · intro found
    obtain ⟨own, written, refused⟩ := found
    refine (perform_bind_eq_iff (.error rfl)).2 ⟨own, written, ?_⟩
    rw [Collection.verdict_eq_statementFailed_iff.2 refused]
    rfl

/-- A model is bound to a table just if the schema is its own, every field has a type, and the
server accepts every definition. Of definitions that were not accepted the first decides the
error, wherever it stands. The one request has the definitions for its body. A schema of another
model, and a field without a type, are refused before anything is sent. -/
theorem perform_bind (t : Transcript) (client : Client) (model : Model α) (schema : ModelSchema)
    (options : Options) :
    let performed := t.perform (Collection.bind client model schema options)
    (∀ c, performed.1 = .ok c ↔ c = ⟨client, model, schema, options⟩ ∧
      schema.model = model.key ∧ (∃ text, schema.definitionText = .ok text) ∧
      ∃ payload batch, t.nextReply = .ok payload ∧ Batched payload batch ∧
        ∀ entry ∈ batch, entry.status = .ok) ∧
    (∀ entry, performed.1 = .error (.remote (.statementFailed entry)) ↔
      schema.model = model.key ∧ (∃ text, schema.definitionText = .ok text) ∧
      ∃ payload before after, t.nextReply = .ok payload ∧
        Batched payload (before ++ entry :: after) ∧
        (∀ earlier ∈ before, earlier.status = .ok) ∧ entry.status = .err) ∧
    (∀ text, schema.model = model.key → schema.definitionText = .ok text →
      performed.2.requests = t.requests ++ [⟨client.endpoint ++ "/sql", text,
        Headers.ofOptions (client.options.merged options)⟩] ∧
      performed.2.replies = t.replies.tail) ∧
    (∀ (registry : Schema.Registry) (key : ModelKey), registry.schema key = .ok schema →
      schema.model = key) ∧
    (schema.model ≠ model.key → performed =
      (.error (.configuration (.modelMismatch model.key.name schema.model.name)), t)) ∧
    (schema.model = model.key → ∀ before field after, schema.fields = before ++ field :: after →
      (∀ earlier ∈ before, earlier.HasType) → ¬field.HasType → performed =
        (.error (.configuration (.unresolvedFieldType schema.table field.name)), t)) := by
  intro performed
  refine ⟨fun c => perform_bind_eq_ok_iff, fun entry => ?_, fun text own written =>
    (perform_bind_of_written t own written).2, fun registry key folded => ?_,
    perform_bind_of_foreign t, fun own before field after split typed untyped => ?_⟩
  · rw [perform_bind_eq_statementFailed_iff]
    constructor
    · intro found
      obtain ⟨own, written, payload, batch, answered, batched, before, after, rfl, fine, fault⟩ :=
        found
      exact ⟨own, written, payload, before, after, answered, batched, fine, fault⟩
    · intro found
      obtain ⟨own, written, payload, before, after, answered, batched, fine, fault⟩ := found
      exact ⟨own, written, payload, _, answered, batched, before, after, rfl, fine, fault⟩
  · obtain ⟨entity, others, -, -, rfl⟩ := ModelSchema.ofDeclarations_eq_ok_iff.1 folded
    rfl
  · exact perform_bind_of_unwritten t own
      (ModelSchema.definitionText_eq_error_iff.2 ⟨before, field, after, split, typed, untyped, rfl⟩)

end

/-- A table and its field are accepted, and their index is not. -/
theorem perform_bind_refused_index :
    let _ : Wording := .terse
    let schema : ModelSchema := ⟨⟨0, "Fruit"⟩, { table := "fruit" },
      [{ name := "name", type := some .string }], [{ fields := ["name"] }], []⟩
    let model : Model Unit := ⟨⟨0, "Fruit"⟩, fun _ => none, Wording.row "Fruit"⟩
    let accepted : Entry := ⟨"1ms", .ok, none, none⟩
    let refused : Entry := ⟨"1ms", .err, none, some "the index is in use"⟩
    let t : Transcript :=
      { replies := [.ok (.array ([accepted, accepted, refused].map Entry.toJson))] }
    (t.perform (Collection.bind (.ofEndpoint "http://db") model schema {})).1 =
      .error (.remote (.statementFailed refused)) := by
  intro _ schema model accepted refused t
  have written : ∃ text, schema.definitionText = .ok text :=
    ModelSchema.exists_definitionText_iff.2 fun field mem => by
      rw [List.mem_singleton.1 mem]
      exact .inl (by decide)
  refine ((perform_bind t (.ofEndpoint "http://db") model schema {}).2.1 refused).2
    ⟨rfl, written, _, [accepted, accepted], [], rfl, Reply.batched_map_toJson _, ?_, rfl⟩
  intro earlier mem
  rcases List.mem_pair.1 mem with rfl | rfl <;> rfl

end Transcript

end RecordMapper
