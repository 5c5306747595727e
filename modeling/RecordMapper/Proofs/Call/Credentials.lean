import RecordMapper.Proofs.Call.Run

/-!
Credentials. Taking user, password and token out of the options of clients, collections and
calls changes nothing about a run but the authorization headers of its requests
(`Transcript.run_withoutCredentials`). So two runs of calls that are the same without their
credentials send the same requests up to authorization, log the same entries, and come to the
same results (`Transcript.run_credentials`).
-/

namespace RecordMapper

/-! ## Without credentials -/

namespace Connection

/-- The options with user, password and token unset. -/
def Options.withoutCredentials (options : Options) : Options :=
  { options with user := none, pass := none, token := none }

/-- The headers with no authorization. -/
def Headers.withoutAuthorization (headers : Headers) : Headers :=
  { headers with authorization := none }

theorem Options.merged_withoutCredentials (below above : Options) :
    below.withoutCredentials.merged above.withoutCredentials =
      (below.merged above).withoutCredentials := rfl

/-- Of the headers only the authorization comes from credentials. -/
theorem Headers.ofOptions_withoutCredentials (options : Options) :
    ofOptions options.withoutCredentials = (ofOptions options).withoutAuthorization := rfl

end Connection

/-- The request with no authorization. -/
def WireRequest.withoutAuthorization (request : WireRequest) : WireRequest :=
  { request with headers := request.headers.withoutAuthorization }

def Client.withoutCredentials (client : Client) : Client :=
  { client with options := client.options.withoutCredentials }

def Collection.withoutCredentials {α : Type} (c : Collection α) : Collection α :=
  { c with
    client := c.client.withoutCredentials
    options := c.options.withoutCredentials }

/-- The answer, in which a collection is kept without its credentials. -/
def Answer.withoutCredentials {α : Type} : Answer α → Answer α
  | .collection c => .collection c.withoutCredentials
  | answer => answer

/-- The call with the credentials unset in the options of its client, of its collection and of
its request. -/
def Call.withoutCredentials {α : Type} : Call α → Call α
  | .collection client registry model => .collection client.withoutCredentials registry model
  | .bind client model schema options =>
    .bind client.withoutCredentials model schema options.withoutCredentials
  | .synchronize c => .synchronize c.withoutCredentials
  | .create c request => .create c.withoutCredentials
    { request with options := request.options.withoutCredentials }
  | .findMany c request => .findMany c.withoutCredentials
    { request with options := request.options.withoutCredentials }
  | .findById c id request => .findById c.withoutCredentials id
    { request with options := request.options.withoutCredentials }
  | .update c request => .update c.withoutCredentials
    { request with options := request.options.withoutCredentials }
  | .assign c request => .assign c.withoutCredentials
    { request with options := request.options.withoutCredentials }
  | .delete c request => .delete c.withoutCredentials
    { request with options := request.options.withoutCredentials }
  | .query client statement vars mode options =>
    .query client.withoutCredentials statement vars mode options.withoutCredentials
  | .queryRaw client statement vars options =>
    .queryRaw client.withoutCredentials statement vars options.withoutCredentials
  | .queryLast client reader statement vars options =>
    .queryLast client.withoutCredentials reader statement vars options.withoutCredentials
  | .queryLastArray client reader statement vars options =>
    .queryLastArray client.withoutCredentials reader statement vars options.withoutCredentials
  | .relate client source edge target data options =>
    .relate client.withoutCredentials source edge target data options.withoutCredentials

/-- The errand with the credentials unset in its options and in what it answers. -/
def Errand.withoutCredentials {α : Type} (errand : Errand α) : Errand α :=
  { errand with
    client := errand.client.withoutCredentials
    options := errand.options.withoutCredentials
    finish := fun output =>
      ((errand.finish output).1.map Answer.withoutCredentials, (errand.finish output).2) }

/-- The transcript with no authorization in its requests. -/
def Transcript.withoutAuthorization (t : Transcript) : Transcript :=
  { t with requests := t.requests.map WireRequest.withoutAuthorization }

/-! ## Errands -/

namespace Errand

variable {α : Type}

/-- Where no collection is answered, only the options of an errand hold credentials. -/
theorem withoutCredentials_of_plain {errand : Errand α}
    (plain : ∀ output, (errand.finish output).1.map Answer.withoutCredentials =
      (errand.finish output).1) :
    errand.withoutCredentials = { errand with
      client := errand.client.withoutCredentials
      options := errand.options.withoutCredentials } := by
  unfold withoutCredentials
  simp only [plain]

theorem map_withoutCredentials {β : Type} {f : β → Answer α}
    (plain : ∀ b, (f b).withoutCredentials = f b) (x : Result β) :
    (x.map f).map Answer.withoutCredentials = x.map f := by
  cases x with
  | error cause => rfl
  | ok b => exact congrArg Except.ok (plain b)

theorem ofRow_withoutCredentials (client : Client) (reader : Reply.RowReader α) (query : Query)
    (options : Connection.Options) :
    (ofRow client reader query options).withoutCredentials =
      ofRow client.withoutCredentials reader query options.withoutCredentials :=
  withoutCredentials_of_plain fun _ => map_withoutCredentials (fun _ => rfl) _

theorem ofRows_withoutCredentials (client : Client) (reader : Reply.RowReader α) (query : Query)
    (options : Connection.Options) :
    (ofRows client reader query options).withoutCredentials =
      ofRows client.withoutCredentials reader query options.withoutCredentials :=
  withoutCredentials_of_plain fun _ => map_withoutCredentials (fun _ => rfl) _

theorem ofDefinitions_withoutCredentials (c : Collection α) (answer : Answer α) (text : String) :
    (ofDefinitions c answer text).withoutCredentials =
      ofDefinitions c.withoutCredentials answer.withoutCredentials text := by
  have finished : (ofDefinitions c answer text).withoutCredentials.finish =
      (ofDefinitions c.withoutCredentials answer.withoutCredentials text).finish := by
    funext output
    have accepted : c.withoutCredentials.acceptDefinitions output.toBatch =
        c.acceptDefinitions output.toBatch := rfl
    unfold withoutCredentials ofDefinitions
    dsimp only
    rw [accepted]
    cases (c.acceptDefinitions output.toBatch).1 <;> rfl
  exact congrArg (Errand.mk _ _ _ _) finished

theorem ofBinding_withoutCredentials (client : Client) (model : Model α) (schema : ModelSchema)
    (options : Connection.Options) :
    ofBinding client.withoutCredentials model schema options.withoutCredentials =
      (ofBinding client model schema options).map withoutCredentials := by
  let c : Collection α := { client, model, schema, options }
  unfold ofBinding
  split
  · cases schema.definitionText with
    | error cause => rfl
    | ok text =>
      exact congrArg Except.ok (ofDefinitions_withoutCredentials c (.collection c) text).symm
  · rfl

end Errand

namespace Call

variable {α : Type}

/-- Compiling a request does not look at credentials, so that it is enough to compare the
errands of one query. -/
theorem errand_of_compiled {compiled : Result Query} {errand other : Query → Errand α}
    (same : ∀ query, (errand query).withoutCredentials = other query) :
    (compiled >>= fun query => pure (other query)) =
      (compiled >>= fun query => pure (errand query)).map Errand.withoutCredentials := by
  cases compiled with
  | error cause => rfl
  | ok query => exact congrArg Except.ok (same query).symm

theorem errand_withoutCredentials [Wording] (call : Call α) :
    call.withoutCredentials.errand = call.errand.map Errand.withoutCredentials := by
  cases call with
  | collection client registry model =>
    unfold withoutCredentials
    rw [errand, errand]
    cases registry.schema model.key with
    | error cause => rfl
    | ok schema => exact Errand.ofBinding_withoutCredentials client model schema {}
  | bind client model schema options =>
    exact Errand.ofBinding_withoutCredentials client model schema options
  | synchronize c =>
    unfold withoutCredentials
    rw [errand, errand]
    change c.schema.definitionText >>= _ = _
    cases c.schema.definitionText with
    | error cause => rfl
    | ok text => exact congrArg Except.ok (Errand.ofDefinitions_withoutCredentials c .done text).symm
  | create c request => exact errand_of_compiled fun _ => Errand.ofRow_withoutCredentials _ _ _ _
  | findMany c request => exact errand_of_compiled fun _ => Errand.ofRows_withoutCredentials _ _ _ _
  | findById c id request =>
    exact errand_of_compiled fun _ => Errand.ofRow_withoutCredentials _ _ _ _
  | update c request => exact errand_of_compiled fun _ => Errand.ofRows_withoutCredentials _ _ _ _
  | assign c request => exact errand_of_compiled fun _ => Errand.ofRows_withoutCredentials _ _ _ _
  | delete c request => exact errand_of_compiled fun _ => Errand.ofRows_withoutCredentials _ _ _ _
  | query client statement vars mode options => rfl
  | queryRaw client statement vars options => rfl
  | queryLast client reader statement vars options =>
    exact congrArg Except.ok (Errand.ofRow_withoutCredentials _ _ _ _).symm
  | queryLastArray client reader statement vars options =>
    exact congrArg Except.ok (Errand.ofRows_withoutCredentials _ _ _ _).symm
  | relate client source edge target data options =>
    exact errand_of_compiled fun _ => Errand.withoutCredentials_of_plain fun _ =>
      Errand.map_withoutCredentials (fun _ => rfl) _

/-- The same is checked and the same body is rendered. -/
theorem prepared_withoutCredentials [Wording] (call : Call α) :
    call.withoutCredentials.prepared =
      call.prepared.map fun ready => (ready.1.withoutCredentials, ready.2) := by
  unfold prepared
  rw [errand_withoutCredentials]
  cases call.errand with
  | error cause => rfl
  | ok errand =>
    change errand.query.render >>= _ = (errand.query.render >>= _).map _
    cases errand.query.render <;> rfl

end Call

/-! ## Runs -/

/-- The request goes to the same place with the same body, under headers that lack nothing but
the authorization. -/
theorem Errand.request_withoutCredentials {α : Type} (errand : Errand α) (body : String) :
    errand.withoutCredentials.request body = (errand.request body).withoutAuthorization := by
  have merged := Connection.Options.merged_withoutCredentials errand.client.options errand.options
  have headers := Connection.Headers.ofOptions_withoutCredentials
    (errand.client.options.merged errand.options)
  rw [← merged] at headers
  exact congrArg (WireRequest.mk _ body) headers

/-- What an outcome comes to, and what the log tells of it, does not depend on credentials. -/
theorem Errand.settle_withoutCredentials {α : Type} [Wording] (errand : Errand α)
    (outcome : Outcome) : errand.withoutCredentials.settle outcome =
      ((errand.settle outcome).1.map Answer.withoutCredentials, (errand.settle outcome).2) := by
  have received : errand.withoutCredentials.client.settle errand.withoutCredentials.mode outcome =
      errand.client.settle errand.mode outcome := rfl
  unfold settle
  rw [received]
  rcases errand.client.settle errand.mode outcome with ⟨result, log⟩
  cases result <;> rfl

namespace Transcript

variable {α : Type}

theorem perform_withoutCredentials [Wording] (t : Transcript) (call : Call α) :
    t.withoutAuthorization.perform call.withoutCredentials.operation =
      ((t.perform call.operation).1.map Answer.withoutCredentials,
        (t.perform call.operation).2.withoutAuthorization) := by
  have ready := call.prepared_withoutCredentials
  cases prepared : call.prepared with
  | error cause =>
    rw [prepared] at ready
    rw [perform_of_refused prepared, perform_of_refused ready]
    rfl
  | ok before =>
    rcases before with ⟨errand, body⟩
    rw [prepared] at ready
    rw [perform_of_prepared prepared, perform_of_prepared ready]
    have next : t.withoutAuthorization.nextReply = t.nextReply := rfl
    rw [next, Errand.settle_withoutCredentials, Errand.request_withoutCredentials]
    simp only [withoutAuthorization, List.map_append, List.map_cons, List.map_nil]
    rfl

/-- Without credentials a run sends the same requests without authorization, and all else
about it stays. -/
theorem run_withoutCredentials [Wording] (t : Transcript) (calls : List (Call α)) :
    t.withoutAuthorization.run (calls.map Call.withoutCredentials) =
      ((t.run calls).1.map fun result => result.map Answer.withoutCredentials,
        (t.run calls).2.withoutAuthorization) := by
  induction calls generalizing t with
  | nil => rfl
  | cons call rest ih =>
    rw [List.map_cons, run_cons, run_cons, perform_withoutCredentials, ih]
    rfl

/-- Two runs of calls that are the same without their credentials send the same requests up
to the authorization header, one by one; they log the same entries in the same order, and
each call comes to the same result or the same error. A collection that is bound keeps the
credentials it was given, and is otherwise the same. -/
theorem run_credentials [Wording] (t : Transcript) {calls others : List (Call α)}
    (same : calls.map Call.withoutCredentials = others.map Call.withoutCredentials) :
    List.Forall₂ (fun a b => a.endpoint = b.endpoint ∧ a.body = b.body ∧
        a.headers.accept = b.headers.accept ∧ a.headers.ns = b.headers.ns ∧
        a.headers.db = b.headers.db)
      (t.run calls).2.requests (t.run others).2.requests ∧
    (t.run calls).2.log = (t.run others).2.log ∧
    (t.run calls).2.replies = (t.run others).2.replies ∧
    List.Forall₂ (Agree fun a b => a.withoutCredentials = b.withoutCredentials)
      (t.run calls).1 (t.run others).1 := by
  have left := run_withoutCredentials t calls
  have right := run_withoutCredentials t others
  rw [same, right] at left
  obtain ⟨results, transcripts⟩ := Prod.mk.inj left
  refine ⟨?_, ?_, ?_, ?_⟩
  · apply (forall₂_of_map_eq (congrArg requests transcripts).symm).imp
    intro a b alike
    obtain ⟨endpoint, body, headers⟩ := WireRequest.mk.inj alike
    obtain ⟨accept, -, ns, db⟩ := Connection.Headers.mk.inj headers
    exact ⟨endpoint, body, accept, ns, db⟩
  · exact (congrArg log transcripts).symm
  · exact (congrArg replies transcripts).symm
  · apply (forall₂_of_map_eq results.symm).imp
    intro a b alike
    exact Agree.of_map_eq alike

/-- A user with a password and the bearer of a token define a table, look for a record in it,
and ask for what the database holds; the second reply is a failure of the transport. -/
theorem run_credentials_bearer :
    let _ : Wording := .terse
    let user : Connection.Options := { user := some "ann", pass := some "secret" }
    let bearer : Connection.Options := { token := some "key" }
    let fruits (options : Connection.Options) : Collection Json := {
      client := {
        endpoint := "http://db"
        options := { options with ns := some "shop" }
        logging := true }
      model := ⟨⟨0, "Fruit"⟩, some, Wording.row "Fruit"⟩
      schema := ⟨⟨0, "Fruit"⟩, { table := "fruit" }, [], [], []⟩
      options }
    let calls (options : Connection.Options) : List (Call Json) := [
      .synchronize (fruits options),
      .findById (fruits options) "fruit:1" { options },
      .queryRaw (fruits options).client ⟨"INFO FOR DB"⟩ .empty options]
    let t : Transcript := { replies := [.ok (.array []), .error "closed"] }
    (calls user).map Call.withoutCredentials = (calls bearer).map Call.withoutCredentials ∧
    List.Forall₂ (fun a b => a.endpoint = b.endpoint ∧ a.body = b.body ∧
        a.headers.accept = b.headers.accept ∧ a.headers.ns = b.headers.ns ∧
        a.headers.db = b.headers.db)
      (t.run (calls user)).2.requests (t.run (calls bearer)).2.requests ∧
    (t.run (calls user)).2.log = (t.run (calls bearer)).2.log ∧
    (t.run (calls user)).2.replies = (t.run (calls bearer)).2.replies ∧
    List.Forall₂ (Agree fun a b => a.withoutCredentials = b.withoutCredentials)
      (t.run (calls user)).1 (t.run (calls bearer)).1 := by
  intro _ user bearer fruits calls t
  have same : (calls user).map Call.withoutCredentials =
      (calls bearer).map Call.withoutCredentials := rfl
  exact ⟨same, run_credentials t same⟩

end Transcript

end RecordMapper
