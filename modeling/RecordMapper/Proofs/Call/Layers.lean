import RecordMapper.Proofs.Call.Log
import RecordMapper.Proofs.Connection.Authorization
import RecordMapper.Proofs.Connection.Layers

/-!
The layers of options under which a call goes: those of its client, those of its collection, and
those given for the call alone. The headers of its request come of these three layers, as if they
were merged from the lowest on, and of nothing else (`Call.headers_request?`); in a run each request
goes under the layers of its own call (`Transcript.run_layers`). A token counts before user and
password in whatever layer it is set, so what a call gives as user and password is sent only where
no layer has a token (`Transcript.perform_password`).
-/

namespace RecordMapper

open Connection
open Connection.Options (layered Field LastSets Grouped)

/-- Where a request goes, and its body. -/
def WireRequest.content (request : WireRequest) : String × String :=
  (request.endpoint, request.body)

namespace Call

variable {α : Type}

/-- The options of the collection of a call. A client has none when it is called itself, and none
are set for a collection that it folds the schema of. -/
def collectionOptions : Call α → Options
  | .bind _ _ _ options => options
  | .synchronize c | .create c _ | .findMany c _ | .findById c _ _ | .update c _ | .assign c _
  | .delete c _ => c.options
  | .collection _ _ _ | .query _ _ _ _ _ | .queryRaw _ _ _ _ | .queryLast _ _ _ _ _
  | .queryLastArray _ _ _ _ _ | .relate _ _ _ _ _ _ => {}

/-- The options that are given for the call alone. There are none for defining a table. -/
def ownOptions : Call α → Options
  | .collection _ _ _ | .bind _ _ _ _ | .synchronize _ => {}
  | .create _ request => request.options
  | .findMany _ request => request.options
  | .findById _ _ request => request.options
  | .update _ request => request.options
  | .assign _ request => request.options
  | .delete _ request => request.options
  | .query _ _ _ _ options | .queryRaw _ _ _ options | .queryLast _ _ _ _ options
  | .queryLastArray _ _ _ _ options | .relate _ _ _ _ _ options => options

/-- The layers of options of a call, from the lowest on. -/
def layers (call : Call α) : List Options :=
  [call.client.options, call.collectionOptions, call.ownOptions]

/-- The call with other options of its own. -/
def withOwnOptions (options : Options) : Call α → Call α
  | .collection client registry model => .collection client registry model
  | .bind client model schema bound => .bind client model schema bound
  | .synchronize c => .synchronize c
  | .create c request => .create c { request with options }
  | .findMany c request => .findMany c { request with options }
  | .findById c id request => .findById c id { request with options }
  | .update c request => .update c { request with options }
  | .assign c request => .assign c { request with options }
  | .delete c request => .delete c { request with options }
  | .query client statement vars mode _ => .query client statement vars mode options
  | .queryRaw client statement vars _ => .queryRaw client statement vars options
  | .queryLast client reader statement vars _ => .queryLast client reader statement vars options
  | .queryLastArray client reader statement vars _ =>
    .queryLastArray client reader statement vars options
  | .relate client source edge target data _ => .relate client source edge target data options

/-! ## The layers of one call -/

theorem exists_of_compiled {compiled : Result Query} {made : Query → Errand α} {errand : Errand α}
    (accepted : (compiled >>= fun query => pure (made query)) = .ok errand) :
    ∃ query, errand = made query := by
  obtain ⟨query, -, accepted⟩ := exists_of_bind_eq_ok accepted
  cases accepted
  exact ⟨query, rfl⟩

theorem layered_layers (call : Call α) : layered call.layers =
    call.client.options.merged (call.collectionOptions.merged call.ownOptions) := by
  rw [layers, Options.layered_cons, Options.layered_cons, Options.layered_singleton]

/-- A field is what the call sets it to, else what its collection does, else what its client
does. -/
theorem get?_layers (call : Call α) (field : Field) :
    (layered call.layers).get? field = ((call.ownOptions.get? field).or
      (call.collectionOptions.get? field)).or (call.client.options.get? field) := by
  rw [layered_layers, Options.get?_merged, Options.get?_merged]

variable [Wording]

/-- The options of an errand are those of the collection of its call and those of the call. -/
theorem options_errand {call : Call α} {errand : Errand α} (accepted : call.errand = .ok errand) :
    errand.options = call.collectionOptions.merged call.ownOptions := by
  cases call with
  | collection client registry model =>
    obtain ⟨schema, -, accepted⟩ := exists_of_bind_eq_ok accepted
    obtain ⟨answer, text, rfl⟩ := exists_definitions_of_ofBinding accepted
    exact (Options.merged_empty _).symm
  | bind client model schema options =>
    obtain ⟨answer, text, rfl⟩ := exists_definitions_of_ofBinding accepted
    exact (Options.merged_empty _).symm
  | synchronize c =>
    obtain ⟨text, -, accepted⟩ := exists_of_bind_eq_ok accepted
    cases accepted
    exact (Options.merged_empty _).symm
  | create c request | findMany c request | findById c id request | update c request
  | assign c request | delete c request =>
    obtain ⟨query, rfl⟩ := exists_of_compiled accepted
    rfl
  | query client statement vars mode options | queryRaw client statement vars options
  | queryLast client reader statement vars options
  | queryLastArray client reader statement vars options =>
    cases accepted
    exact (Options.empty_merged _).symm
  | relate client source edge target data options =>
    obtain ⟨query, rfl⟩ := exists_of_compiled accepted
    exact (Options.empty_merged _).symm

/-- A request goes under the headers of all layers of its call. -/
theorem headers_request? {call : Call α} {request : WireRequest}
    (sent : call.request? = some request) :
    request.headers = Headers.ofOptions (layered call.layers) := by
  unfold request? at sent
  cases prepared : call.prepared with
  | error cause => rw [prepared] at sent; cases sent
  | ok ready =>
    rw [prepared] at sent
    cases sent
    obtain ⟨errand, accepted, prepared⟩ := exists_of_bind_eq_ok prepared
    obtain ⟨body, rendered, prepared⟩ := exists_of_bind_eq_ok prepared
    cases prepared
    change Headers.ofOptions (errand.client.options.merged errand.options) = _
    rw [(carries_errand accepted).client, options_errand accepted, layered_layers]

/-! ## Other options of a call -/

/-- Options of a call change nothing about what is compiled, and for which client. -/
theorem errand_withOwnOptions (call : Call α) (options : Options) :
    Agree (fun a b => a.client = b.client ∧ a.query = b.query)
      (call.withOwnOptions options).errand call.errand := by
  have compiled {query : Result Query} {made other : Query → Errand α}
      (same : ∀ q, (made q).client = (other q).client ∧ (made q).query = (other q).query) :
      Agree (fun a b => a.client = b.client ∧ a.query = b.query)
        (query >>= fun q => pure (made q)) (query >>= fun q => pure (other q)) := by
    have alike : Agree Eq query query := Agree.of_ok fun _ _ => rfl
    refine alike.bind fun q r equal => ?_
    cases equal
    exact same q
  cases call with
  | collection client registry model | bind client model schema bound | synchronize c =>
    exact Agree.of_ok fun _ _ => ⟨rfl, rfl⟩
  | create c request | findMany c request | findById c id request | update c request
  | assign c request | delete c request | relate client source edge target data own =>
    exact compiled fun _ => ⟨rfl, rfl⟩
  | query client statement vars mode own | queryRaw client statement vars own
  | queryLast client reader statement vars own
  | queryLastArray client reader statement vars own =>
    exact ⟨rfl, rfl⟩

/-- The options of a call are nothing to whether it sends a request, where to and with what
body. -/
theorem request?_withOwnOptions (call : Call α) (options : Options) :
    (call.withOwnOptions options).request?.map WireRequest.content =
      call.request?.map WireRequest.content := by
  have ready : Agree (fun a b => a.1.client = b.1.client ∧ a.2 = b.2)
      (call.withOwnOptions options).prepared call.prepared := by
    refine (call.errand_withOwnOptions options).bind fun a b same => ?_
    have rendered : Agree Eq a.query.render b.query.render := same.2 ▸ Agree.of_ok fun _ _ => rfl
    exact rendered.bind fun _ _ equal => ⟨same.1, equal⟩
  unfold request?
  cases after : (call.withOwnOptions options).prepared with
  | error cause =>
    cases before : call.prepared with
    | error other => rfl
    | ok done => rw [after, before] at ready; exact ready.elim
  | ok done =>
    cases before : call.prepared with
    | error other => rw [after, before] at ready; exact ready.elim
    | ok first =>
      rw [after, before] at ready
      obtain ⟨client, body⟩ := ready
      simp [WireRequest.content, Errand.request, client, body]

end Call

/-! ## Runs -/

namespace Transcript

variable {α : Type}

/-- Of the layers of a field the last that sets it counts, in whatever grouping they are merged. In
a run each request goes under the namespace and the database of its own call, else of the
collection, else of the client, else under none; other options of a call only change the headers
of its own request. -/
theorem run_layers [Wording] :
    (∀ (layers : List Options) (field : Field),
      (∀ text, (layered layers).get? field = some text ↔ LastSets layers field text) ∧
      ((layered layers).get? field = none ↔ ∀ layer ∈ layers, layer.get? field = none)) ∧
    (∀ layers options, Grouped layers options ↔ options = layered layers) ∧
    (∀ a b c : Options, (a.merged b).merged c = a.merged (b.merged c)) ∧
    (∀ options : Options, options.merged {} = options ∧ Options.merged {} options = options) ∧
    (∀ below above : Options, (below.merged above).merged above = below.merged above) ∧
    ∀ (t : Transcript) (calls : List (Call α)),
      (t.run calls).2.requests = t.requests ++ calls.filterMap Call.request? ∧
      (∀ call ∈ calls, ∀ request, call.request? = some request →
        let client := call.client.options
        let collection := call.collectionOptions
        let own := call.ownOptions
        request.headers = Headers.ofOptions (layered [client, collection, own]) ∧
        request.headers.value? "NS" = some (((own.ns.or collection.ns).or client.ns).getD "") ∧
        request.headers.value? "DB" = some (((own.db.or collection.db).or client.db).getD "")) ∧
      ∀ before call after, calls = before ++ call :: after → ∀ options,
        (t.run (before ++ call.withOwnOptions options :: after)).2.requests =
          t.requests ++ before.filterMap Call.request? ++
            (call.withOwnOptions options).request?.toList ++ after.filterMap Call.request? ∧
        (call.withOwnOptions options).request?.map WireRequest.content =
          call.request?.map WireRequest.content := by
  refine ⟨fun layers field => ⟨fun text => Options.get?_layered_eq_some_iff,
      Options.get?_layered_eq_none_iff⟩, fun layers options => Options.grouped_iff,
    Options.merged_assoc, fun options => ⟨options.merged_empty, options.empty_merged⟩,
    Options.merged_twice, fun t calls => ⟨(run_sent t calls).1, ?_, ?_⟩⟩
  · intro call _ request sent client collection own
    have headers := Call.headers_request? sent
    have ns := Call.get?_layers call .ns
    have db := Call.get?_layers call .db
    refine ⟨headers, ?_, ?_⟩
    · rw [Headers.value?_ns, headers]
      exact congrArg (fun text => some (text.getD "")) ns
    · rw [Headers.value?_db, headers]
      exact congrArg (fun text => some (text.getD "")) db
  · rintro before call after - options
    refine ⟨?_, call.request?_withOwnOptions options⟩
    rw [(run_sent t _).1, List.filterMap_append, List.filterMap_cons]
    cases sent : (call.withOwnOptions options).request? <;> simp

/-- Where a call gives a user and a password but no token, its request carries them, unless a layer
below has a token: then it carries the token of the collection, else that of the client. Where a
call gives no credential at all, the same goes for the user and the password of the collection and
a token of the client. -/
theorem perform_password [Wording] (t : Transcript) (call : Call α) :
    (t.perform call.operation).2.requests = t.requests ++ call.request?.toList ∧
    ∀ request, call.request? = some request →
      let client := call.client.options
      let collection := call.collectionOptions
      let own := call.ownOptions
      let authorization := request.headers.value? "Authorization"
      (∀ user pass, own.user = some user → own.pass = some pass → own.token = none →
        (collection.token = none → client.token = none →
          authorization = some ("Basic " ++ Base64.encodeText (user ++ ":" ++ pass))) ∧
        ∀ token, collection.token.or client.token = some token →
          authorization = some ("Bearer " ++ token)) ∧
      ∀ user pass, own.user = none → own.pass = none → own.token = none →
        collection.user = some user → collection.pass = some pass → collection.token = none →
        (client.token = none →
          authorization = some ("Basic " ++ Base64.encodeText (user ++ ":" ++ pass))) ∧
        ∀ token, client.token = some token → authorization = some ("Bearer " ++ token) := by
  refine ⟨by rw [perform_call], ?_⟩
  intro request sent client collection own authorization
  have carried : authorization = ((client.merged collection).merged own).authorization? := by
    change request.headers.value? "Authorization" = _
    rw [Headers.value?_authorization, Call.headers_request? sent, Call.layered_layers,
      ← Options.merged_assoc]
    rfl
  have below : (client.merged collection).token = collection.token.or client.token := rfl
  rw [carried]
  constructor
  · intro user pass ownUser ownPass ownToken
    obtain ⟨basic, bearer⟩ := Options.authorization?_merged_of_password
      ownToken ownUser ownPass
    refine ⟨fun collectionToken clientToken => basic ?_, bearer⟩
    rw [below, collectionToken, clientToken]
    rfl
  · intro user pass ownUser ownPass ownToken collectionUser collectionPass collectionToken
    rw [Options.authorization?_merged_of_none ownToken ownUser ownPass]
    exact Options.authorization?_merged_of_password collectionToken collectionUser collectionPass

/-- The token of a client goes before the user and the password that are given for a call, and
before those of a collection. -/
theorem password_under_token :
    let _ : Wording := .terse
    let client : Client := { endpoint := "http://db", options := { token := some "key" } }
    let password : Options := { user := some "ann", pass := some "secret" }
    let fruits : Collection Json :=
      { client, model := ⟨⟨0, "Fruit"⟩, some, Wording.row "Fruit"⟩
        schema := ⟨⟨0, "Fruit"⟩, { table := "fruit" }, [], [], []⟩, options := password }
    let calls : List (Call Json) :=
      [.queryRaw client ⟨"INFO FOR DB"⟩ .empty password, .findById fruits "fruit:1" {}]
    let authorizations := (({} : Transcript).run calls).2.requests.map
      fun request => request.headers.value? "Authorization"
    authorizations = [some "Bearer key", some "Bearer key"] ∧
    some ("Basic " ++ Base64.encodeText "ann:secret") ∉ authorizations := by
  decide

end Transcript

end RecordMapper
