import RecordMapper.Proofs.Call.Refusal

/-!
Runs of calls. A call that is refused sends nothing and takes no reply; every other call sends
exactly one request and takes the reply to it. So the requests of a run are those of its
calls in order, and the result of each call follows from the call and its own reply
(`Transcript.run_requests`).
-/

namespace RecordMapper

namespace Call

variable {α : Type} [Wording]

/-- The request that a call sends, if it sends one. -/
def request? (call : Call α) : Option WireRequest :=
  match call.prepared with
  | .error _ => none
  | .ok (errand, body) => some (errand.request body)

/-- What a call comes to under the outcome of its request; a refused call ignores it. -/
def result (call : Call α) (outcome : Outcome) : Result (Answer α) :=
  match call.prepared with
  | .error cause => .error cause
  | .ok (errand, _) => (errand.settle outcome).1

/-- What the log tells of a call and the outcome of its request. -/
def entries (call : Call α) (outcome : Outcome) : List LogEntry :=
  match call.prepared with
  | .error _ => []
  | .ok (errand, body) => errand.announcement body ++ (errand.settle outcome).2

/-- The call is refused with an error, and nothing is sent for it. -/
structure Refused (call : Call α) (result : Result (Answer α)) : Prop where
  request : call.request? = none
  refusal : ∃ cause, result = .error cause ∧ cause.isRefusal

/-- The query of the call is rendered and sent to the address for statements. Its result
follows from the outcome of this request, and an error has come with the outcome. -/
structure Dispatched (call : Call α) (outcome : Outcome) (result : Result (Answer α)) : Prop where
  rendered : ∃ errand body, call.errand = .ok errand ∧ errand.query.render = .ok body ∧
    call.request? = some ⟨errand.client.endpoint ++ "/sql", body,
      .ofOptions (errand.client.options.merged errand.options)⟩ ∧
    result = (errand.settle outcome).1
  reply : ∀ cause, result = .error cause → cause.isOfReply ∧ ¬cause.isRefusal

/-- A call is refused or dispatched, whatever the outcome. -/
theorem refused_or_dispatched (call : Call α) (outcome : Outcome) :
    call.Refused (call.result outcome) ∨ call.Dispatched outcome (call.result outcome) := by
  cases prepared : call.prepared with
  | error cause =>
    have refused : call.result outcome = .error cause := by rw [result, prepared]
    have unsent : call.request? = none := by rw [request?, prepared]
    exact .inl ⟨unsent, cause, refused, call.prepared_refuses cause prepared⟩
  | ok ready =>
    rcases ready with ⟨errand, body⟩
    have settled : call.result outcome = (errand.settle outcome).1 := by
      rw [result, prepared]
    have sent : call.request? = some (errand.request body) := by rw [request?, prepared]
    have afterwards := settle_ofReply prepared outcome
    obtain ⟨errand', arguments, ready⟩ := exists_of_bind_eq_ok prepared
    obtain ⟨body', rendered, ready⟩ := exists_of_bind_eq_ok ready
    cases ready
    refine .inr ⟨⟨errand, body, arguments, rendered, sent, settled⟩, fun cause failed => ?_⟩
    have reply := afterwards cause (settled ▸ failed)
    exact ⟨reply, Error.not_isRefusal_of_isOfReply reply⟩

/-- How many requests calls send. -/
def sent (calls : List (Call α)) : Nat := (calls.filterMap request?).length

@[simp] theorem sent_nil : sent ([] : List (Call α)) = 0 := rfl

theorem sent_cons (call : Call α) (rest : List (Call α)) :
    sent (call :: rest) = call.request?.toList.length + sent rest := by
  unfold sent
  cases sending : call.request? with
  | none => simp [sending]
  | some request => simp [sending]; omega

end Call

namespace Transcript

/-- The outcome of the request with a number, counted from the next one. The batch is empty
where no reply is left. -/
def outcome (t : Transcript) (number : Nat) : Outcome :=
  t.replies[number]?.getD (.ok (.array []))

theorem nextReply_eq (t : Transcript) : t.nextReply = t.outcome 0 := by
  rcases t with ⟨replies, requests, log⟩
  cases replies <;> rfl

variable {α : Type} [Wording]

/-- One call appends the request it sends, if any, and takes as many replies. -/
theorem perform_call (t : Transcript) (call : Call α) :
    t.perform call.operation = (call.result (t.outcome 0), {
      replies := t.replies.drop call.request?.toList.length
      requests := t.requests ++ call.request?.toList
      log := t.log ++ call.entries (t.outcome 0) }) := by
  rw [← nextReply_eq]
  cases prepared : call.prepared with
  | error cause =>
    rw [perform_of_refused prepared]
    simp [Call.result, Call.request?, Call.entries, prepared]
  | ok ready =>
    rcases ready with ⟨errand, body⟩
    rw [perform_of_prepared prepared]
    simp [Call.result, Call.request?, Call.entries, prepared, List.append_assoc]

/-- Once a call has been performed, the outcomes that are left are those behind its own. -/
theorem outcome_perform (t : Transcript) (call : Call α) (number : Nat) :
    (t.perform call.operation).2.outcome number =
      t.outcome (call.request?.toList.length + number) := by
  simp only [perform_call, outcome, List.getElem?_drop]

theorem run_cons (t : Transcript) (call : Call α) (rest : List (Call α)) :
    t.run (call :: rest) =
      ((t.perform call.operation).1 :: ((t.perform call.operation).2.run rest).1,
        ((t.perform call.operation).2.run rest).2) := rfl

/-- The requests of a run are those of its calls, and as many replies are taken. -/
theorem run_sent (t : Transcript) (calls : List (Call α)) :
    (t.run calls).2.requests = t.requests ++ calls.filterMap Call.request? ∧
      (t.run calls).2.replies = t.replies.drop (Call.sent calls) := by
  induction calls generalizing t with
  | nil => exact ⟨(List.append_nil _).symm, rfl⟩
  | cons call rest ih =>
    obtain ⟨requests, replies⟩ := ih (t.perform call.operation).2
    rw [run_cons, requests, replies, perform_call]
    constructor
    · cases sending : call.request? <;> simp [sending]
    · rw [Call.sent_cons, List.drop_drop]

theorem length_run (t : Transcript) (calls : List (Call α)) :
    (t.run calls).1.length = calls.length := by
  induction calls generalizing t with
  | nil => rfl
  | cons call rest ih => rw [run_cons, List.length_cons, ih, List.length_cons]

/-- The result of each call is that of the call under the outcome of its own request, which
has the number of the requests sent before. -/
theorem getElem?_run (t : Transcript) (calls : List (Call α)) (i : Nat) :
    (t.run calls).1[i]? =
      calls[i]?.map fun call => call.result (t.outcome (Call.sent (calls.take i))) := by
  induction calls generalizing t i with
  | nil => rfl
  | cons call rest ih =>
    rw [run_cons]
    cases i with
    | zero => simp [perform_call]
    | succ i =>
      simp only [List.getElem?_cons_succ, ih, outcome_perform, List.take_succ_cons, Call.sent_cons]

/-- In every run the requests are, in order, those of the calls that send one, and a reply is
taken for each. A call is either refused, and then nothing is sent for it, or its rendered
query is sent, and then its result follows from the call and the outcome of its own request. -/
theorem run_requests (t : Transcript) (calls : List (Call α)) :
    (t.run calls).2.requests = t.requests ++ calls.filterMap Call.request? ∧
    (t.run calls).2.replies = t.replies.drop (Call.sent calls) ∧
    (t.run calls).1.length = calls.length ∧
    ∀ (i : Nat) (call : Call α), calls[i]? = some call →
      ∃ result, (t.run calls).1[i]? = some result ∧
        (call.Refused result ∨
          call.Dispatched (t.outcome (Call.sent (calls.take i))) result) := by
  obtain ⟨requests, replies⟩ := run_sent t calls
  refine ⟨requests, replies, length_run t calls, fun i call present => ?_⟩
  have given := getElem?_run t calls i
  rw [present, Option.map_some] at given
  exact ⟨_, given, call.refused_or_dispatched _⟩

end Transcript

end RecordMapper
