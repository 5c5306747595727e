import RecordMapper.Reply.Entry

/-!
What counts as an entry of a reply. `Entry.Envelope` says what a JSON value gives for the
four fields of an entry, as members of an object or as items of an array in their order, and
`Entry.Gives` what rows and what detail come from the result of a statement. From the two
come the values that denote an entry (`Entry.Denoted`) and the causes for which a value is
refused (`Entry.Refused`); reading does exactly what they say (`Entry.ofJson_eq_ok_iff`,
`Entry.ofJson_eq_error_iff`), so that each value is either an entry or refused.
-/

namespace RecordMapper.Reply

/-- A status is spelled as its word, or as an object that holds nothing but the word. -/
def Status.Spelled (status : Status) (json : Json) : Prop :=
  json = .string status.word ∨ json = .object [(status.word, .null)]

theorem Status.ofWord?_eq_some_iff {word : String} {status : Status} :
    Status.ofWord? word = some status ↔ word = status.word := by
  constructor
  · intro read
    unfold Status.ofWord? at read
    split at read
    · cases read; assumption
    · split at read
      · cases read; assumption
      · cases read
  · rintro rfl
    cases status <;> decide

theorem Status.ofJson?_eq_some_iff {json : Json} {status : Status} :
    Status.ofJson? json = some status ↔ status.Spelled json := by
  constructor
  · intro read
    unfold Status.ofJson? at read
    split at read
    · exact .inl (congrArg Json.string (ofWord?_eq_some_iff.1 read))
    · exact .inr (by rw [ofWord?_eq_some_iff.1 read])
    · cases read
  · rintro (rfl | rfl)
    · exact Status.ofJson?_word status
    · exact ofWord?_eq_some_iff.2 rfl

namespace Entry

/-- An entry is written as an object or as an array of at most its four fields. -/
def Shaped : Json → Prop
  | .object _ => True
  | .array items => items.length ≤ 4
  | _ => False

/-- What a value gives for a field: the member of its name, or the item in its place. -/
def given? (place : Nat) (name : String) : Json → Option Json
  | .object members => Members.get? name members
  | .array items => items[place]?
  | _ => none

/-- The four fields of an entry as a value gives them. A result that is left out is null, and
so is a detail. -/
structure Envelope (json : Json) (time : String) (status : Status) (result : Json)
    (detail : Option String) : Prop where
  shaped : Shaped json
  time_eq : given? 0 "time" json = some (.string time)
  status_spelled : ∃ word, given? 1 "status" json = some word ∧ status.Spelled word
  result_eq : (given? 2 "result" json).getD .null = result
  detail_eq : (given? 3 "detail" json).getD .null = .ofText? detail

/-- The rows and the detail that come from a result: none of its own from null, its items from
an array, and from the text of a failed statement a detail, unless there is one. -/
inductive Gives (status : Status) (detail : Option String) :
    Json → Option (List Json) → Option String → Prop
  | null : Gives status detail .null none detail
  | rows (items : List Json) : Gives status detail (.array items) (some items) detail
  | message (text : String) :
    status = .err → Gives status detail (.string text) none (detail.or (some text))

/-- The value denotes the entry. -/
def Denoted (json : Json) (entry : Entry) : Prop :=
  ∃ result detail, Envelope json entry.time entry.status result detail ∧
    Gives entry.status detail result entry.rows entry.detail

/-- The value denotes no entry: either its fields are not those of one, or nothing comes from
its result. -/
inductive Refused [Wording] (json : Json) : DecodeError → Prop
  | fields : (∀ time status result detail, ¬Envelope json time status result detail) →
    Refused json (.malformed (Wording.entry json))
  | result {time : String} {status : Status} {result : Json} {detail : Option String} :
    Envelope json time status result detail →
    (∀ rows told, ¬Gives status detail result rows told) → Refused json (.resultShape result)

/-! ## Fields -/

/-- The members read from a value are those that it gives. -/
theorem fields?_eq_some {json : Json} {fields : List (String × Json)}
    (read : json.fields? fieldNames = some fields) :
    Shaped json ∧ Json.field? "time" fields = given? 0 "time" json ∧
      Json.field? "status" fields = given? 1 "status" json ∧
      Json.field? "result" fields = given? 2 "result" json ∧
      Json.field? "detail" fields = given? 3 "detail" json := by
  cases json with
  | object members =>
    cases read
    exact ⟨trivial, rfl, rfl, rfl, rfl⟩
  | array items =>
    have fits : items.length ≤ 4 ∧ fieldNames.zip items = fields := by
      simpa [Json.fields?, fieldNames] using read
    obtain ⟨fits, rfl⟩ := fits
    -- the places are four, so that the array has one of five lengths
    match items, fits with
    | [], _ => exact ⟨by simp [Shaped], rfl, rfl, rfl, rfl⟩
    | [a], _ => exact ⟨by simp [Shaped], rfl, rfl, rfl, rfl⟩
    | [a, b], _ => exact ⟨by simp [Shaped], rfl, rfl, rfl, rfl⟩
    | [a, b, c], _ => exact ⟨by simp [Shaped], rfl, rfl, rfl, rfl⟩
    | [a, b, c, d], _ => exact ⟨by simp [Shaped], rfl, rfl, rfl, rfl⟩
    | a :: b :: c :: d :: e :: rest, fits =>
      simp only [List.length_cons] at fits
      omega
  | _ => cases read

theorem exists_fields?_of_shaped {json : Json} (shaped : Shaped json) :
    ∃ fields, json.fields? fieldNames = some fields := by
  cases json with
  | object members => exact ⟨members, rfl⟩
  | array items =>
    have fits : items.length ≤ fieldNames.length := shaped
    exact ⟨fieldNames.zip items, by rw [Json.fields?, if_pos fits]⟩
  | _ => exact shaped.elim

theorem requiredText?_eq_some_iff {name text : String} {fields : List (String × Json)} :
    Json.requiredText? name fields = some text ↔ Json.field? name fields = some (.string text) := by
  unfold Json.requiredText?
  constructor
  · intro read
    obtain ⟨json, found, read⟩ := Option.bind_eq_some_iff.1 read
    cases json with
    | string s => rw [found, Option.some.inj read]
    | _ => cases read
  · intro found
    rw [found]
    rfl

theorem optionalText?_eq_some_iff {name : String} {text : Option String}
    {fields : List (String × Json)} :
    Json.optionalText? name fields = some text ↔
      (Json.field? name fields).getD .null = .ofText? text := by
  unfold Json.optionalText?
  cases Json.field? name fields with
  | none => cases text <;> simp [Json.ofText?]
  | some json => cases json <;> cases text <;> simp [Json.ofText?]

/-- The fields before the result is looked at are those of the envelope. -/
theorem parts?_eq_some_iff {json : Json} {time : String} {status : Status} {result : Json}
    {detail : Option String} :
    parts? json = some (time, status, result, detail) ↔
      Envelope json time status result detail := by
  constructor
  · intro read
    obtain ⟨fields, members, read⟩ := Option.bind_eq_some_iff.1 read
    obtain ⟨time', timed, read⟩ := Option.bind_eq_some_iff.1 read
    obtain ⟨status', stated, read⟩ := Option.bind_eq_some_iff.1 read
    obtain ⟨detail', detailed, read⟩ := Option.bind_eq_some_iff.1 read
    cases read
    obtain ⟨word, worded, spelled⟩ := Option.bind_eq_some_iff.1 stated
    obtain ⟨shaped, timeField, statusField, resultField, detailField⟩ := fields?_eq_some members
    exact {
      shaped
      time_eq := timeField ▸ requiredText?_eq_some_iff.1 timed
      status_spelled := ⟨word, statusField ▸ worded, Status.ofJson?_eq_some_iff.1 spelled⟩
      result_eq := by rw [resultField]
      detail_eq := detailField ▸ optionalText?_eq_some_iff.1 detailed }
  · intro envelope
    obtain ⟨fields, members⟩ := exists_fields?_of_shaped envelope.shaped
    obtain ⟨-, timeField, statusField, resultField, detailField⟩ := fields?_eq_some members
    obtain ⟨word, worded, spelled⟩ := envelope.status_spelled
    have timed := requiredText?_eq_some_iff.2 (timeField.trans envelope.time_eq)
    have stated : (Json.field? "status" fields).bind Status.ofJson? = some status := by
      rw [statusField, worded]
      exact Status.ofJson?_eq_some_iff.2 spelled
    have detailed := optionalText?_eq_some_iff.2 (detailField ▸ envelope.detail_eq)
    simp only [parts?, members, timed, stated, detailed, resultField, envelope.result_eq,
      Option.bind_eq_bind, Option.bind_some, Option.pure_def]

/-! ## Results -/

theorem ofResult_eq_ok_iff {time : String} {status : Status} {result : Json}
    {detail : Option String} {entry : Entry} :
    ofResult time status result detail = .ok entry ↔
      entry.time = time ∧ entry.status = status ∧
        Gives status detail result entry.rows entry.detail := by
  constructor
  · intro read
    unfold ofResult at read
    split at read
    · cases read; exact ⟨rfl, rfl, .null⟩
    · cases read; exact ⟨rfl, rfl, .rows _⟩
    · split at read
      · cases read; exact ⟨rfl, rfl, .message _ ‹_›⟩
      · cases read
    · cases read
  · obtain ⟨time', status', rows, told⟩ := entry
    rintro ⟨rfl, rfl, gives⟩
    cases gives with
    | null => rfl
    | rows items => rfl
    | message text failed => exact if_pos failed

/-- A result from which nothing comes is named in the refusal. -/
theorem ofResult_eq_error {time : String} {status : Status} {result : Json}
    {detail : Option String} {cause : DecodeError}
    (read : ofResult time status result detail = .error cause) : cause = .resultShape result := by
  unfold ofResult at read
  split at read
  · cases read
  · cases read
  · split at read
    · cases read
    · cases read; rfl
  · cases read; rfl

/-! ## Entries -/

variable [Wording]

/-- Reading gives an entry exactly where the value denotes it. -/
theorem ofJson_eq_ok_iff {json : Json} {entry : Entry} :
    ofJson json = .ok entry ↔ Denoted json entry := by
  unfold ofJson
  constructor
  · intro read
    split at read
    · cases read
    · rename_i time status result detail parts
      obtain ⟨rfl, rfl, gives⟩ := ofResult_eq_ok_iff.1 read
      exact ⟨result, detail, parts?_eq_some_iff.1 parts, gives⟩
  · rintro ⟨result, detail, envelope, gives⟩
    rw [parts?_eq_some_iff.2 envelope]
    exact ofResult_eq_ok_iff.2 ⟨rfl, rfl, gives⟩

/-- Reading fails exactly where the value is refused, and for the same cause. -/
theorem ofJson_eq_error_iff {json : Json} {cause : DecodeError} :
    ofJson json = .error cause ↔ Refused json cause := by
  unfold ofJson
  constructor
  · intro read
    split at read
    · rename_i missing
      cases read
      refine .fields fun time status result detail envelope => ?_
      rw [parts?_eq_some_iff.2 envelope] at missing
      cases missing
    · rename_i time status result detail parts
      cases ofResult_eq_error read
      refine .result (parts?_eq_some_iff.1 parts) fun rows told gives => ?_
      have given : ofResult time status result detail = .ok ⟨time, status, rows, told⟩ :=
        ofResult_eq_ok_iff.2 ⟨rfl, rfl, gives⟩
      rw [given] at read
      cases read
  · intro refused
    cases refused with
    | fields none =>
      cases parts : parts? json with
      | none => rfl
      | some found => exact absurd (parts?_eq_some_iff.1 parts) (none _ _ _ _)
    | @result time status result detail envelope none =>
      rw [parts?_eq_some_iff.2 envelope]
      cases read : ofResult time status result detail with
      | error cause => exact read.trans (congrArg Except.error (ofResult_eq_error read))
      | ok entry => exact absurd (ofResult_eq_ok_iff.1 read).2.2 (none _ _)

end Entry

end RecordMapper.Reply
