import RecordMapper.Proofs.Reply.Classification

/-!
Entries on the wire. A written entry denotes itself (`Entry.denoted_toJson`), so a batch that
is written entry by entry and read as a whole comes back as it was, unless its first entry has
failed. An entry may have been read from other spellings than the written one, as an array of
its fields, or with a message in place of rows; what it keeps of them is said by
`Entry.Denoted.rows_eq_some_iff` and `Entry.Denoted.detail_eq_some_iff`, and writing it and
reading it again changes nothing more (`interpret_written`).
-/

namespace RecordMapper.Reply

namespace Entry

theorem denoted_toJson (entry : Entry) : Denoted entry.toJson entry := by
  obtain ⟨time, status, rows, detail⟩ := entry
  refine ⟨(rows.map Json.array).getD .null, detail, ?_, ?_⟩
  · -- a written entry has three members or four, so that each look-up is one of few
    constructor
    · trivial
    · cases detail <;> rfl
    · exact ⟨.string status.word, by cases detail <;> rfl, .inl rfl⟩
    · cases detail <;> cases rows <;> rfl
    · cases detail <;> rfl
  · cases rows with
    | none => exact .null
    | some rows => exact .rows rows

/-- Reading a written entry gives it back. -/
theorem ofJson_toJson [Wording] (entry : Entry) : ofJson entry.toJson = .ok entry :=
  ofJson_eq_ok_iff.2 entry.denoted_toJson

/-! ## What is kept of other spellings -/

theorem given_eq_some_of_getD {given : Option Json} {value : Json} (present : value ≠ .null)
    (same : given.getD .null = value) : given = some value := by
  cases given with
  | none => exact absurd same.symm present
  | some other => exact congrArg some same

/-- The rows of an entry are those that the value gives, all of them and no others. -/
theorem Denoted.rows_eq_some_iff {json : Json} {entry : Entry} (denotes : Denoted json entry)
    {rows : List Json} :
    entry.rows = some rows ↔ given? 2 "result" json = some (.array rows) := by
  obtain ⟨result, detail, envelope, gives⟩ := denotes
  have read : given? 2 "result" json = some (.array rows) ↔ result = .array rows := by
    rw [← envelope.result_eq]
    refine ⟨fun given => by rw [given]; rfl, given_eq_some_of_getD (by simp)⟩
  rw [read]
  generalize entry.rows = kept at gives ⊢
  generalize entry.detail = told at gives
  cases gives <;> simp

/-- The detail of an entry is the one that the value gives, or where it gives none the message
in place of rows. -/
theorem Denoted.detail_eq_some_iff {json : Json} {entry : Entry} (denotes : Denoted json entry)
    {text : String} :
    entry.detail = some text ↔ given? 3 "detail" json = some (.string text) ∨
      (given? 3 "detail" json).getD .null = .null ∧
        given? 2 "result" json = some (.string text) := by
  obtain ⟨result, detail, envelope, gives⟩ := denotes
  have message : given? 2 "result" json = some (.string text) ↔ result = .string text := by
    rw [← envelope.result_eq]
    refine ⟨fun given => by rw [given]; rfl, given_eq_some_of_getD (by simp)⟩
  have told : given? 3 "detail" json = some (.string text) ↔ detail = some text := by
    constructor
    · intro given
      have same := envelope.detail_eq
      rw [given] at same
      cases detail with
      | none => cases same
      | some other => exact congrArg some (Json.string.inj same).symm
    · rintro rfl
      exact given_eq_some_of_getD (by simp) envelope.detail_eq
  have silent : (given? 3 "detail" json).getD .null = .null ↔ detail = none := by
    rw [envelope.detail_eq]
    cases detail <;> simp [Json.ofText?]
  rw [message, told, silent]
  generalize entry.rows = kept at gives
  generalize entry.detail = given at gives ⊢
  cases gives with
  | null => simp
  | rows items => simp
  | message other failed => cases detail <;> simp

end Entry

/-! ## Batches -/

theorem batched_map_toJson (batch : List Entry) :
    Batched (.array (batch.map Entry.toJson)) batch :=
  ⟨_, rfl, List.forall₂_map_left_iff.2
    (List.forall₂_same.2 fun entry _ => entry.denoted_toJson)⟩

/-- A batch that is written and read as a whole comes back as it was, and if its first entry
has failed, that entry comes back as the failure. An entry that has been read from any
spelling comes back the same when it is written and read again: its time and its status are
those that were given, its rows are exactly the given ones, and its detail is the given one,
or else the message in place of rows. -/
theorem interpret_written [Wording] (batch : List Entry) (json : Json) :
    (∀ first, FirstFailed batch first →
      interpret (.array (batch.map Entry.toJson)) .raw =
        .error (.remote (.statementFailed first))) ∧
    ((∀ first, ¬FirstFailed batch first) →
      interpret (.array (batch.map Entry.toJson)) .raw = .ok (.raw batch)) ∧
    ∀ entry, Entry.ofJson json = .ok entry →
      Entry.ofJson entry.toJson = .ok entry ∧
      Entry.given? 0 "time" json = some (.string entry.time) ∧
      (∃ word, Entry.given? 1 "status" json = some word ∧ entry.status.Spelled word) ∧
      (∀ rows, entry.rows = some rows ↔
        Entry.given? 2 "result" json = some (.array rows)) ∧
      ∀ text, entry.detail = some text ↔
        Entry.given? 3 "detail" json = some (.string text) ∨
          (Entry.given? 3 "detail" json).getD .null = .null ∧
            Entry.given? 2 "result" json = some (.string text) := by
  refine ⟨fun first starts => ?_, fun never => ?_, fun entry read => ?_⟩
  · exact interpret_of_classified (.firstFailed (batched_map_toJson batch) starts)
  · exact interpret_of_classified (.raw (batched_map_toJson batch) never)
  · have denotes := Entry.ofJson_eq_ok_iff.1 read
    have ⟨_, _, envelope, _⟩ := denotes
    exact ⟨entry.ofJson_toJson, envelope.time_eq, envelope.status_spelled,
      fun _ => denotes.rows_eq_some_iff, fun _ => denotes.detail_eq_some_iff⟩

end RecordMapper.Reply
