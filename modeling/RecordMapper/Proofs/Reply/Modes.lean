import RecordMapper.Proofs.Reply.Classification

/-!
Agreement of the modes. A reply that is no batch comes to one error in every mode
(`spoilt_or_batched`). Wanting all rows of a batch is wanting the whole of it and then looking
at its last entry (`interpret_array`), and wanting one row is wanting all rows and taking the
first (`interpret_single`). Outputs of any mode convert to the same rows, and so they do when
they are first made into a batch (`Output.toRows_toBatch`, `Output.toRow?_toBatch`). So the
modes differ in one case only: a batch that fails in its last entry but not in its first is
still given as a whole (`interpret_modes`).
-/

namespace RecordMapper.Reply

/-! ## Conversions -/

/-- The first row is found through the last entry alone. -/
theorem head?_lastRows (batch : List Entry) :
    (lastRows batch).head? = batch.getLast?.bind fun last => last.rows.bind List.head? := by
  unfold lastRows
  cases batch.getLast? with
  | none => rfl
  | some last =>
    rw [Option.bind_some, Option.bind_some]
    cases last.rows <;> rfl

namespace Output

/-- The one row of an output is the first of its rows; a row that is null is a row. -/
theorem head?_toRows (output : Output) : output.toRows.head? = output.toRow? := by
  cases output with
  | raw batch => rfl
  | single row => cases row <;> rfl
  | array rows => rfl

example : (Output.array [.null]).toRow? = some .null ∧ (Output.array []).toRow? = none :=
  ⟨rfl, rfl⟩

theorem toRows_toBatch (output : Output) :
    (Output.raw output.toBatch).toRows = output.toRows := by
  cases output <;> rfl

theorem toRow?_toBatch (output : Output) :
    (Output.raw output.toBatch).toRow? = output.toRow? := by
  rw [← head?_toRows, toRows_toBatch, head?_toRows]

/-- The rows of an output, unless its last entry has failed. -/
def rowsUnlessFailed (output : Output) : Result Output :=
  match output.toBatch.getLast?.filter fun entry => decide (entry.status = .err) with
  | some entry => .error (.remote (.statementFailed entry))
  | none => .ok (.array output.toRows)

end Output

/-! ## Batches in two modes -/

/-- The batch fails in its last entry, and its first entry is fine. -/
def FailsAtEnd (batch : List Entry) : Prop :=
  (∃ first, batch.head? = some first ∧ first.status = .ok) ∧
    ∃ last, batch.getLast? = some last ∧ last.status = .err

theorem failsAtEnd_iff {batch : List Entry} :
    FailsAtEnd batch ↔ (∀ first, ¬FirstFailed batch first) ∧ ∃ last, LastFailed batch last := by
  constructor
  · rintro ⟨⟨first, starts, fine⟩, last, ends, failed⟩
    refine ⟨fun other => ?_, last, ?_⟩
    · rintro ⟨rest, rfl, otherFailed⟩
      cases starts
      rw [fine] at otherFailed
      cases otherFailed
    · obtain ⟨before, split⟩ := List.getLast?_eq_some_iff.1 ends
      exact ⟨before, split, failed⟩
  · rintro ⟨never, last, before, split, failed⟩
    refine ⟨?_, last, List.getLast?_eq_some_iff.2 ⟨before, split⟩, failed⟩
    cases batch with
    | nil => simp at split
    | cons first rest =>
      refine ⟨first, rfl, ?_⟩
      cases status : first.status with
      | ok => rfl
      | err => exact absurd ⟨rest, rfl, status⟩ (never first)

theorem judge_array (batch : List Entry) :
    judge .array batch = judge .raw batch >>= Output.rowsUnlessFailed := by
  by_cases starting : ∃ first, FirstFailed batch first
  · obtain ⟨first, starts⟩ := starting
    rw [judge_of_failed (failure?_of_firstFailed starts .array),
      judge_of_failed (failure?_of_firstFailed starts .raw)]
    rfl
  · have never := not_exists.1 starting
    rw [judge_of_fine (failure?_eq_none_iff.2 ⟨never, .inl rfl⟩), judge,
      failure?_of_not_firstFailed never]
    rfl

theorem judge_single (batch : List Entry) :
    judge .single batch = (judge .array batch).map fun output => .single output.toRow? := by
  have governs : failure? .single batch = failure? .array batch := rfl
  unfold judge
  rw [governs]
  cases failure? .array batch <;> rfl

/-! ## One mode by another -/

variable [Wording]

/-- A payload that is no batch comes to the same error in every mode. -/
theorem spoilt_or_batched (payload : Json) :
    (∃ cause, ∀ mode, interpret payload mode = .error cause) ∨
      ∃ batch, Batched payload batch := by
  cases rejected : rejection? payload with
  | some code => exact .inl ⟨_, fun mode => by rw [interpret, rejected]⟩
  | none =>
    cases read : batchOf payload with
    | error cause => exact .inl ⟨_, fun mode => by rw [interpret, rejected, read]⟩
    | ok batch => exact .inr ⟨batch, batchOf_eq_ok_iff.1 read⟩

/-- All rows are those of the whole batch, unless its last entry has failed. -/
theorem interpret_array (payload : Json) :
    interpret payload .array = interpret payload .raw >>= Output.rowsUnlessFailed := by
  obtain ⟨cause, fails⟩ | ⟨batch, batched⟩ := spoilt_or_batched payload
  · rw [fails, fails]
    rfl
  · rw [interpret_of_batched batched, interpret_of_batched batched, judge_array]

/-- The one row is the first of all rows, and is missing for the same causes. -/
theorem interpret_single (payload : Json) :
    interpret payload .single =
      (interpret payload .array).map fun output => .single output.toRow? := by
  obtain ⟨cause, fails⟩ | ⟨batch, batched⟩ := spoilt_or_batched payload
  · rw [fails, fails]
    rfl
  · rw [interpret_of_batched batched, interpret_of_batched batched, judge_single]

/-! ## Where the modes differ -/

/-- The whole batch is given just where the payload is a batch whose first entry is fine. -/
theorem interpret_raw_eq_ok_iff {payload : Json} {output : Output} :
    interpret payload .raw = .ok output ↔
      ∃ batch, Batched payload batch ∧ (∀ first, ¬FirstFailed batch first) ∧
        output = .raw batch := by
  constructor
  · intro given
    have classified := classified_interpret payload .raw
    rw [given] at classified
    cases classified with
    | raw batched never => exact ⟨_, batched, never, rfl⟩
  · rintro ⟨batch, batched, never, rfl⟩
    exact interpret_of_classified (.raw batched never)

/-- The rows are given just where the whole batch is and its last entry has not failed. -/
theorem interpret_array_eq_ok {payload : Json} {output : Output}
    (given : interpret payload .array = .ok output) :
    ∃ batch, interpret payload .raw = .ok (.raw batch) ∧ output = .array (lastRows batch) := by
  rw [interpret_array] at given
  obtain ⟨whole, raw, checked⟩ := exists_of_bind_eq_ok given
  obtain ⟨batch, -, -, rfl⟩ := interpret_raw_eq_ok_iff.1 raw
  unfold Output.rowsUnlessFailed at checked
  split at checked
  · cases checked
  · cases checked
    exact ⟨batch, raw, rfl⟩

/-- The whole batch is given while its rows are not just where it fails at its end. -/
theorem raw_ok_array_error_iff {payload : Json} :
    (∃ output, interpret payload .raw = .ok output) ∧
      (∃ cause, interpret payload .array = .error cause) ↔
      ∃ batch, Batched payload batch ∧ FailsAtEnd batch := by
  constructor
  · rintro ⟨⟨output, raw⟩, cause, failed⟩
    obtain ⟨batch, batched, never, rfl⟩ := interpret_raw_eq_ok_iff.1 raw
    refine ⟨batch, batched, failsAtEnd_iff.2 ⟨never, ?_⟩⟩
    by_contra fine
    have rows := Classified.array batched never (not_exists.1 fine) (rowsOfLast_iff.2 rfl)
    rw [interpret_of_classified rows] at failed
    cases failed
  · rintro ⟨batch, batched, fails⟩
    obtain ⟨never, last, ends⟩ := failsAtEnd_iff.1 fails
    exact ⟨⟨_, interpret_of_classified (.raw batched never)⟩,
      _, interpret_of_classified (.lastFailed batched never (.inr rfl) ends)⟩

/-- The modes agree. Where all rows are given, so are the whole batch and the one row, and
each of the three converts to these rows and to their first, which is the first of the last
entry. One row and all rows are given for the same payloads, and fail for the same causes; the
whole batch is given where they fail just if it fails at its end but not at its start. An
output converts as it does when it has been made into a batch before. -/
theorem interpret_modes (payload : Json) :
    (∀ output, interpret payload .array = .ok output → ∃ rows batch,
      output = .array rows ∧ interpret payload .raw = .ok (.raw batch) ∧
      interpret payload .single = .ok (.single rows.head?) ∧
      (Output.raw batch).toRows = rows ∧
      (Output.raw batch).toRow? = rows.head? ∧
      (Output.single rows.head?).toRow? = rows.head? ∧
      (Output.array rows).toRow? = rows.head? ∧
      rows.head? = batch.getLast?.bind fun last => last.rows.bind List.head?) ∧
    ((∃ output, interpret payload .single = .ok output) ↔
      ∃ output, interpret payload .array = .ok output) ∧
    (∀ cause, interpret payload .single = .error cause ↔
      interpret payload .array = .error cause) ∧
    ((∃ output, interpret payload .raw = .ok output) ∧
      (∃ cause, interpret payload .single = .error cause) ∧
      (∃ cause, interpret payload .array = .error cause) ↔
      ∃ batch, Batched payload batch ∧ FailsAtEnd batch) ∧
    ∀ output : Output, (Output.raw output.toBatch).toRow? = output.toRow? ∧
      (Output.raw output.toBatch).toRows = output.toRows := by
  have single := interpret_single payload
  have causes (cause : Error) : interpret payload .single = .error cause ↔
      interpret payload .array = .error cause := by
    rw [single]
    cases interpret payload .array <;> simp [Except.map]
  refine ⟨fun output given => ?_, ?_, causes, ?_, fun output => ?_⟩
  · obtain ⟨batch, raw, rfl⟩ := interpret_array_eq_ok given
    rw [given] at single
    exact ⟨lastRows batch, batch, rfl, raw, single, rfl, rfl, rfl, rfl, head?_lastRows batch⟩
  · rw [single]
    cases interpret payload .array <;> simp [Except.map]
  · simp only [causes, and_self, raw_ok_array_error_iff]
  · exact ⟨output.toRow?_toBatch, output.toRows_toBatch⟩

end RecordMapper.Reply
