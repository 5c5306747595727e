import RecordMapper.Proofs.Agreement
import RecordMapper.Proofs.Reply.Entry
import RecordMapper.Reply.Output

/-!
The classification of replies. `Classified` lists the rules by which a payload and a mode
come to a result, each with what has to hold for it to apply; interpreting a reply follows
exactly these rules (`interpret_eq_iff_classified`). The rules speak of entries by what
denotes them, and of the first and the last entry of a batch only.
-/

namespace RecordMapper.Reply

/-- The payload rejects the request with a code. -/
def Rejects (payload code : Json) : Prop :=
  ∃ members, payload = .object members ∧ Members.get? "code" members = some code ∧ code ≠ .null

/-- The payload is an array, and its items denote the entries of the batch in order. -/
def Batched (payload : Json) (batch : List Entry) : Prop :=
  ∃ items, payload = .array items ∧ List.Forall₂ Entry.Denoted items batch

/-- The payload is no batch: it is no array, or it has an item that denotes no entry. The
first such item tells the cause. -/
inductive Undecodable [Wording] : Json → DecodeError → Prop
  | shape {payload : Json} : (∀ items, payload ≠ .array items) →
    Undecodable payload (.malformed (Wording.batch payload))
  | item {before after : List Json} {item : Json} {cause : DecodeError} :
    (∀ earlier ∈ before, ∃ entry, Entry.Denoted earlier entry) → Entry.Refused item cause →
    Undecodable (.array (before ++ item :: after)) cause

/-- The entry is the first of the batch and has failed. -/
def FirstFailed (batch : List Entry) (entry : Entry) : Prop :=
  ∃ rest, batch = entry :: rest ∧ entry.status = .err

/-- The entry is the last of the batch and has failed. -/
def LastFailed (batch : List Entry) (entry : Entry) : Prop :=
  ∃ before, batch = before ++ [entry] ∧ entry.status = .err

/-- The rows are those of the last entry; there are none in an empty batch, and none where the
result is null. -/
inductive RowsOfLast : List Entry → List Json → Prop
  | empty : RowsOfLast [] []
  | null {before : List Entry} {last : Entry} :
    last.rows = none → RowsOfLast (before ++ [last]) []
  | rows {before : List Entry} {last : Entry} {rows : List Json} :
    last.rows = some rows → RowsOfLast (before ++ [last]) rows

/-- The rules of classification. Each rule asks that those before it do not apply. -/
inductive Classified [Wording] (payload : Json) : Mode → Result Output → Prop
  | rejected {mode : Mode} {code : Json} : Rejects payload code →
    Classified payload mode (.error (.remote (.requestRejected code payload)))
  | undecodable {mode : Mode} {cause : DecodeError} : (∀ code, ¬Rejects payload code) →
    Undecodable payload cause → Classified payload mode (.error (.decode cause))
  | firstFailed {mode : Mode} {batch : List Entry} {entry : Entry} : Batched payload batch →
    FirstFailed batch entry →
    Classified payload mode (.error (.remote (.statementFailed entry)))
  | lastFailed {mode : Mode} {batch : List Entry} {entry : Entry} : Batched payload batch →
    (∀ first, ¬FirstFailed batch first) → mode = .single ∨ mode = .array →
    LastFailed batch entry →
    Classified payload mode (.error (.remote (.statementFailed entry)))
  | raw {batch : List Entry} : Batched payload batch → (∀ first, ¬FirstFailed batch first) →
    Classified payload .raw (.ok (.raw batch))
  | array {batch : List Entry} {rows : List Json} : Batched payload batch →
    (∀ first, ¬FirstFailed batch first) → (∀ last, ¬LastFailed batch last) →
    RowsOfLast batch rows → Classified payload .array (.ok (.array rows))
  | single {batch : List Entry} {rows : List Json} : Batched payload batch →
    (∀ first, ¬FirstFailed batch first) → (∀ last, ¬LastFailed batch last) →
    RowsOfLast batch rows → Classified payload .single (.ok (.single rows.head?))

/-! ## What the parts of the interpretation find -/

theorem rejection?_eq_some_iff {payload code : Json} :
    rejection? payload = some code ↔ Rejects payload code := by
  unfold rejection?
  constructor
  · intro found
    split at found
    · cases found
    · cases found
    · rename_i other nonNull coded
      cases found
      cases payload with
      | object members => exact ⟨members, rfl, coded, nonNull⟩
      | _ => cases coded
  · rintro ⟨members, rfl, coded, nonNull⟩
    have got : (Json.object members).get? "code" = some code := coded
    rw [got]
    cases code with
    | null => exact absurd rfl nonNull
    | _ => rfl

theorem rejection?_eq_none_iff {payload : Json} :
    rejection? payload = none ↔ ∀ code, ¬Rejects payload code := by
  constructor
  · intro missing code rejects
    rw [rejection?_eq_some_iff.2 rejects] at missing
    cases missing
  · intro never
    cases found : rejection? payload with
    | none => rfl
    | some code => exact absurd (rejection?_eq_some_iff.1 found) (never code)

/-- An array rejects nothing. -/
theorem Batched.not_rejects {payload : Json} {batch : List Entry} (batched : Batched payload batch)
    (code : Json) : ¬Rejects payload code := by
  obtain ⟨items, rfl, -⟩ := batched
  rintro ⟨members, split, -⟩
  cases split

theorem head?_filter_eq_some_iff {batch : List Entry} {entry : Entry} :
    (batch.head?.filter fun entry => decide (entry.status = .err)) = some entry ↔
      FirstFailed batch entry := by
  rw [Option.filter_eq_some_iff, List.head?_eq_some_iff, decide_eq_true_eq]
  constructor
  · rintro ⟨⟨rest, split⟩, failed⟩
    exact ⟨rest, split, failed⟩
  · rintro ⟨rest, split, failed⟩
    exact ⟨⟨rest, split⟩, failed⟩

theorem getLast?_filter_eq_some_iff {batch : List Entry} {entry : Entry} :
    (batch.getLast?.filter fun entry => decide (entry.status = .err)) = some entry ↔
      LastFailed batch entry := by
  rw [Option.filter_eq_some_iff, List.getLast?_eq_some_iff, decide_eq_true_eq]
  constructor
  · rintro ⟨⟨before, split⟩, failed⟩
    exact ⟨before, split, failed⟩
  · rintro ⟨before, split, failed⟩
    exact ⟨⟨before, split⟩, failed⟩

theorem failure?_of_firstFailed {batch : List Entry} {entry : Entry}
    (starts : FirstFailed batch entry) (mode : Mode) : failure? mode batch = some entry := by
  simp only [failure?, head?_filter_eq_some_iff.2 starts]

theorem failure?_of_not_firstFailed {batch : List Entry}
    (never : ∀ first, ¬FirstFailed batch first) (mode : Mode) :
    failure? mode batch = if mode = .raw then none
      else batch.getLast?.filter fun entry => decide (entry.status = .err) := by
  have none : (batch.head?.filter fun entry => decide (entry.status = .err)) = none := by
    rw [Option.eq_none_iff_forall_ne_some]
    intro first starts
    exact never first (head?_filter_eq_some_iff.1 starts)
  simp only [failure?, none]

/-- The failure that governs is the first entry, or else, unless the whole batch is wanted,
the last. -/
theorem failure?_eq_some_iff {mode : Mode} {batch : List Entry} {entry : Entry} :
    failure? mode batch = some entry ↔ FirstFailed batch entry ∨
      (∀ first, ¬FirstFailed batch first) ∧ mode ≠ .raw ∧ LastFailed batch entry := by
  by_cases starting : ∃ first, FirstFailed batch first
  · obtain ⟨first, starts⟩ := starting
    rw [failure?_of_firstFailed starts]
    constructor
    · intro same
      cases same
      exact .inl starts
    · rintro (other | ⟨never, -⟩)
      · rw [← failure?_of_firstFailed starts mode, failure?_of_firstFailed other]
      · exact absurd starts (never first)
  · have never := not_exists.1 starting
    rw [failure?_of_not_firstFailed never]
    by_cases whole : mode = .raw
    · simp [whole, never]
    · rw [if_neg whole, getLast?_filter_eq_some_iff]
      simp [whole, never]

theorem failure?_eq_none_iff {mode : Mode} {batch : List Entry} :
    failure? mode batch = none ↔ (∀ first, ¬FirstFailed batch first) ∧
      (mode = .raw ∨ ∀ last, ¬LastFailed batch last) := by
  constructor
  · intro none
    have never : ∀ first, ¬FirstFailed batch first := by
      intro first starts
      rw [failure?_eq_some_iff.2 (.inl starts)] at none
      cases none
    refine ⟨never, or_iff_not_imp_left.2 fun part last ends => ?_⟩
    rw [failure?_eq_some_iff.2 (.inr ⟨never, part, ends⟩)] at none
    cases none
  · rintro ⟨never, rest⟩
    cases found : failure? mode batch with
    | none => rfl
    | some entry =>
      obtain starts | ⟨-, part, ends⟩ := failure?_eq_some_iff.1 found
      · exact absurd starts (never entry)
      · obtain whole | fine := rest
        · exact absurd whole part
        · exact absurd ends (fine entry)

theorem rowsOfLast_iff {batch : List Entry} {rows : List Json} :
    RowsOfLast batch rows ↔ lastRows batch = rows := by
  constructor
  · intro last
    cases last with
    | empty => rfl
    | null none => simp [lastRows, none]
    | rows some => simp [lastRows, some]
  · rintro rfl
    obtain rfl | ⟨before, last, rfl⟩ := List.eq_nil_or_concat' batch
    · exact .empty
    · rw [lastRows, List.getLast?_concat, Option.bind_some]
      cases given : last.rows with
      | none => exact .null given
      | some rows => exact .rows given

/-! ## What a batch comes to -/

/-- What a batch comes to in a mode: its governing failure, or else what the mode selects. -/
def judge (mode : Mode) (batch : List Entry) : Result Output :=
  match failure? mode batch with
  | some entry => .error (.remote (.statementFailed entry))
  | none => .ok (select mode batch)

theorem judge_of_failed {mode : Mode} {batch : List Entry} {entry : Entry}
    (governs : failure? mode batch = some entry) :
    judge mode batch = .error (.remote (.statementFailed entry)) := by
  rw [judge, governs]

theorem judge_of_fine {mode : Mode} {batch : List Entry} (none : failure? mode batch = none) :
    judge mode batch = .ok (select mode batch) := by
  rw [judge, none]

/-- What a batch comes to does not depend on the entries between its first and its last,
unless all of it is wanted. -/
theorem judge_between (mode : Mode) (first last : Entry) (between others : List Entry) :
    Agree (fun a b => mode = .raw ∨ a = b) (judge mode (first :: (between ++ [last])))
      (judge mode (first :: (others ++ [last]))) := by
  have ends (middle : List Entry) : (first :: (middle ++ [last])).getLast? = some last := by
    rw [← List.cons_append, List.getLast?_concat]
  have governs : failure? mode (first :: (between ++ [last])) =
      failure? mode (first :: (others ++ [last])) := by
    simp only [failure?, ends, List.head?_cons]
  unfold judge
  rw [governs]
  cases failure? mode (first :: (others ++ [last])) with
  | some entry => exact rfl
  | none =>
    cases mode with
    | raw => exact .inl rfl
    | single => exact .inr (by simp only [select, lastRows, ends])
    | array => exact .inr (by simp only [select, lastRows, ends])

/-! ## Classification -/

variable [Wording]

theorem batchOf_eq_ok_iff {payload : Json} {batch : List Entry} :
    batchOf payload = .ok batch ↔ Batched payload batch := by
  constructor
  · intro read
    cases payload with
    | array items =>
      refine ⟨items, rfl, (mapM_eq_ok_iff.1 read).imp ?_⟩
      intro json entry denotes
      exact Entry.ofJson_eq_ok_iff.1 denotes
    | _ => cases read
  · rintro ⟨items, rfl, denoted⟩
    refine mapM_eq_ok_iff.2 (denoted.imp ?_)
    intro json entry denotes
    exact Entry.ofJson_eq_ok_iff.2 denotes

theorem batchOf_eq_error_iff {payload : Json} {cause : DecodeError} :
    batchOf payload = .error cause ↔ Undecodable payload cause := by
  constructor
  · intro read
    cases payload with
    | array items =>
      obtain ⟨before, item, after, rfl, fine, failed⟩ := mapM_eq_error_iff.1 read
      refine .item ?_ (Entry.ofJson_eq_error_iff.1 failed)
      intro earlier mem
      obtain ⟨entry, denotes⟩ := fine earlier mem
      exact ⟨entry, Entry.ofJson_eq_ok_iff.1 denotes⟩
    | _ => cases read; exact .shape (by simp)
  · intro undecodable
    cases undecodable with
    | shape other =>
      cases payload with
      | array items => exact absurd rfl (other items)
      | _ => rfl
    | @item before after item cause fine refused =>
      refine mapM_eq_error_iff.2 ⟨before, item, after, rfl, ?_, Entry.ofJson_eq_error_iff.2 refused⟩
      intro earlier mem
      obtain ⟨entry, denotes⟩ := fine earlier mem
      exact ⟨entry, Entry.ofJson_eq_ok_iff.2 denotes⟩

/-- Every reply comes under a rule. -/
theorem classified_interpret (payload : Json) (mode : Mode) :
    Classified payload mode (interpret payload mode) := by
  unfold interpret
  split
  · rename_i code found
    exact .rejected (rejection?_eq_some_iff.1 found)
  rename_i missing
  split
  · rename_i cause failed
    exact .undecodable (rejection?_eq_none_iff.1 missing) (batchOf_eq_error_iff.1 failed)
  rename_i batch read
  have batched := batchOf_eq_ok_iff.1 read
  split
  · rename_i entry governs
    obtain starts | ⟨never, part, ends⟩ := failure?_eq_some_iff.1 governs
    · exact .firstFailed batched starts
    · refine .lastFailed batched never ?_ ends
      cases mode with
      | raw => exact absurd rfl part
      | single => exact .inl rfl
      | array => exact .inr rfl
  · rename_i none
    obtain ⟨never, rest⟩ := failure?_eq_none_iff.1 none
    cases mode with
    | raw => exact .raw batched never
    | single =>
      exact .single batched never (rest.resolve_left (by simp)) (rowsOfLast_iff.2 rfl)
    | array =>
      exact .array batched never (rest.resolve_left (by simp)) (rowsOfLast_iff.2 rfl)

theorem interpret_of_batched {payload : Json} {batch : List Entry}
    (batched : Batched payload batch) (mode : Mode) :
    interpret payload mode = judge mode batch := by
  rw [interpret, rejection?_eq_none_iff.2 batched.not_rejects, batchOf_eq_ok_iff.2 batched]
  rfl

/-- What a rule says of a reply is what interpreting it gives. -/
theorem interpret_of_classified {payload : Json} {mode : Mode} {result : Result Output}
    (classified : Classified payload mode result) : interpret payload mode = result := by
  cases classified with
  | rejected rejects => rw [interpret, rejection?_eq_some_iff.2 rejects]
  | undecodable never cause =>
    rw [interpret, rejection?_eq_none_iff.2 never, batchOf_eq_error_iff.2 cause]
  | firstFailed batched starts =>
    rw [interpret_of_batched batched, judge_of_failed (failure?_of_firstFailed starts mode)]
  | lastFailed batched never wanted ends =>
    have part : mode ≠ .raw := by
      rintro rfl
      simp at wanted
    have governs := failure?_eq_some_iff.2 (.inr ⟨never, part, ends⟩)
    rw [interpret_of_batched batched, judge_of_failed governs]
  | raw batched never =>
    rw [interpret_of_batched batched, judge_of_fine (failure?_eq_none_iff.2 ⟨never, .inl rfl⟩)]
    rfl
  | array batched never fine rows =>
    rw [interpret_of_batched batched, judge_of_fine (failure?_eq_none_iff.2 ⟨never, .inr fine⟩),
      ← rowsOfLast_iff.1 rows]
    rfl
  | single batched never fine rows =>
    rw [interpret_of_batched batched, judge_of_fine (failure?_eq_none_iff.2 ⟨never, .inr fine⟩),
      ← rowsOfLast_iff.1 rows]
    rfl

/-- Items of which one denotes no entry make no batch, wherever it stands. -/
theorem exists_undecodable {items : List Json} {item : Json} (mem : item ∈ items)
    (none : ∀ entry, ¬Entry.Denoted item entry) : ∃ cause, Undecodable (.array items) cause := by
  cases read : batchOf (.array items) with
  | error cause => exact ⟨cause, batchOf_eq_error_iff.1 read⟩
  | ok batch =>
    obtain ⟨others, same, denoted⟩ := batchOf_eq_ok_iff.1 read
    cases same
    obtain ⟨entry, -, denotes⟩ := exists_mem_of_forall₂ denoted.flip mem
    exact absurd denotes (none entry)

/-! ## Entries between the first and the last -/

/-- Where the items between denote entries, the ends of an array decide whether it is read. -/
theorem batchOf_between {between : List Json} {batch : List Entry}
    (read : between.mapM Entry.ofJson = .ok batch) (first last : Json) :
    batchOf (.array (first :: (between ++ [last]))) = do
      let opening ← Entry.ofJson first
      let closing ← Entry.ofJson last
      return opening :: (batch ++ [closing]) := by
  simp only [batchOf, List.mapM_cons, List.mapM_append, List.mapM_nil, read]
  cases Entry.ofJson first with
  | error cause => rfl
  | ok opening => cases Entry.ofJson last <;> rfl

/-- Entries between the first and the last affect no outcome, failed or not; only the whole
batch shows them. -/
theorem interpret_between {between others : List Json}
    (readable : ∀ item ∈ between ++ others, ∃ entry, Entry.Denoted item entry)
    (first last : Json) (mode : Mode) :
    Agree (fun a b => mode = .raw ∨ a = b)
      (interpret (.array (first :: (between ++ [last]))) mode)
      (interpret (.array (first :: (others ++ [last]))) mode) := by
  have reads (items : List Json) (part : ∀ item ∈ items, item ∈ between ++ others) :
      ∃ batch, items.mapM Entry.ofJson = .ok batch := by
    cases read : items.mapM Entry.ofJson with
    | ok batch => exact ⟨batch, rfl⟩
    | error cause =>
      obtain ⟨before, item, after, rfl, -, failed⟩ := mapM_eq_error_iff.1 read
      obtain ⟨entry, denotes⟩ := readable item (part item (by simp))
      rw [Entry.ofJson_eq_ok_iff.2 denotes] at failed
      cases failed
  obtain ⟨batch, left⟩ := reads between fun item mem => List.mem_append_left _ mem
  obtain ⟨batch', right⟩ := reads others fun item mem => List.mem_append_right _ mem
  simp only [interpret, rejection?, Json.get?, batchOf_between left, batchOf_between right]
  cases Entry.ofJson first with
  | error cause => exact rfl
  | ok opening =>
    cases Entry.ofJson last with
    | error cause => exact rfl
    | ok closing => exact judge_between mode opening closing batch batch'

/-- Every reply is classified by the rules and by nothing else; where nothing is rejected, an
item that denotes no entry is a decoding error wherever it stands, and what stands between
the first and the last entry of a batch affects no outcome. -/
theorem interpret_eq_iff_classified (payload : Json) (mode : Mode) :
    (∀ result, interpret payload mode = result ↔ Classified payload mode result) ∧
    ((∀ code, ¬Rejects payload code) →
      ((∀ items, payload ≠ .array items) ∨ ∃ items, payload = .array items ∧
        ∃ item ∈ items, ∀ entry, ¬Entry.Denoted item entry) →
      ∃ cause, interpret payload mode = .error (.decode cause)) ∧
    ∀ first last between others,
      (∀ item ∈ between ++ others, ∃ entry, Entry.Denoted item entry) →
      Agree (fun a b => mode = .raw ∨ a = b)
        (interpret (.array (first :: (between ++ [last]))) mode)
        (interpret (.array (first :: (others ++ [last]))) mode) := by
  refine ⟨fun result => ⟨fun same => same ▸ classified_interpret payload mode,
    interpret_of_classified⟩, fun accepted spoilt => ?_, ?_⟩
  · obtain other | ⟨items, rfl, item, mem, none⟩ := spoilt
    · exact ⟨_, interpret_of_classified (.undecodable accepted (.shape other))⟩
    · obtain ⟨cause, undecodable⟩ := exists_undecodable mem none
      exact ⟨cause, interpret_of_classified (.undecodable accepted undecodable)⟩
  · intro first last between others readable
    exact interpret_between readable first last mode

end RecordMapper.Reply
