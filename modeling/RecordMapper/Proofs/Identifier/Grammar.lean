import Mathlib.Data.List.Basic
import RecordMapper.Proofs.Identifier
import RecordMapper.Proofs.Text.Order
import RecordMapper.Proofs.Text.Skeleton

/-!
Grammars of the names that stand in statement text. `Key`, `FieldPath` and `RecordKey` are said of
texts by their characters alone; keys can as well be told by their bytes (`key_iff_bytes`). The
checks of `Validation` accept just these grammars, change nothing, and refuse every other text for
one reason (`Validation.Accepts`). What they accept holds no quote, so a scan for quotes passes it
outside literals and leaves it as it is (`Text.Quoted.StaysOutside`).
-/

namespace RecordMapper

namespace Identifier

/-! ## Grammars -/

/-- The letters of ASCII, the digits and the underscore. -/
def KeyChar (c : Char) : Prop :=
  'A' ≤ c ∧ c ≤ 'Z' ∨ 'a' ≤ c ∧ c ≤ 'z' ∨ '0' ≤ c ∧ c ≤ '9' ∨ c = '_'

/-- The codes of these characters, each of which is one byte. -/
def KeyByte (b : UInt8) : Prop :=
  0x41 ≤ b ∧ b ≤ 0x5A ∨ 0x61 ≤ b ∧ b ≤ 0x7A ∨ 0x30 ≤ b ∧ b ≤ 0x39 ∨ b = 0x5F

/-- A key is one such character or more. -/
def Key (text : String) : Prop := text ≠ "" ∧ ∀ c ∈ text.toList, KeyChar c

/-- A path is one key or more, with a point between any two. -/
def FieldPath (text : String) : Prop :=
  ∃ keys : List String, keys ≠ [] ∧ (∀ key ∈ keys, Key key) ∧ text = ".".intercalate keys

/-- A record is named by a key, a colon and a key. -/
def RecordKey (text : String) : Prop :=
  ∃ table key : String, Key table ∧ Key key ∧ text = table ++ ":" ++ key

/-! ## Keys -/

theorem keyChar_iff_toNat {c : Char} :
    KeyChar c ↔ 0x41 ≤ c.toNat ∧ c.toNat ≤ 0x5A ∨ 0x61 ≤ c.toNat ∧ c.toNat ≤ 0x7A ∨
      0x30 ≤ c.toNat ∧ c.toNat ≤ 0x39 ∨ c.toNat = 0x5F := by
  simp only [KeyChar, Char.le_def, UInt32.le_iff_toNat_le, ← Char.toNat_inj]
  rfl

theorem keyByte_iff_toNat {b : UInt8} :
    KeyByte b ↔ 0x41 ≤ b.toNat ∧ b.toNat ≤ 0x5A ∨ 0x61 ≤ b.toNat ∧ b.toNat ≤ 0x7A ∨
      0x30 ≤ b.toNat ∧ b.toNat ≤ 0x39 ∨ b.toNat = 0x5F := by
  simp only [KeyByte, UInt8.le_iff_toNat_le, ← UInt8.toNat_inj]
  rfl

theorem isKeyChar_iff {c : Char} : isKeyChar c ↔ KeyChar c := by
  have tests : isKeyChar c = (decide ('A' ≤ c ∧ c ≤ 'Z') || 'a' ≤ c && c ≤ 'z' ||
      '0' ≤ c && c ≤ '9' || c = '_') := rfl
  rw [tests]
  simp only [KeyChar, Bool.or_eq_true, Bool.and_eq_true, decide_eq_true_eq, or_assoc]

theorem isKey_iff {text : String} : isKey text.toList ↔ Key text := by
  simp only [isKey, Key, Bool.and_eq_true, Bool.not_eq_true', List.isEmpty_eq_false_iff,
    List.all_eq_true, isKeyChar_iff, ne_eq, String.toList_eq_nil_iff]

theorem forall_keyByte_iff {c : Char} :
    (∀ b ∈ String.utf8EncodeChar c, KeyByte b) ↔ KeyChar c := by
  rw [keyChar_iff_toNat]
  by_cases ascii : c.toNat ≤ 0x7F
  · have single : String.utf8EncodeChar c = [UInt8.ofNat c.toNat] := if_pos ascii
    have same : (UInt8.ofNat c.toNat).toNat = c.toNat :=
      UInt8.toNat_ofNat_of_lt' (Nat.lt_of_le_of_lt ascii (by decide))
    rw [single, List.forall_mem_singleton, keyByte_iff_toNat, same]
  · obtain ⟨first, rest, starts, high⟩ := Text.exists_first_byte (Nat.lt_of_not_le ascii)
    refine iff_of_false (fun each => ?_) (by omega)
    have low := keyByte_iff_toNat.1 (each first (starts ▸ List.mem_cons_self))
    omega

theorem key_iff_bytes {text : String} :
    Key text ↔ text ≠ "" ∧ ∀ b ∈ Text.bytes text, KeyByte b := by
  rw [Key, ← String.ofList_toList (s := text), Text.bytes_ofList, String.toList_ofList]
  simp only [List.forall_mem_flatMap, forall_keyByte_iff]

/-! ## Paths -/

theorem parts_eq_splitOn (separator : Char) (text : List Char) :
    parts separator text = text.splitOn separator := by
  induction text with
  | nil => rfl
  | cons c rest ih =>
    have some := parts_ne_nil separator rest
    rw [parts, List.splitOn, List.splitOnP_cons_eq_if_modifyHead, ← List.splitOn, ← ih]
    cases found : parts separator rest with
    | nil => exact absurd found some
    | cons part others => simp

theorem isFieldPath_iff {text : String} : isFieldPath text.toList ↔ FieldPath text := by
  rw [isFieldPath, parts_eq_splitOn, List.all_eq_true]
  constructor
  · intro valid
    refine ⟨(text.toList.splitOn '.').map String.ofList, ?_, ?_, ?_⟩
    · rw [ne_eq, List.map_eq_nil_iff, ← parts_eq_splitOn]
      exact parts_ne_nil '.' text.toList
    · refine List.forall_mem_map.2 fun part mem => isKey_iff.1 ?_
      rw [String.toList_ofList]
      exact valid part mem
    · rw [← String.toList_inj, String.toList_intercalate, List.map_map]
      have chars : String.toList ∘ String.ofList = id := funext fun part => String.toList_ofList
      rw [chars, List.map_id]
      exact (List.intercalate_splitOn '.').symm
  · rintro ⟨keys, some, valid, rfl⟩
    -- no key holds a point, so splitting undoes joining
    have apart : ∀ part ∈ keys.map String.toList, '.' ∉ part :=
      List.forall_mem_map.2 fun key mem => not_mem_key (isKey_iff.2 (valid key mem)) rfl
    have again : (".".intercalate keys).toList.splitOn '.' = keys.map String.toList := by
      rw [String.toList_intercalate]
      exact List.splitOn_intercalate '.' apart (by simpa using some)
    rw [again]
    exact List.forall_mem_map.2 fun key mem => isKey_iff.2 (valid key mem)

/-! ## Identifiers of records -/

theorem isRecordKey_iff_recordKey {text : String} : isRecordKey text.toList ↔ RecordKey text := by
  rw [← exists_ownedBy_iff]
  simp only [OwnedBy, RecordKey, isKey_iff]
  constructor
  · rintro ⟨table, key, split, tableKey, keyKey⟩
    exact ⟨table, key, tableKey, keyKey, split⟩
  · rintro ⟨table, key, tableKey, keyKey, split⟩
    exact ⟨table, key, split, tableKey, keyKey⟩

/-- There is one colon in the text of an identifier, and what stands before it is the table. -/
theorem exists_key_of_recordId (id : RecordId) : Key id.table ∧ ∃ key : String, Key key ∧
    ∀ before after : String, id.text = before ++ ":" ++ after ↔ before = id.table ∧ after = key := by
  obtain ⟨key, split, tableKey, keyKey⟩ := ownedBy_iff.2 ⟨rfl, id.isRecordKey⟩
  refine ⟨isKey_iff.1 tableKey, key, isKey_iff.1 keyKey, fun before after => ?_⟩
  have colon (a b : String) : (a ++ ":" ++ b).toList = a.toList ++ ':' :: b.toList := by simp
  rw [split, ← String.toList_inj, colon, colon,
    List.append_cons_inj_of_notMem (not_mem_key tableKey rfl) (not_mem_key keyKey rfl),
    and_iff_right rfl, String.toList_inj, String.toList_inj, eq_comm, eq_comm (a := key)]
  rfl

/-! ## Characters -/

/-- A text is a name if it is a key, a path or the identifier of a record. -/
def Name (text : String) : Prop := Key text ∨ FieldPath text ∨ RecordKey text

theorem mem_name {text : String} (name : Name text) {c : Char} (mem : c ∈ text.toList) :
    KeyChar c ∨ c = '.' ∨ c = ':' := by
  rcases name with key | path | record
  · exact .inl (key.2 c mem)
  · rcases mem_fieldPath (isFieldPath_iff.2 path) mem with key | point
    · exact .inl (isKeyChar_iff.1 key)
    · exact .inr (.inl point)
  · rcases mem_recordKey (isRecordKey_iff_recordKey.2 record) mem with key | colon
    · exact .inl (isKeyChar_iff.1 key)
    · exact .inr (.inr colon)

theorem staysOutside_of_name {text : String} (name : Name text) :
    Text.Quoted.StaysOutside text := by
  refine Text.Quoted.staysOutside_of_no_quote fun mem => ?_
  rcases mem_name name mem with key | point | colon
  · exact absurd (isKeyChar_iff.2 key) (by decide)
  · exact absurd point (by decide)
  · exact absurd colon (by decide)

end Identifier

/-! ## Checks -/

namespace Validation

open Identifier

/-- The check accepts just the texts of the grammar. What it gives for one shows that text unchanged,
and the refusal of any other text names the text. -/
structure Accepts {α : Type} (check : String → Result α) (shown : α → String)
    (grammar : String → Prop) (refusal : String → ValidationError) : Prop where
  accepted_iff : ∀ text, (∃ a, check text = .ok a) ↔ grammar text
  shown_eq : ∀ text a, check text = .ok a → shown a = text
  error_eq : ∀ text cause, check text = .error cause → cause = .validation (refusal text)

/-- Checks that give their text back are told by the test that they make. -/
theorem accepts_of_test {test : List Char → Bool} {grammar : String → Prop}
    (refusal : String → ValidationError) (same : ∀ text : String, test text.toList ↔ grammar text) :
    Accepts (fun text => if test text.toList then .ok text else .error (.validation (refusal text)))
      id grammar refusal where
  accepted_iff text := by
    rw [← same]
    split
    · exact iff_of_true ⟨text, rfl⟩ ‹_›
    · exact iff_of_false nofun ‹_›
  shown_eq text a given := by
    split at given
    · cases given
      rfl
    · cases given
  error_eq text cause refused := by
    split at refused
    · cases refused
    · cases refused
      rfl

theorem accepts_recordId : Accepts recordId RecordId.text RecordKey .invalidRecordKey where
  accepted_iff text := by
    rw [← isRecordKey_iff_recordKey]
    constructor
    · rintro ⟨id, given⟩
      exact recordId_eq_ok_iff.1 given ▸ id.isRecordKey
    · intro valid
      exact ⟨⟨text, valid⟩, recordId_eq_ok_iff.2 rfl⟩
  shown_eq _ _ given := recordId_eq_ok_iff.1 given
  error_eq _ _ refused := (recordId_eq_error_iff.1 refused).2

/-- The checks accept exactly their grammars: keys, which are told by the bytes of the text as well
as by its characters, paths of keys, and a key, a colon and a key. What they give shows the text
unchanged. The table of an identifier is a key, and there is one way to take the text apart at a
colon. A scan for quotes stays outside literals all through an accepted text, which holds no other
characters than those of keys, the point and the colon. -/
theorem checks_by_grammar :
    Accepts key id Key .invalidKey ∧
    Accepts fieldPath id FieldPath .invalidKey ∧
    Accepts recordKey id RecordKey .invalidRecordKey ∧
    Accepts recordId RecordId.text RecordKey .invalidRecordKey ∧
    (∀ text, Key text ↔ text ≠ "" ∧ ∀ b ∈ Text.bytes text, KeyByte b) ∧
    (∀ id : RecordId, Key id.table ∧ ∃ key : String, Key key ∧ ∀ before after : String,
      id.text = before ++ ":" ++ after ↔ before = id.table ∧ after = key) ∧
    ∀ text, Name text → Text.Quoted.StaysOutside text ∧
      ∀ c ∈ text.toList, KeyChar c ∨ c = '.' ∨ c = ':' :=
  ⟨accepts_of_test .invalidKey fun _ => isKey_iff,
    accepts_of_test .invalidKey fun _ => isFieldPath_iff,
    accepts_of_test .invalidRecordKey fun _ => isRecordKey_iff_recordKey,
    accepts_recordId, fun _ => key_iff_bytes, exists_key_of_recordId,
    fun _ name => ⟨staysOutside_of_name name, fun _ => mem_name name⟩⟩

/-- A path of two keys is given back as it is, and no quote opens in it. -/
theorem checks_by_grammar_owner_name :
    fieldPath "owner.name" = .ok "owner.name" ∧ Name "owner.name" ∧
      Text.Quoted.StaysOutside "owner.name" := by
  obtain ⟨-, paths, -, -, -, -, scanned⟩ := checks_by_grammar
  have accepted : fieldPath "owner.name" = .ok "owner.name" := by rfl
  have name : Name "owner.name" := .inr (.inl ((paths.accepted_iff _).1 ⟨_, accepted⟩))
  exact ⟨accepted, name, (scanned _ name).1⟩

end Validation

end RecordMapper
