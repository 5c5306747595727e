import RecordMapper.Validation

/-!
Grammars of names. A record identifier is a key, one colon and a key (`isRecordKey_iff`), and
the characters of keys, field paths and record identifiers are those of keys, with the point
in paths and the colon in identifiers. An identifier belongs to one table (`OwnedBy`); whether
a text does is settled with the reason why not by `Validation.ownedRecordKey_eq_error_iff`.
-/

namespace RecordMapper

namespace Identifier

/-- The text is its part before the first separator, and what follows with the separator. -/
theorem append_of_cut {separator : Char} {text before after : List Char}
    (parted : cut separator text = (before, some after)) : text = before ++ separator :: after := by
  have whole := List.takeWhile_append_dropWhile (p := fun c => decide (c ≠ separator)) (l := text)
  unfold cut at parted
  split at parted
  · cases parted
  · rename_i c rest dropped
    have stopped : c = separator := by
      have head := List.head?_dropWhile_not (fun c => decide (c ≠ separator)) text
      rw [dropped] at head
      simpa using head
    simp only [Prod.mk.injEq, Option.some.injEq] at parted
    rw [dropped, parted.1, parted.2, stopped] at whole
    exact whole.symm

theorem cut_append {separator : Char} {before : List Char} (none : separator ∉ before)
    (after : List Char) : cut separator (before ++ separator :: after) = (before, some after) := by
  have all : ∀ c ∈ before, decide (c ≠ separator) = true := by
    rintro c mem
    exact decide_eq_true fun same => none (same ▸ mem)
  unfold cut
  rw [List.dropWhile_append_of_pos all, List.takeWhile_append_of_pos all]
  simp

theorem isKeyChar_of_mem_key {text : List Char} (key : isKey text) {c : Char} (mem : c ∈ text) :
    isKeyChar c := by
  simp only [isKey, Bool.and_eq_true, List.all_eq_true] at key
  exact key.2 c mem

theorem not_mem_key {text : List Char} (key : isKey text) {c : Char}
    (other : isKeyChar c = false) : c ∉ text := by
  intro mem
  rw [isKeyChar_of_mem_key key mem] at other
  cases other

/-- Identifiers of records are a key, a colon and a key. -/
theorem isRecordKey_iff {text : List Char} :
    isRecordKey text ↔ ∃ table key, text = table ++ ':' :: key ∧ isKey table ∧ isKey key := by
  unfold isRecordKey
  constructor
  · intro valid
    split at valid
    · rename_i table key parted
      rw [Bool.and_eq_true] at valid
      exact ⟨table, key, append_of_cut parted, valid⟩
    · cases valid
  · rintro ⟨table, key, rfl, tableKey, keyKey⟩
    rw [cut_append (not_mem_key tableKey rfl)]
    exact Bool.and_eq_true _ _ |>.mpr ⟨tableKey, keyKey⟩

/-- The text is the table, a colon and a key, and the table is a key itself. -/
def OwnedBy (table text : String) : Prop :=
  ∃ key : String, text = table ++ ":" ++ key ∧ isKey table.toList ∧ isKey key.toList

/-- What stands before the first colon names the table, and a text without a colon is all
before it. -/
theorem tableOf_eq_iff {text table : String} :
    tableOf text = table ↔ text.toList.takeWhile (· ≠ ':') = table.toList := by
  have first : (cut ':' text.toList).1 = text.toList.takeWhile (· ≠ ':') := by
    unfold cut
    split <;> rfl
  rw [tableOf, first, ← String.toList_inj, String.toList_ofList]

/-- An identifier belongs to the table that it names. -/
theorem ownedBy_iff {table text : String} :
    OwnedBy table text ↔ tableOf text = table ∧ isRecordKey text.toList := by
  constructor
  · rintro ⟨key, rfl, tableKey, keyKey⟩
    have split : (table ++ ":" ++ key).toList = table.toList ++ ':' :: key.toList := by simp
    refine ⟨?_, isRecordKey_iff.2 ⟨_, _, split, tableKey, keyKey⟩⟩
    rw [tableOf, split, cut_append (not_mem_key tableKey rfl), String.ofList_toList]
  · rintro ⟨rfl, valid⟩
    obtain ⟨table, key, split, tableKey, keyKey⟩ := isRecordKey_iff.1 valid
    have named : (tableOf text).toList = table := by
      rw [tableOf, split, cut_append (not_mem_key tableKey rfl), String.toList_ofList]
    refine ⟨String.ofList key, ?_, named ▸ tableKey, by rwa [String.toList_ofList]⟩
    rw [← String.toList_inj, split, String.toList_append, String.toList_append, named,
      String.toList_ofList]
    simp

theorem exists_ownedBy_iff {text : String} :
    (∃ table, OwnedBy table text) ↔ isRecordKey text.toList := by
  constructor
  · intro owned
    obtain ⟨table, owned⟩ := owned
    exact (ownedBy_iff.1 owned).2
  · intro valid
    exact ⟨tableOf text, ownedBy_iff.2 ⟨rfl, valid⟩⟩

theorem mem_recordKey {text : List Char} (valid : isRecordKey text) {c : Char} (mem : c ∈ text) :
    isKeyChar c ∨ c = ':' := by
  rcases isRecordKey_iff.1 valid with ⟨table, key, rfl, tableKey, keyKey⟩
  rcases List.mem_append.1 mem with mem | mem
  · exact .inl (isKeyChar_of_mem_key tableKey mem)
  rcases List.mem_cons.1 mem with colon | mem
  · exact .inr colon
  · exact .inl (isKeyChar_of_mem_key keyKey mem)

/-- A character is a separator or lies in a part. -/
theorem mem_parts {separator c : Char} {text : List Char} (mem : c ∈ text) :
    c = separator ∨ ∃ part ∈ parts separator text, c ∈ part := by
  induction text with
  | nil => cases mem
  | cons d rest ih =>
    rcases List.exists_cons_of_ne_nil (parts_ne_nil separator rest) with ⟨part, others, split⟩
    rw [split] at ih
    by_cases here : d = separator
    · have partsEq : parts separator (d :: rest) = [] :: part :: others := by
        simp [parts, split, here]
      rw [partsEq]
      rcases List.mem_cons.1 mem with rfl | mem
      · exact .inl here
      · rcases ih mem with same | ⟨p, inside, found⟩
        · exact .inl same
        · exact .inr ⟨p, List.mem_cons_of_mem _ inside, found⟩
    · have partsEq : parts separator (d :: rest) = (d :: part) :: others := by
        simp [parts, split, here]
      rw [partsEq]
      rcases List.mem_cons.1 mem with rfl | mem
      · exact .inr ⟨_, List.mem_cons_self, List.mem_cons_self⟩
      · rcases ih mem with same | ⟨p, inside, found⟩
        · exact .inl same
        rcases List.mem_cons.1 inside with rfl | inside
        · exact .inr ⟨_, List.mem_cons_self, List.mem_cons_of_mem _ found⟩
        · exact .inr ⟨p, List.mem_cons_of_mem _ inside, found⟩

theorem mem_fieldPath {text : List Char} (valid : isFieldPath text) {c : Char} (mem : c ∈ text) :
    isKeyChar c ∨ c = '.' := by
  rcases mem_parts mem with point | ⟨part, inside, found⟩
  · exact .inr point
  · rw [isFieldPath, List.all_eq_true] at valid
    exact .inl (isKeyChar_of_mem_key (valid part inside) found)

end Identifier

namespace Validation

open Identifier

theorem key_eq_ok {text result : String} (h : key text = .ok result) :
    result = text ∧ isKey text.toList := by
  unfold key at h
  split at h
  · cases h; exact ⟨rfl, ‹_›⟩
  · cases h

theorem fieldPath_eq_ok {text result : String} (h : fieldPath text = .ok result) :
    result = text ∧ isFieldPath text.toList := by
  unfold fieldPath at h
  split at h
  · cases h; exact ⟨rfl, ‹_›⟩
  · cases h

theorem recordKey_eq_ok {text result : String} (h : recordKey text = .ok result) :
    result = text ∧ isRecordKey text.toList := by
  unfold recordKey at h
  split at h
  · cases h; exact ⟨rfl, ‹_›⟩
  · cases h

theorem recordId_eq_ok_iff {text : String} {id : RecordId} :
    recordId text = .ok id ↔ id.text = text := by
  constructor
  · intro h
    unfold recordId RecordId.ofText? at h
    split at h
    · rename_i found
      split at found
      · cases found
        cases h
        rfl
      · cases found
    · cases h
  · intro same
    rw [← same, recordId, RecordId.ofText?_text]

/-- A text that names no record of any table is refused. -/
theorem recordId_eq_error_iff {text : String} {cause : Error} :
    recordId text = .error cause ↔
      (∀ table, ¬OwnedBy table text) ∧ cause = .validation (.invalidRecordKey text) := by
  rw [← not_exists, exists_ownedBy_iff, recordId, RecordId.ofText?]
  by_cases valid : isRecordKey text.toList
  · simp [valid]
  · simp [valid, eq_comm]

theorem ownedRecordKey_eq_ok {table text result : String}
    (h : ownedRecordKey table text = .ok result) :
    result = text ∧ isRecordKey text.toList ∧ tableOf text = table := by
  unfold ownedRecordKey at h
  split at h
  · rcases recordKey_eq_ok h with ⟨same, valid⟩
    exact ⟨same, valid, ‹_›⟩
  · cases h

/-- Why a text is refused as the identifier of a record of a table. What stands before its first
colon is looked at first. -/
inductive Misnamed (table text : String) : Error → Prop
  | foreign (other : text.toList.takeWhile (· ≠ ':') ≠ table.toList) :
    Misnamed table text (.validation (.tableMismatch table text))
  | malformed (same : text.toList.takeWhile (· ≠ ':') = table.toList)
      (unowned : ¬OwnedBy table text) :
    Misnamed table text (.validation (.invalidRecordKey text))

theorem ownedRecordKey_eq_ok_iff {table text result : String} :
    ownedRecordKey table text = .ok result ↔ result = text ∧ OwnedBy table text := by
  constructor
  · intro h
    obtain ⟨same, valid, named⟩ := ownedRecordKey_eq_ok h
    exact ⟨same, ownedBy_iff.2 ⟨named, valid⟩⟩
  · rintro ⟨rfl, owned⟩
    obtain ⟨named, valid⟩ := ownedBy_iff.1 owned
    rw [ownedRecordKey, if_pos named, recordKey, if_pos valid]

theorem ownedRecordKey_eq_error_iff {table text : String} {cause : Error} :
    ownedRecordKey table text = .error cause ↔ Misnamed table text cause := by
  by_cases named : tableOf text = table
  · have same := tableOf_eq_iff.1 named
    rw [ownedRecordKey, if_pos named, recordKey]
    by_cases valid : isRecordKey text.toList
    · have owned := ownedBy_iff.2 ⟨named, valid⟩
      rw [if_pos valid]
      constructor
      · intro h
        cases h
      · intro misnamed
        cases misnamed with
        | foreign other => exact absurd same other
        | malformed _ unowned => exact absurd owned unowned
    · rw [if_neg valid]
      constructor
      · intro h
        cases h
        exact .malformed same fun owned => valid (ownedBy_iff.1 owned).2
      · intro misnamed
        cases misnamed with
        | foreign other => exact absurd same other
        | malformed => rfl
  · have other := mt tableOf_eq_iff.2 named
    rw [ownedRecordKey, if_neg named]
    constructor
    · intro h
      cases h
      exact .foreign other
    · intro misnamed
      cases misnamed with
      | foreign => rfl
      | malformed same => exact absurd same other

theorem exists_misnamed {table text : String} (unowned : ¬OwnedBy table text) :
    ∃ cause, Misnamed table text cause := by
  by_cases same : text.toList.takeWhile (· ≠ ':') = table.toList
  · exact ⟨_, .malformed same unowned⟩
  · exact ⟨_, .foreign same⟩

end Validation

end RecordMapper
