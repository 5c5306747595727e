import RecordMapper.Proofs.Agreement
import RecordMapper.Proofs.Identifier
import RecordMapper.Proofs.Members
import RecordMapper.Statement

/-!
Names with values in statements. The equations of a filter and the assignments of an update are
written in one way, `namedText`: the name has to pass a check, and the value has to have a
literal. What can be wrong with one entry is its `Offence`, and a list of entries is refused for
the first one in it (`mapM_namedText_eq_error_iff`), which in a list in order is the one with
the least name (`firstOffence_iff_least`).
-/

namespace RecordMapper.Request

open Identifier (isKey isFieldPath)
open Text (Before)

/-! ## Names -/

theorem selected_of_valid (schema : ModelSchema) {entry : String × Selection}
    (valid : isFieldPath entry.1.toList) : ∃ text, selected schema entry = .ok text := by
  unfold selected
  rw [Validation.fieldPath, if_pos valid]
  simp only [bind, Except.bind]
  cases entry.2 with
  | drop => exact ⟨_, rfl⟩
  | expression text => exact ⟨_, rfl⟩
  | keep => cases schema.projection? entry.1 <;> exact ⟨_, rfl⟩

/-- What is selected has a text if the names of all fields are paths. -/
theorem selection_of_valid (schema : ModelSchema) {select : Option (List (String × Selection))}
    (valid : ∀ entry ∈ select.getD [], isFieldPath entry.1.toList) :
    ∃ fields, selection schema select = .ok fields := by
  obtain ⟨results, done⟩ := exists_mapM_eq_ok_iff.2 fun entry mem =>
    selected_of_valid schema (valid entry mem)
  unfold selection
  rw [done]
  simp only [bind, Except.bind]
  cases results.filterMap fun result => result <;> exact ⟨_, rfl⟩

theorem mapM_fieldPath_eq_ok_iff {names texts : List String} :
    names.mapM Validation.fieldPath = .ok texts ↔
      texts = names ∧ ∀ name ∈ names, isFieldPath name.toList := by
  rw [mapM_eq_ok_iff]
  constructor
  · intro related
    induction related with
    | nil => exact ⟨rfl, List.forall_mem_nil _⟩
    | cons first _ ih =>
      obtain ⟨rfl, valid⟩ := Validation.fieldPath_eq_ok first
      obtain ⟨rfl, others⟩ := ih
      exact ⟨rfl, List.forall_mem_cons.2 ⟨valid, others⟩⟩
  · rintro ⟨rfl, valid⟩
    refine List.forall₂_same.2 fun name mem => ?_
    rw [Validation.fieldPath, if_pos (valid name mem)]

/-! ## Names with values -/

/-- A name that passes the check. -/
def checkedName (check : List Char → Bool) (name : String) : Result String :=
  if check name.toList then .ok name else .error (.validation (.invalidKey name))

/-- The text of a name with its value. The name is checked before the value is written. -/
def namedText (check : List Char → Bool) (write : String → String → String)
    (entry : String × Value) : Result String := do
  let name ← checkedName check entry.1
  let text ← entry.2.literal
  return write name text

theorem equation_eq_namedText :
    equation = namedText isFieldPath fun name text => name ++ " = " ++ text := rfl

theorem assignment_eq_namedText :
    Value.assignment = namedText isKey fun name text => " " ++ name ++ " = " ++ text :=
  rfl

/-- The name passes the check, and the value has a literal. -/
def Fits (check : List Char → Bool) (entry : String × Value) : Prop :=
  check entry.1.toList ∧ ∃ text, entry.2.literal = .ok text

/-- What is wrong with a name and its value; if both are wrong, it is the name. -/
inductive Offence (check : List Char → Bool) (entry : String × Value) : Error → Prop
  | name (refused : check entry.1.toList = false) :
    Offence check entry (.validation (.invalidKey entry.1))
  | value {cause : Error} (passed : check entry.1.toList)
      (unwritten : entry.2.literal = .error cause) : Offence check entry cause

/-- The first entry of a list with which something is wrong, and what is. -/
def FirstOffence (check : List Char → Bool) (entries : List (String × Value)) (cause : Error) :
    Prop :=
  ∃ before entry after, entries = before ++ entry :: after ∧
    (∀ earlier ∈ before, Fits check earlier) ∧ Offence check entry cause

variable {check : List Char → Bool} {write : String → String → String}

theorem namedText_of_refused {entry : String × Value} (refused : check entry.1.toList = false) :
    namedText check write entry = .error (.validation (.invalidKey entry.1)) := by
  unfold namedText checkedName
  rw [refused]
  rfl

theorem namedText_of_passed {entry : String × Value} (passed : check entry.1.toList) :
    namedText check write entry = do
      let text ← entry.2.literal
      return write entry.1 text := by
  unfold namedText checkedName
  rw [if_pos passed]
  rfl

theorem exists_namedText_iff {entry : String × Value} :
    (∃ text, namedText check write entry = .ok text) ↔ Fits check entry := by
  cases passed : check entry.1.toList with
  | false =>
    rw [namedText_of_refused passed, Fits, passed]
    simp
  | true =>
    rw [namedText_of_passed passed, Fits, passed]
    cases entry.2.literal with
    | error cause => exact ⟨nofun, nofun⟩
    | ok text => exact ⟨fun _ => ⟨rfl, text, rfl⟩, fun _ => ⟨_, rfl⟩⟩

theorem namedText_eq_error_iff {entry : String × Value} {cause : Error} :
    namedText check write entry = .error cause ↔ Offence check entry cause := by
  constructor
  · intro failed
    cases passed : check entry.1.toList with
    | false =>
      rw [namedText_of_refused passed] at failed
      cases failed
      exact .name passed
    | true =>
      rw [namedText_of_passed passed, bind_eq_error_iff] at failed
      rcases failed with unwritten | ⟨text, -, failed⟩
      · exact .value passed unwritten
      · cases failed
  · intro offence
    cases offence with
    | name refused => exact namedText_of_refused refused
    | value passed unwritten => rw [namedText_of_passed passed, unwritten]; rfl

theorem exists_mapM_namedText_iff {entries : List (String × Value)} :
    (∃ texts, entries.mapM (namedText check write) = .ok texts) ↔
      ∀ entry ∈ entries, Fits check entry := by
  simp only [exists_mapM_eq_ok_iff, exists_namedText_iff]

theorem mapM_namedText_eq_error_iff {entries : List (String × Value)} {cause : Error} :
    entries.mapM (namedText check write) = .error cause ↔ FirstOffence check entries cause := by
  simp only [mapM_eq_error_iff, exists_namedText_iff, namedText_eq_error_iff]
  rfl

/-- In a list with ascending names the first offence is that of the least name. -/
theorem firstOffence_iff_least {entries : List (String × Value)} (ordered : Members.Ordered entries)
    {cause : Error} :
    FirstOffence check entries cause ↔ ∃ entry ∈ entries, Offence check entry cause ∧
      ∀ other ∈ entries, Before other.1 entry.1 → Fits check other :=
  Members.first_iff_least ordered

end RecordMapper.Request
