import RecordMapper.Proofs.Agreement
import RecordMapper.Statement

/-!
What a request to find rows is checked for. Its names and values are looked at one after the
other, and `FindMany.checks` lists them in that order: a field that is dropped from the selection
is in the list, a field that is not fetched is in none. The query fails where the walk over this
list fails (`FindMany.query_failsLike_checks`), so a request is refused for the first check that
fails, and nothing that is not in the list has a say in it (`FindMany.refused_at_first_check`).
-/

namespace RecordMapper

namespace Request

open Identifier (isFieldPath)

/-! ## Checks -/

/-- One thing in a request that can be wrong. -/
inductive Check where
  /-- The name of a field. -/
  | path (name : String)
  /-- A value that enters the statement as a literal. -/
  | literal (value : Value)

namespace Check

/-- The name is a path of keys; the value has a literal. -/
def Passes : Check → Prop
  | .path name => isFieldPath name.toList
  | .literal value => ∃ text, value.literal = .ok text

/-- What is wrong with a name is the name, and with a value that it has no literal. -/
inductive Fails : Check → Error → Prop
  | path {name : String} (refused : isFieldPath name.toList = false) :
    Fails (.path name) (.validation (.invalidKey name))
  | literal {value : Value} {cause : Error} (unwritten : value.literal = .error cause) :
    Fails (.literal value) cause

/-- The text that passes, or what is wrong. -/
def run : Check → Result String
  | .path name => Validation.fieldPath name
  | .literal value => value.literal

theorem exists_run_iff {check : Check} : (∃ text, check.run = .ok text) ↔ check.Passes := by
  cases check with
  | literal value => exact Iff.rfl
  | path name =>
    show (∃ text, Validation.fieldPath name = .ok text) ↔ isFieldPath name.toList
    unfold Validation.fieldPath
    cases isFieldPath name.toList <;> simp

theorem run_eq_error_iff {check : Check} {cause : Error} :
    check.run = .error cause ↔ check.Fails cause := by
  constructor
  · intro failed
    cases check with
    | literal value => exact .literal failed
    | path name =>
      replace failed : Validation.fieldPath name = .error cause := failed
      unfold Validation.fieldPath at failed
      split at failed
      · cases failed
      · rename_i refused
        cases failed
        exact .path (Bool.eq_false_iff.2 refused)
  · intro fails
    cases fails with
    | literal unwritten => exact unwritten
    | path refused => simp [run, Validation.fieldPath, refused]

end Check

/-- The first of the checks that fails, and what is wrong there. -/
def FirstFailure (checks : List Check) (cause : Error) : Prop :=
  ∃ before check after, checks = before ++ check :: after ∧
    (∀ earlier ∈ before, earlier.Passes) ∧ check.Fails cause

theorem exists_mapM_run_iff {checks : List Check} :
    (∃ texts, checks.mapM Check.run = .ok texts) ↔ ∀ check ∈ checks, check.Passes := by
  simp only [exists_mapM_eq_ok_iff, Check.exists_run_iff]

theorem mapM_run_eq_error_iff {checks : List Check} {cause : Error} :
    checks.mapM Check.run = .error cause ↔ FirstFailure checks cause := by
  simp only [mapM_eq_error_iff, Check.exists_run_iff, Check.run_eq_error_iff]
  rfl

/-- A walk over a list fails like its checks, where each step fails like the checks of its item. -/
theorem mapM_failsLike_checks {α β : Type} {f : α → Result β} {checks : α → List Check}
    (each : ∀ x, FailsLike (f x) ((checks x).mapM Check.run)) (xs : List α) :
    FailsLike (xs.mapM f) ((xs.flatMap checks).mapM Check.run) := by
  induction xs with
  | nil => trivial
  | cons x xs ih =>
    rw [List.mapM_cons, List.flatMap_cons, List.mapM_append]
    exact (each x).bind fun _ _ => ih.bind fun _ _ => trivial

/-! ## Finding rows -/

/-- The check of a name alone. -/
def nameCheck {α : Type} (entry : String × α) : List Check := [.path entry.1]

/-- The checks of an equation: the field before its value. -/
def equationChecks (entry : String × Value) : List Check := [.path entry.1, .literal entry.2]

/-- All that is checked of a request, in order: every field of the selection, dropped or not, the
equations, the order, and the fields that are to be fetched. -/
def FindMany.checks (request : FindMany) : List Check :=
  (request.select.getD []).flatMap nameCheck ++ request.filter.matching.flatMap equationChecks ++
    request.orderBy.flatMap nameCheck ++ (request.fetch.filter Prod.snd).flatMap nameCheck

/-- A step that checks a name and then succeeds fails like the check. -/
theorem failsLike_nameCheck {α β : Type} {entry : String × α} {next : String → Result β}
    (done : ∀ name, ∃ b, next name = .ok b) :
    FailsLike (Validation.fieldPath entry.1 >>= next) ((nameCheck entry).mapM Check.run) := by
  rw [nameCheck, List.mapM_cons, List.mapM_nil]
  refine (FailsLike.refl _).bind fun name _ => ?_
  obtain ⟨b, done⟩ := done name
  rw [done]
  trivial

theorem selection_failsLike (schema : ModelSchema) (select : Option (List (String × Selection))) :
    FailsLike (selection schema select)
      (((select.getD []).flatMap nameCheck).mapM Check.run) := by
  have each (entry : String × Selection) :
      FailsLike (selected schema entry) ((nameCheck entry).mapM Check.run) := by
    refine failsLike_nameCheck fun name => ?_
    cases entry.2 with
    | drop => exact ⟨_, rfl⟩
    | expression text => exact ⟨_, rfl⟩
    | keep => cases schema.projection? name <;> exact ⟨_, rfl⟩
  refine FailsLike.trans (FailsLike.of_bind_ok fun results => ?_) (mapM_failsLike_checks each _)
  cases results.filterMap fun result => result <;> exact ⟨_, rfl⟩

theorem clause_failsLike (filter : Filter) :
    FailsLike filter.clause ((filter.matching.flatMap equationChecks).mapM Check.run) := by
  have each (entry : String × Value) :
      FailsLike (equation entry) ((equationChecks entry).mapM Check.run) := by
    rw [equation, equationChecks, List.mapM_cons, List.mapM_cons, List.mapM_nil]
    refine (FailsLike.refl _).bind fun _ _ => ?_
    simp only [bind_assoc, pure_bind]
    exact (FailsLike.refl _).bind fun _ _ => trivial
  have conditions : FailsLike filter.conditions (filter.matching.mapM equation) :=
    FailsLike.of_bind_ok fun _ => ⟨_, rfl⟩
  refine FailsLike.trans (FailsLike.of_bind_ok fun texts => ?_)
    (conditions.trans (mapM_failsLike_checks each _))
  cases filter.isEmpty <;> exact ⟨_, rfl⟩

/-- The parts of a request are gone through in the order of its checks. -/
theorem FindMany.query_failsLike_checks (schema : ModelSchema) (request : FindMany) :
    FailsLike (request.query schema) (request.checks.mapM Check.run) := by
  have order : FailsLike (request.orderBy.mapM ordering)
      ((request.orderBy.flatMap nameCheck).mapM Check.run) :=
    mapM_failsLike_checks (fun _ => failsLike_nameCheck fun _ => ⟨_, rfl⟩) _
  have fetch : FailsLike ((marked request.fetch).mapM Validation.fieldPath)
      (((request.fetch.filter Prod.snd).flatMap nameCheck).mapM Check.run) := by
    rw [marked, List.mapM_map]
    refine mapM_failsLike_checks (fun entry => ?_) _
    rw [Function.comp_apply, ← bind_pure (Validation.fieldPath entry.1)]
    exact failsLike_nameCheck fun name => ⟨name, rfl⟩
  unfold FindMany.query checks
  simp only [List.mapM_append, bind_assoc, pure_bind]
  refine (selection_failsLike schema request.select).bind fun _ _ => ?_
  refine (clause_failsLike request.filter).bind fun _ _ => ?_
  exact order.bind fun _ _ => fetch.bind fun _ _ => trivial

/-- A request to find rows is accepted just where every field of its selection, dropped or not, is
a path, every equation has a path and a literal, and so are the fields of its order and those that
are to be fetched. Otherwise the first check that fails is reported. Nothing else has a say in it:
neither the schema, nor limit, start, variables, the condition, or what a field is selected as. -/
theorem FindMany.refused_at_first_check (schema : ModelSchema) (request : FindMany) :
    ((∃ query, request.query schema = .ok query) ↔
      (∀ entry ∈ request.select.getD [], isFieldPath entry.1.toList) ∧
      (∀ entry ∈ request.filter.matching, isFieldPath entry.1.toList ∧
        ∃ text, entry.2.literal = .ok text) ∧
      (∀ entry ∈ request.orderBy, isFieldPath entry.1.toList) ∧
      ∀ entry ∈ request.fetch, entry.2 → isFieldPath entry.1.toList) ∧
    (∀ cause, request.query schema = .error cause ↔ FirstFailure request.checks cause) ∧
    ∀ (other : ModelSchema) (request' : FindMany),
      (request'.select.getD []).map Prod.fst = (request.select.getD []).map Prod.fst →
      request'.filter.matching = request.filter.matching →
      request'.orderBy = request.orderBy → request'.fetch = request.fetch →
      ∀ cause, request'.query other = .error cause ↔ request.query schema = .error cause := by
  have alike := query_failsLike_checks schema request
  refine ⟨?_, fun cause => ?_, fun other request' names matching order fetch cause => ?_⟩
  · rw [alike.exists_ok_iff, exists_mapM_run_iff]
    simp only [checks, nameCheck, equationChecks, List.forall_mem_append, List.forall_mem_flatMap,
      List.forall_mem_cons, List.mem_filter, and_imp, and_assoc]
    simp [Check.Passes]
  · rw [alike.eq_error_iff, mapM_run_eq_error_iff]
  · have same : request'.checks = request.checks := by
      have paths {α : Type} (entries : List (String × α)) :
          entries.flatMap nameCheck = (entries.map Prod.fst).map .path := by
        rw [List.map_map, List.map_eq_flatMap]
        rfl
      rw [checks, checks, paths, paths (request.select.getD []), names, matching, order, fetch]
    rw [(query_failsLike_checks other request').eq_error_iff, alike.eq_error_iff, same]

/-- The field that is not fetched is not looked at, and the one that is dropped is. -/
example (schema : ModelSchema) :
    FindMany.query schema { select := some [("a b", .drop)], fetch := [("", false)] } =
      .error (.validation (.invalidKey "a b")) := rfl

end Request

end RecordMapper
