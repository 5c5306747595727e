import RecordMapper.Proofs.Statement.Filtered

/-!
Statements that set fields. What is wrong with such a request is found in a fixed order: there
has to be something to assign, the assignments come in the order of their keys, and the
equations of the filter come after them. A statement that was made gives all of it back to one
reader, `readAssign`, whatever keywords the keys and the strings spell
(`Assign.readAssign_query`).
-/

namespace RecordMapper.Request

open Text (Reader after? Before)
open Text.Reader
open Identifier (isKey isFieldPath)
open Value (readLiteral EndsLiteral)

/-- What a request to set fields asks for. -/
structure Assigned where
  table : String
  assignments : List (String × Value)
  matching : List (String × Value)

/-- Reads one assignment with the blank before it. -/
def readAssignment : Reader (String × Value) := behind " " (pair readKey " = " readLiteral)

/-- Reads a statement that sets fields. -/
def readAssign (statement : String) : Option Assigned := do
  let rest ← after? "UPDATE " statement.toList
  let (table, rest) ← readKey rest
  let rest ← after? " SET" rest
  let (assignments, rest) ← separated "," readAssignment rest
  let (matching, rest) ← readEquations rest
  endingWith " RETURN AFTER" { table, assignments, matching } rest

theorem reads_assignment (entry : String × Value) (text : String)
    (written : Value.assignment entry = .ok text) :
    Reads readAssignment EndsLiteral text (entry.1, entry.2.timesAsText) := by
  obtain ⟨name, checked, written⟩ := exists_of_bind_eq_ok written
  obtain ⟨literal, encoded, written⟩ := exists_of_bind_eq_ok written
  cases written
  obtain ⟨rfl, valid⟩ := Validation.key_eq_ok checked
  have split : " " ++ entry.1 ++ " = " ++ literal = " " ++ (entry.1 ++ " = " ++ literal) := by
    simp only [String.append_assoc]
  rw [split]
  exact reads_behind " " (reads_pair (reads_key valid) (fun _ => endsToken_blank _)
    (Value.reads_literal encoded))

/-- The parts of a statement that sets fields are read one after the other. -/
theorem readAssign_parts {table clause : String} {texts : List String}
    {assignments matching : List (String × Value)} (tableKey : isKey table.toList)
    (nonempty : texts ≠ [])
    (related : List.Forall₂ (Reads readAssignment EndsLiteral) texts assignments)
    (takes : TakesClause "WHERE" ["RETURN"] readEquations clause matching) :
    readAssign ("UPDATE " ++ table ++ " SET" ++ ",".intercalate texts ++ clause ++
      " RETURN AFTER") = some { table, assignments, matching } := by
  have returns : Continues ["RETURN"] " RETURN AFTER".toList := continues_return "AFTER"
  obtain ⟨matchingRead, continues⟩ := takes _ returns
  have distinct : Clash "," ["WHERE", "RETURN"] := by decide
  have assigned := reads_separated (by decide) (Value.endsLiteral_cons (by decide)) related nonempty
    (clause.toList ++ " RETURN AFTER".toList)
    ⟨endsLiteral_of_continues continues, after?_of_continues distinct continues⟩
  have tableRead := reads_key tableKey
    (" SET".toList ++ ((",".intercalate texts).toList ++ (clause.toList ++ " RETURN AFTER".toList)))
    (endsToken_blank _)
  have split : ("UPDATE " ++ table ++ " SET" ++ ",".intercalate texts ++ clause ++
      " RETURN AFTER").toList = "UPDATE ".toList ++ (table.toList ++ (" SET".toList ++
        ((",".intercalate texts).toList ++ (clause.toList ++ " RETURN AFTER".toList)))) := by
    simp
  unfold readAssign
  rw [split, Text.after?_append]
  simp only [tableRead, Text.after?_append, assigned, matchingRead, endingWith_self,
    Option.bind_eq_bind, Option.bind_some]

namespace Assign

variable {schema : ModelSchema} {request : Assign} {members : List (String × Value)}

/-- There has to be something to assign. -/
theorem query_of_nothing
    (nothing : ¬∃ members, request.assignments = .object members ∧ members ≠ []) :
    request.query schema = .error (.serialization .emptyAssignments) := by
  unfold query
  split
  · exact absurd ⟨_, ‹_›, List.cons_ne_nil _ _⟩ nothing
  · rfl

theorem exists_query_iff (assigned : request.assignments = .object members)
    (nonempty : members ≠ []) :
    (∃ query, request.query schema = .ok query) ↔ (∀ entry ∈ members, Fits isKey entry) ∧
      ∀ entry ∈ request.filter.matching, Fits isFieldPath entry := by
  rw [query_of_members assigned nonempty, ← Filter.exists_clause_iff, assignment_eq_namedText,
    ← exists_mapM_namedText_iff]
  constructor
  · rintro ⟨query, compiled⟩
    obtain ⟨texts, written, compiled⟩ := exists_of_bind_eq_ok compiled
    obtain ⟨clause, done, compiled⟩ := exists_of_bind_eq_ok compiled
    exact ⟨⟨texts, written⟩, clause, done⟩
  · rintro ⟨⟨texts, written⟩, clause, done⟩
    rw [written, done]
    exact ⟨_, rfl⟩

/-- The assignments are looked at before the equations. -/
theorem query_eq_error_iff (assigned : request.assignments = .object members)
    (nonempty : members ≠ []) {cause : Error} :
    request.query schema = .error cause ↔ FirstOffence isKey members cause ∨
      (∀ entry ∈ members, Fits isKey entry) ∧
        FirstOffence isFieldPath request.filter.matching cause := by
  rw [query_of_members assigned nonempty, ← Filter.clause_eq_error_iff, assignment_eq_namedText,
    ← mapM_namedText_eq_error_iff, ← exists_mapM_namedText_iff, bind_eq_error_iff]
  simp only [bind_eq_error_iff]
  constructor
  · rintro (failed | ⟨texts, written, failed | ⟨clause, -, failed⟩⟩)
    · exact .inl failed
    · exact .inr ⟨⟨texts, written⟩, failed⟩
    · cases failed
  · rintro (failed | ⟨⟨texts, written⟩, failed⟩)
    · exact .inl failed
    · exact .inr ⟨texts, written, .inl failed⟩

theorem readAssign_eq (tableKey : isKey schema.table.toList)
    (none : request.filter.condition = none) (assigned : request.assignments = .object members)
    (nonempty : members ≠ []) {query : Query} (compiled : request.query schema = .ok query) :
    readAssign query.statement = some {
      table := schema.table
      assignments := members.map fun entry => (entry.1, entry.2.timesAsText)
      matching := request.filter.equations } := by
  rw [query_of_members assigned nonempty] at compiled
  obtain ⟨texts, written, compiled⟩ := exists_of_bind_eq_ok compiled
  obtain ⟨clause, done, compiled⟩ := exists_of_bind_eq_ok compiled
  cases compiled
  have related := reads_mapM reads_assignment written
  have some : texts ≠ [] := by
    rintro rfl
    exact nonempty (List.map_eq_nil_iff.1 (List.forall₂_nil_left_iff.1 related))
  exact readAssign_parts tableKey some related (takes_equations (by decide) (by decide) none done)

/-- A request that assigns nothing is refused. Any other is refused for the first thing that is
wrong with it, the assignments in the order of their keys before the equations of the filter, and
if nothing is wrong, its statement shows the assignments and the equations. -/
theorem readAssign_query (schema : ModelSchema) (request : Assign) :
    ((¬∃ members, request.assignments = .object members ∧ members ≠ []) →
      request.query schema = .error (.serialization .emptyAssignments)) ∧
    ∀ members, request.assignments = .object members → members ≠ [] →
      ((∃ query, request.query schema = .ok query) ↔ (∀ entry ∈ members, Fits isKey entry) ∧
        ∀ entry ∈ request.filter.matching, Fits isFieldPath entry) ∧
      (Members.Ordered members → ∀ cause, request.query schema = .error cause ↔
        (∃ entry ∈ members, Offence isKey entry cause ∧
          ∀ other ∈ members, Before other.1 entry.1 → Fits isKey other) ∨
        (∀ entry ∈ members, Fits isKey entry) ∧
          FirstOffence isFieldPath request.filter.matching cause) ∧
      (isKey schema.table.toList → request.filter.condition = none →
        ∀ query, request.query schema = .ok query → readAssign query.statement = some {
          table := schema.table
          assignments := members.map fun entry => (entry.1, entry.2.timesAsText)
          matching := request.filter.equations }) := by
  refine ⟨query_of_nothing, fun members assigned nonempty => ⟨exists_query_iff assigned nonempty,
    fun ordered cause => ?_, fun tableKey none query compiled => ?_⟩⟩
  · rw [query_eq_error_iff assigned nonempty, firstOffence_iff_least ordered]
  · exact readAssign_eq tableKey none assigned nonempty compiled

/-- The keys are keywords of the statement, and the strings hold what separates assignments and
what ends them. -/
theorem readAssign_query_keywords :
    readAssign
        "UPDATE SET SET RETURN = [1,2], WHERE = \", a = 1\" WHERE b = \" RETURN\" RETURN AFTER" =
      some {
        table := "SET"
        assignments := [("RETURN", .array [.int 1 (by decide), .int 2 (by decide)]),
          ("WHERE", .string ", a = 1")]
        matching := [("b", .string " RETURN")] } := by
  let request : Assign := {
    filter := { matching := [("b", .string " RETURN")] }
    assignments := .object [("RETURN", .array [.int 1 (by decide), .int 2 (by decide)]),
      ("WHERE", .string ", a = 1")] }
  let query : Query :=
    ⟨"UPDATE SET SET RETURN = [1,2], WHERE = \", a = 1\" WHERE b = \" RETURN\" RETURN AFTER",
      .empty⟩
  have compiled : request.query (.ofTable "SET") = .ok query := by rfl
  obtain ⟨-, -, reads⟩ := (readAssign_query (.ofTable "SET") request).2 _ rfl (List.cons_ne_nil _ _)
  have read := reads (by decide) rfl query compiled
  exact read

end Assign

end RecordMapper.Request
