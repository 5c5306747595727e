import RecordMapper.Proofs.Statement.Offence
import RecordMapper.Proofs.Statement.Reader

/-!
Filters in statements. Four kinds of requests take a filter, and the filter means the same in
all of them: the equations alone decide whether it has a clause and what is reported if not
(`Filter.exists_clause_iff`, `Filter.clause_eq_error_iff`), the clause stands as it is behind
the table, the data or the assignments (`Filter.StandsIn`), and it is empty only for the filter
that lets all rows pass. One reader, `readMatching`, recovers the equations from a statement
that changes or deletes rows, so no equation is lost on the way (`Filter.clause_shared`).
-/

namespace RecordMapper.Request

open Text (Reader after? EndsToken)
open Text.Reader
open Identifier (isKey isFieldPath)
open Value (readLiteral EndsLiteral)

/-! ## Clauses -/

namespace Filter

variable {filter : Filter} {clause : String}

theorem clause_eq_bind (filter : Filter) :
    filter.clause = do
      let texts ← filter.matching.mapM equation
      return if filter.isEmpty then "" else " WHERE " ++
        " AND ".intercalate (texts ++ filter.condition.toList.map Fragment.text) := by
  unfold clause conditions
  cases filter.matching.mapM equation with
  | error cause => rfl
  | ok texts => cases filter.isEmpty <;> rfl

theorem exists_clause_iff :
    (∃ clause, filter.clause = .ok clause) ↔ ∀ entry ∈ filter.matching, Fits isFieldPath entry := by
  rw [← exists_mapM_namedText_iff, ← equation_eq_namedText, clause_eq_bind]
  cases filter.matching.mapM equation with
  | error cause => exact ⟨nofun, nofun⟩
  | ok texts => exact ⟨fun _ => ⟨texts, rfl⟩, fun _ => ⟨_, rfl⟩⟩

theorem clause_eq_error_iff {cause : Error} :
    filter.clause = .error cause ↔ FirstOffence isFieldPath filter.matching cause := by
  rw [← mapM_namedText_eq_error_iff, ← equation_eq_namedText, clause_eq_bind, bind_eq_error_iff]
  constructor
  · rintro (failed | ⟨texts, -, failed⟩)
    · exact failed
    · cases failed
  · exact .inl

theorem isEmpty_iff : filter.isEmpty ↔ filter.matching = [] ∧ filter.condition = none := by
  simp [isEmpty]

theorem clause_of_isEmpty (done : filter.clause = .ok clause) (empty : filter.isEmpty) :
    clause = "" := by
  rw [clause_eq_bind] at done
  obtain ⟨texts, -, done⟩ := exists_of_bind_eq_ok done
  rw [if_pos empty] at done
  cases done
  rfl

theorem clause_of_not_isEmpty (done : filter.clause = .ok clause) (filled : ¬filter.isEmpty) :
    ∃ conditions, clause = " WHERE " ++ conditions := by
  rw [clause_eq_bind] at done
  obtain ⟨texts, -, done⟩ := exists_of_bind_eq_ok done
  rw [if_neg filled] at done
  cases done
  exact ⟨_, rfl⟩

/-- Only the filter that lets all rows pass has an empty clause. -/
theorem clause_eq_empty_iff (done : filter.clause = .ok clause) :
    clause = "" ↔ filter.matching = [] ∧ filter.condition = none := by
  rw [← isEmpty_iff]
  refine ⟨fun empty => ?_, clause_of_isEmpty done⟩
  by_contra filled
  obtain ⟨conditions, rfl⟩ := clause_of_not_isEmpty done filled
  have length := congrArg String.length empty
  simp at length

/-! ## Statements with a clause -/

/-- Where the clause of a filter stands in the four kinds of statements. -/
structure StandsIn (schema : ModelSchema) (filter : Filter) (clause : String) : Prop where
  update : ∀ request : Update, request.filter = filter → request.query schema = .ok
    ⟨"UPDATE " ++ schema.table ++ " " ++ (if request.replace then "CONTENT" else "MERGE") ++
      " $data" ++ clause ++ " RETURN AFTER", request.vars.insert "data" request.data⟩
  delete : ∀ request : Delete, request.filter = filter → request.query schema = .ok
    ⟨"DELETE " ++ schema.table ++ clause ++ " RETURN BEFORE", request.vars⟩
  assign : ∀ request : Assign, request.filter = filter → ∀ query,
    request.query schema = .ok query → ∃ assignments,
      request.assignments.assignments = .ok assignments ∧
      query.statement = "UPDATE " ++ schema.table ++ " SET" ++ assignments ++ clause ++
        " RETURN AFTER"
  findMany : ∀ request : FindMany, request.filter = filter → ∀ query,
    request.query schema = .ok query → ∃ fields order,
      selection schema request.select = .ok fields ∧ request.orderBy.mapM ordering = .ok order ∧
      query.statement = "SELECT " ++ fields ++ " FROM " ++ schema.table ++ clause ++
        (listClause "ORDER BY" order ++ numberClause "LIMIT" request.limit ++
          numberClause "START" request.start ++ listClause "FETCH" (marked request.fetch))

end Filter

/-- Something is assigned, by keys, and all of it has literals. -/
def Assignable (assignments : Value) : Prop :=
  ∃ members, assignments = .object members ∧ members ≠ [] ∧ ∀ entry ∈ members, Fits isKey entry

/-- A filter is refused alike by the four kinds of requests, where nothing is wrong with the parts
of a request that come before its filter. -/
structure Filter.FailsIn (schema : ModelSchema) (filter : Filter) (cause : Error) : Prop where
  update : ∀ request : Update, request.filter = filter → request.query schema = .error cause
  delete : ∀ request : Delete, request.filter = filter → request.query schema = .error cause
  assign : ∀ request : Assign, request.filter = filter → Assignable request.assignments →
    request.query schema = .error cause
  findMany : ∀ request : FindMany, request.filter = filter →
    (∀ entry ∈ request.select.getD [], isFieldPath entry.1.toList) →
      request.query schema = .error cause

/-- Members of an object are assigned one by one, if there are any. -/
theorem Assign.query_of_members {schema : ModelSchema} {request : Assign}
    {members : List (String × Value)} (assigned : request.assignments = .object members)
    (some : members ≠ []) :
    request.query schema = do
      let texts ← members.mapM Value.assignment
      let clause ← request.filter.clause
      return { statement := "UPDATE " ++ schema.table ++ " SET" ++ ",".intercalate texts ++
        clause ++ " RETURN AFTER" } := by
  obtain ⟨first, rest, rfl⟩ := List.exists_cons_of_ne_nil some
  unfold query
  simp only [assigned, Value.assignments, bind_assoc, pure_bind]

namespace Filter

variable {schema : ModelSchema} {filter : Filter}

theorem standsIn {clause : String} (done : filter.clause = .ok clause) :
    filter.StandsIn schema clause where
  update := by
    rintro request rfl
    unfold Update.query
    rw [done]
    rfl
  delete := by
    rintro request rfl
    unfold Delete.query
    rw [done]
    rfl
  assign := by
    rintro request rfl query compiled
    unfold Assign.query at compiled
    split at compiled
    · obtain ⟨assignments, assigned, compiled⟩ := exists_of_bind_eq_ok compiled
      rw [done] at compiled
      cases compiled
      exact ⟨assignments, assigned, rfl⟩
    · cases compiled
  findMany := by
    rintro request rfl query compiled
    obtain ⟨fields, selected, compiled⟩ := exists_of_bind_eq_ok compiled
    obtain ⟨found, filtered, compiled⟩ := exists_of_bind_eq_ok compiled
    obtain ⟨order, ordered, compiled⟩ := exists_of_bind_eq_ok compiled
    obtain ⟨fetch, fetched, compiled⟩ := exists_of_bind_eq_ok compiled
    cases compiled
    cases done.symm.trans filtered
    obtain ⟨rfl, -⟩ := mapM_fieldPath_eq_ok_iff.1 fetched
    exact ⟨fields, order, selected, ordered, by simp only [String.append_assoc]⟩

theorem failsIn {cause : Error} (refused : filter.clause = .error cause) :
    filter.FailsIn schema cause where
  update := by
    rintro request rfl
    unfold Update.query
    rw [refused]
    rfl
  delete := by
    rintro request rfl
    unfold Delete.query
    rw [refused]
    rfl
  assign := by
    rintro request rfl ⟨members, assigned, some, fits⟩
    obtain ⟨texts, written⟩ := exists_mapM_namedText_iff.2 fits
    rw [Assign.query_of_members assigned some, assignment_eq_namedText, written, refused]
    rfl
  findMany := by
    rintro request rfl valid
    obtain ⟨fields, selected⟩ := selection_of_valid schema valid
    unfold FindMany.query
    rw [selected, refused]
    rfl

/-! ## Reading equations -/

/-- The equations of a filter, with a string in the place of each timestamp. -/
def equations (filter : Filter) : List (String × Value) :=
  filter.matching.map fun entry => (entry.1, entry.2.timesAsText)

end Filter

/-- Reads the clause of a filter without a condition. -/
def readEquations : Reader (List (String × Value)) :=
  led (lead "WHERE") [] (separated " AND " (pair readPath " = " readLiteral))

/-- What was read from a statement, if the rest of the statement is its ending. -/
def endingWith {α : Type} (ending : String) (value : α) (rest : List Char) : Option α :=
  if rest = ending.toList then some value else none

theorem endingWith_self {α : Type} (ending : String) (value : α) :
    endingWith ending value ending.toList = some value := if_pos rfl

/-- Reads the equations of a statement that has the given texts before the name of its table,
between the name and the clause, and behind the clause. -/
def readBetween (start middle ending statement : String) : Option (List (String × Value)) := do
  let rest ← after? start statement.toList
  let (_, rest) ← readKey rest
  let rest ← after? middle rest
  let (equations, rest) ← readEquations rest
  endingWith ending equations rest

/-- Reads the equations of a statement that changes or deletes rows. -/
def readMatching (statement : String) : Option (List (String × Value)) :=
  (readBetween "DELETE " "" " RETURN BEFORE" statement).or
    ((readBetween "UPDATE " " CONTENT $data" " RETURN AFTER" statement).or
      (readBetween "UPDATE " " MERGE $data" " RETURN AFTER" statement))

theorem takes_equations {keywords : List String} (distinct : Clash " AND " keywords)
    (absent : Clash (lead "WHERE") keywords) {filter : Filter} (none : filter.condition = none)
    {clause : String} (done : filter.clause = .ok clause) :
    TakesClause "WHERE" keywords readEquations clause filter.equations := by
  obtain ⟨texts, rfl, related⟩ := reads_filter none done
  exact takes_clause (Value.endsLiteral_cons (by decide)) (fun _ => endsLiteral_of_continues)
    distinct absent related

theorem endsToken_blank (rest : List Char) : EndsToken Identifier.isKeyChar (' ' :: rest) := by
  intro c next
  cases next
  rfl

/-- What is returned is said at the end of a statement. -/
theorem continues_return (what : String) : Continues ["RETURN"] (lead "RETURN" ++ what).toList :=
  .inr ⟨"RETURN", List.mem_singleton_self _, what.toList, String.toList_append.symm⟩

section

variable {table clause : String} {equations : List (String × Value)}
  (tableKey : isKey table.toList)
  (takes : TakesClause "WHERE" ["RETURN"] readEquations clause equations)

include tableKey takes

theorem readBetween_append (start middle : String) {ending : String}
    (ended : ∀ rest, Continues ["WHERE", "RETURN"] rest →
      EndsToken Identifier.isKeyChar (middle.toList ++ rest))
    (returns : Continues ["RETURN"] ending.toList) :
    readBetween start middle ending (start ++ table ++ middle ++ clause ++ ending) =
      some equations := by
  obtain ⟨read, continues⟩ := takes _ returns
  have tableRead := reads_key tableKey _ (ended _ continues)
  have split : (start ++ table ++ middle ++ clause ++ ending).toList =
      start.toList ++ (table.toList ++ (middle.toList ++ (clause.toList ++ ending.toList))) := by
    simp
  unfold readBetween
  rw [split, Text.after?_append]
  simp only [tableRead, Text.after?_append, read, endingWith_self, Option.bind_eq_bind,
    Option.bind_some]

omit tableKey takes in
theorem readBetween_of_start {start other middle ending rest : String}
    (distinct : after? start (other.toList ++ rest.toList) = none) :
    readBetween start middle ending (other ++ rest) = none := by
  unfold readBetween
  rw [String.toList_append, distinct]
  rfl

omit takes in
theorem readBetween_of_middle (start : String) {middle ending rest : String}
    (ended : EndsToken Identifier.isKeyChar rest.toList)
    (distinct : after? middle rest.toList = none) :
    readBetween start middle ending (start ++ (table ++ rest)) = none := by
  have tableRead := reads_key tableKey _ ended
  unfold readBetween
  rw [String.toList_append, Text.after?_append, String.toList_append]
  simp only [tableRead, distinct, Option.bind_eq_bind, Option.bind_some]
  rfl

theorem readMatching_delete :
    readMatching ("DELETE " ++ table ++ clause ++ " RETURN BEFORE") = some equations := by
  have returns : Continues ["RETURN"] " RETURN BEFORE".toList := continues_return "BEFORE"
  have read := readBetween_append tableKey takes "DELETE " ""
    (fun _ => endsToken_of_continues rfl) returns
  rw [String.append_empty] at read
  rw [readMatching, read, Option.some_or]

/-- The two ways to change rows are told apart by the word behind the table. -/
theorem readMatching_update (replace : Bool) :
    readMatching ("UPDATE " ++ table ++ " " ++ (if replace then "CONTENT" else "MERGE") ++
      " $data" ++ clause ++ " RETURN AFTER") = some equations := by
  have returns : Continues ["RETURN"] " RETURN AFTER".toList := continues_return "AFTER"
  have noDelete (rest : String) :
      readBetween "DELETE " "" " RETURN BEFORE" ("UPDATE " ++ rest) = none :=
    readBetween_of_start rfl
  cases replace with
  | true =>
    have read := readBetween_append tableKey takes "UPDATE " " CONTENT $data"
      (fun _ _ => endsToken_blank _) returns
    have spelled : " " ++ ("CONTENT" ++ (" $data" ++ (clause ++ " RETURN AFTER"))) =
      " CONTENT $data" ++ (clause ++ " RETURN AFTER") := by
      simp only [← String.append_assoc]
      rfl
    simp only [String.append_assoc, spelled, if_true] at read ⊢
    rw [readMatching, noDelete, Option.none_or, read, Option.some_or]
  | false =>
    have read := readBetween_append tableKey takes "UPDATE " " MERGE $data"
      (fun _ _ => endsToken_blank _) returns
    have spelled : " " ++ ("MERGE" ++ (" $data" ++ (clause ++ " RETURN AFTER"))) =
      " MERGE $data" ++ (clause ++ " RETURN AFTER") := by
      simp only [← String.append_assoc]
      rfl
    have noContent : readBetween "UPDATE " " CONTENT $data" " RETURN AFTER"
        ("UPDATE " ++ (table ++ (" MERGE $data" ++ (clause ++ " RETURN AFTER")))) = none := by
      refine readBetween_of_middle tableKey "UPDATE " ?_ ?_
      · rw [String.toList_append]
        exact endsToken_blank _
      · rw [String.toList_append]
        rfl
    simp only [String.append_assoc, spelled, Bool.false_eq_true, if_false] at read ⊢
    rw [readMatching, noDelete, Option.none_or, noContent, Option.none_or, read]

end

/-! ## The filter as a whole -/

namespace Filter

/-- Whether there is a query, and what is wrong if not, hangs on the equations only. -/
def Decides (filter : Filter) (outcome : Result Query) : Prop :=
  ((∃ query, outcome = .ok query) ↔ ∀ entry ∈ filter.matching, Fits isFieldPath entry) ∧
    ∀ cause, outcome = .error cause ↔ FirstOffence isFieldPath filter.matching cause

/-- The query changes or deletes the rows of the filter. -/
inductive Acts (schema : ModelSchema) (filter : Filter) (query : Query) : Prop
  | update (request : Update) (same : request.filter = filter)
    (compiled : request.query schema = .ok query)
  | delete (request : Delete) (same : request.filter = filter)
    (compiled : request.query schema = .ok query)

variable {schema : ModelSchema} {filter : Filter}

/-- A query that only adds to the clause of a filter is there whenever the clause is. -/
theorem decides_of_bind {outcome : Result Query} {next : String → Query}
    (made : outcome = filter.clause >>= fun clause => pure (next clause)) :
    filter.Decides outcome := by
  rw [made]
  refine ⟨?_, fun cause => ?_⟩
  · rw [← exists_clause_iff]
    cases filter.clause with
    | error cause => exact ⟨nofun, nofun⟩
    | ok clause => exact ⟨fun _ => ⟨clause, rfl⟩, fun _ => ⟨_, rfl⟩⟩
  · rw [← clause_eq_error_iff, bind_eq_error_iff]
    constructor
    · rintro (failed | ⟨clause, -, failed⟩)
      · exact failed
      · cases failed
    · exact .inl

theorem readMatching_of_acts (tableKey : isKey schema.table.toList) (none : filter.condition = none)
    {query : Query} (acts : filter.Acts schema query) :
    readMatching query.statement = some filter.equations := by
  have distinct : Clash " AND " ["RETURN"] := by decide
  have absent : Clash (lead "WHERE") ["RETURN"] := by decide
  cases acts with
  | update request same compiled =>
    obtain ⟨clause, done, -⟩ := exists_of_bind_eq_ok compiled
    rw [same] at done
    cases compiled.symm.trans ((standsIn done).update request same)
    exact readMatching_update tableKey (takes_equations distinct absent none done) request.replace
  | delete request same compiled =>
    obtain ⟨clause, done, -⟩ := exists_of_bind_eq_ok compiled
    rw [same] at done
    cases compiled.symm.trans ((standsIn done).delete request same)
    exact readMatching_delete tableKey (takes_equations distinct absent none done)

/-- A filter means the same in every kind of request. It is refused for its first equation with
which something is wrong, and else its one clause stands in all four statements. The clause is
missing only where there is nothing to say, and it gives all equations back, so filters with
different equations never come to one statement. -/
theorem clause_shared (schema : ModelSchema) (filter : Filter) :
    (∀ request : Update, request.filter = filter → filter.Decides (request.query schema)) ∧
    (∀ request : Delete, request.filter = filter → filter.Decides (request.query schema)) ∧
    (∀ cause, FirstOffence isFieldPath filter.matching cause → filter.FailsIn schema cause) ∧
    ((∀ entry ∈ filter.matching, Fits isFieldPath entry) → ∃ clause,
      filter.StandsIn schema clause ∧
      (clause = "" ↔ filter.matching = [] ∧ filter.condition = none) ∧
      (clause ≠ "" → ∃ conditions, clause = " WHERE " ++ conditions)) ∧
    (isKey schema.table.toList → filter.condition = none → ∀ query, filter.Acts schema query →
      readMatching query.statement = some filter.equations ∧
      ∀ (other : ModelSchema) (filter' : Filter) (query' : Query), isKey other.table.toList →
        filter'.condition = none → filter'.Acts other query' →
        query'.statement = query.statement → filter'.equations = filter.equations) := by
  refine ⟨fun request same => ?_, fun request same => ?_, fun cause first => ?_, fun fits => ?_,
    fun tableKey none query acts => ?_⟩
  · subst same
    exact decides_of_bind rfl
  · subst same
    exact decides_of_bind rfl
  · exact failsIn (clause_eq_error_iff.2 first)
  · obtain ⟨clause, done⟩ := exists_clause_iff.2 fits
    refine ⟨clause, standsIn done, clause_eq_empty_iff done, fun filled => ?_⟩
    exact clause_of_not_isEmpty done fun empty => filled (clause_of_isEmpty done empty)
  · have read := readMatching_of_acts tableKey none acts
    refine ⟨read, fun other filter' query' tableKey' none' acts' same => ?_⟩
    have read' := readMatching_of_acts tableKey' none' acts'
    rw [same, read] at read'
    exact (Option.some.inj read').symm

/-- The string looks like the end of the statement, and the second field like its clause. -/
theorem clause_shared_delete :
    readMatching
        "DELETE fruit WHERE name = \" AND a = 1 RETURN BEFORE\" AND WHERE = 2 RETURN BEFORE" =
      some [("name", .string " AND a = 1 RETURN BEFORE"), ("WHERE", .int 2 (by decide))] := by
  let filter : Filter := {
    matching := [("name", .string " AND a = 1 RETURN BEFORE"), ("WHERE", .int 2 (by decide))] }
  let request : Delete := { filter }
  have compiled : request.query (.ofTable "fruit") = .ok
      ⟨"DELETE fruit WHERE name = \" AND a = 1 RETURN BEFORE\" AND WHERE = 2 RETURN BEFORE",
        .empty⟩ := by rfl
  obtain ⟨-, -, -, -, reads⟩ := clause_shared (.ofTable "fruit") filter
  exact (reads (by decide) rfl _ (.delete request rfl compiled)).1

end Filter

end RecordMapper.Request
