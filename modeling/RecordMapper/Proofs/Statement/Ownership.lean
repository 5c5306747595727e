import RecordMapper.Proofs.Identifier
import RecordMapper.Proofs.Statement.Offence
import RecordMapper.Proofs.Statement.Operation

/-!
Records and their tables. A request to make a record, or to find one, may name the record by an
identifier. It is accepted exactly if the identifier belongs to the table of the request, and it
is refused for one of two reasons that `Validation.Misnamed` lists, the same for both requests
(`Request.named_records_owned`). So no request that is accepted names a record of another table.
-/

namespace RecordMapper

/-- The data of a new record leaves its name to the database. -/
def Value.Unnamed (data : Value) : Prop := data.get? "id" = none ∨ data.get? "id" = some .null

/-- The data of a new record names it by a text, or by an identifier with that text. -/
def Value.NamedBy (data : Value) (text : String) : Prop :=
  data.get? "id" = some (.string text) ∨ ∃ id, data.get? "id" = some (.record id) ∧ id.text = text

namespace Request

open Identifier (OwnedBy isFieldPath)
open Validation (Misnamed)

/-! ## Making a record -/

namespace Create

variable {schema : ModelSchema} {request : Create}

theorem target_of_unnamed (unnamed : request.data.Unnamed) :
    request.target schema = .ok schema.table := by
  unfold target
  rcases unnamed with none | null
  · rw [none]
  · rw [null]

theorem target_of_namedBy {text : String} (named : request.data.NamedBy text) :
    request.target schema = Validation.ownedRecordKey schema.table text := by
  unfold target
  rcases named with string | ⟨id, pointer, rfl⟩
  · rw [string]
  · rw [pointer]

/-- A member `id` is null, a text, an identifier or of no use. -/
theorem target_of_neither (unnamed : ¬request.data.Unnamed)
    (nameless : ∀ text, ¬request.data.NamedBy text) :
    request.target schema = .error (.validation .nonStringId) := by
  unfold target
  split
  · exact absurd (.inl ‹_›) unnamed
  · exact absurd (.inr ‹_›) unnamed
  · exact absurd (.inl ‹_›) (nameless _)
  · exact absurd (.inr ⟨_, ‹_›, rfl⟩) (nameless _)
  · rfl

theorem target_eq_ok_iff {target : String} :
    request.target schema = .ok target ↔
      request.data.Unnamed ∧ target = schema.table ∨
        request.data.NamedBy target ∧ OwnedBy schema.table target := by
  constructor
  · intro h
    by_cases unnamed : request.data.Unnamed
    · rw [target_of_unnamed unnamed] at h
      cases h
      exact .inl ⟨unnamed, rfl⟩
    by_cases nameless : ∀ text, ¬request.data.NamedBy text
    · rw [target_of_neither unnamed nameless] at h
      cases h
    obtain ⟨text, named⟩ := not_forall_not.1 nameless
    rw [target_of_namedBy named] at h
    obtain ⟨rfl, owned⟩ := Validation.ownedRecordKey_eq_ok_iff.1 h
    exact .inr ⟨named, owned⟩
  · rintro (⟨unnamed, rfl⟩ | ⟨named, owned⟩)
    · exact target_of_unnamed unnamed
    · rw [target_of_namedBy named]
      exact Validation.ownedRecordKey_eq_ok_iff.2 ⟨rfl, owned⟩

theorem target_eq_error_iff {cause : Error} :
    request.target schema = .error cause ↔
      (∃ text, request.data.NamedBy text ∧ Misnamed schema.table text cause) ∨
        ¬request.data.Unnamed ∧ (∀ text, ¬request.data.NamedBy text) ∧
          cause = .validation .nonStringId := by
  constructor
  · intro h
    by_cases unnamed : request.data.Unnamed
    · rw [target_of_unnamed unnamed] at h
      cases h
    by_cases nameless : ∀ text, ¬request.data.NamedBy text
    · rw [target_of_neither unnamed nameless] at h
      cases h
      exact .inr ⟨unnamed, nameless, rfl⟩
    obtain ⟨text, named⟩ := not_forall_not.1 nameless
    rw [target_of_namedBy named] at h
    exact .inl ⟨text, named, Validation.ownedRecordKey_eq_error_iff.1 h⟩
  · rintro (⟨text, named, misnamed⟩ | ⟨unnamed, nameless, rfl⟩)
    · rw [target_of_namedBy named]
      exact Validation.ownedRecordKey_eq_error_iff.2 misnamed
    · exact target_of_neither unnamed nameless

/-- A record is made in the table, under its identifier if it has one that belongs there. -/
theorem query_eq_ok_iff {query : Query} :
    request.query schema = .ok query ↔ ∃ target,
      (request.data.Unnamed ∧ target = schema.table ∨
        request.data.NamedBy target ∧ OwnedBy schema.table target) ∧
      query = ⟨"CREATE " ++ target ++ " CONTENT $data",
        Bindings.ofList [("data", request.data)]⟩ := by
  constructor
  · intro h
    obtain ⟨target, found, h⟩ := exists_of_bind_eq_ok h
    cases h
    exact ⟨target, target_eq_ok_iff.1 found, rfl⟩
  · rintro ⟨target, named, rfl⟩
    rw [Create.query, target_eq_ok_iff.2 named]
    rfl

theorem query_eq_error_iff {cause : Error} :
    request.query schema = .error cause ↔
      (∃ text, request.data.NamedBy text ∧ Misnamed schema.table text cause) ∨
        ¬request.data.Unnamed ∧ (∀ text, ¬request.data.NamedBy text) ∧
          cause = .validation .nonStringId := by
  rw [Create.query, bind_eq_error_iff, target_eq_error_iff]
  constructor
  · rintro (failed | ⟨target, -, failed⟩)
    · exact failed
    · cases failed
  · exact .inl

end Create

/-! ## Finding a record -/

theorem clause_id (id : RecordId) :
    Filter.clause { matching := [("id", .record id)] } = .ok (" WHERE id = " ++ id.text) := by
  have first : equation ("id", .record id) = .ok ("id" ++ " = " ++ id.text) := by
    have path : isFieldPath "id".toList := by decide
    unfold equation
    rw [Validation.fieldPath, if_pos path]
    rfl
  have equations : [("id", Value.record id)].mapM equation = .ok ["id" ++ " = " ++ id.text] :=
    mapM_eq_ok_iff.2 (.cons first .nil)
  have start : " WHERE " ++ ("id" ++ " = " ++ id.text) = " WHERE id = " ++ id.text := by
    rw [← String.append_assoc]
    rfl
  unfold Filter.clause Filter.conditions
  simp only [equations, bind, Except.bind, pure, Except.pure, ← start]
  rfl

namespace FindById

variable {schema : ModelSchema} {request : FindById} {id : String}

/-- The request among the rows of the table has one condition and one row. -/
theorem query_toFindMany (record : RecordId) {fields : String}
    (selected : selection schema request.select = .ok fields)
    (fetched : ∀ name ∈ marked request.fetch, isFieldPath name.toList) :
    (request.toFindMany record).query schema = .ok
      ⟨"SELECT " ++ fields ++ " FROM " ++ schema.table ++ " WHERE id = " ++ record.text ++
        " LIMIT 1" ++ listClause "FETCH" (marked request.fetch), .empty⟩ := by
  have limit : numberClause "LIMIT" (some 1) = " LIMIT 1" := rfl
  have checked := mapM_fieldPath_eq_ok_iff.2 ⟨rfl, fetched⟩
  unfold FindMany.query
  simp only [toFindMany, selected, clause_id, checked, limit, bind,
    Except.bind, pure, Except.pure, List.mapM_nil]
  simp [numberClause, listClause, String.append_assoc]

theorem query_of_owned (request : FindById) (owned : OwnedBy schema.table id) :
    ∃ record : RecordId, record.text = id ∧
      request.query schema id = (request.toFindMany record).query schema := by
  have valid := (Identifier.ownedBy_iff.1 owned).2
  have found : RecordId.ofText? id = some ⟨id, valid⟩ := RecordId.ofText?_text ⟨id, valid⟩
  refine ⟨⟨id, valid⟩, rfl, ?_⟩
  unfold FindById.query
  rw [Validation.ownedRecordKey_eq_ok_iff.2 ⟨rfl, owned⟩]
  simp only [bind, Except.bind, Validation.recordId, found]

theorem query_of_misnamed {cause : Error} (misnamed : Misnamed schema.table id cause) :
    request.query schema id = .error cause := by
  unfold FindById.query
  rw [Validation.ownedRecordKey_eq_error_iff.2 misnamed]
  rfl

theorem query_eq_ok_iff {fields : String} (selected : selection schema request.select = .ok fields)
    (fetched : ∀ name ∈ marked request.fetch, isFieldPath name.toList) {query : Query} :
    request.query schema id = .ok query ↔ OwnedBy schema.table id ∧
      query = ⟨"SELECT " ++ fields ++ " FROM " ++ schema.table ++ " WHERE id = " ++ id ++
        " LIMIT 1" ++ listClause "FETCH" (marked request.fetch), .empty⟩ := by
  by_cases owned : OwnedBy schema.table id
  · obtain ⟨record, rfl, found⟩ := query_of_owned request owned
    rw [found, query_toFindMany record selected fetched, Except.ok.injEq]
    exact ⟨fun same => ⟨owned, same.symm⟩, fun ⟨_, same⟩ => same.symm⟩
  · obtain ⟨cause, misnamed⟩ := Validation.exists_misnamed owned
    rw [query_of_misnamed misnamed]
    exact ⟨nofun, fun ⟨here, _⟩ => absurd here owned⟩

theorem query_eq_error_iff {fields : String}
    (selected : selection schema request.select = .ok fields)
    (fetched : ∀ name ∈ marked request.fetch, isFieldPath name.toList) {cause : Error} :
    request.query schema id = .error cause ↔ Misnamed schema.table id cause := by
  refine ⟨fun failed => ?_, query_of_misnamed⟩
  rw [← Validation.ownedRecordKey_eq_error_iff]
  by_cases owned : OwnedBy schema.table id
  · have done := (query_eq_ok_iff selected fetched).2 ⟨owned, rfl⟩
    rw [failed] at done
    cases done
  · obtain ⟨other, misnamed⟩ := Validation.exists_misnamed owned
    rw [query_of_misnamed misnamed] at failed
    cases failed
    exact Validation.ownedRecordKey_eq_error_iff.2 misnamed

end FindById

/-! ## Both requests -/

/-- A record is made without a name, or with an identifier of the table as its name, and it is
found under the same identifiers. All other texts are refused alike by both requests. No
identifier belongs to two tables. -/
theorem named_records_owned (schema : ModelSchema) :
    (∀ (request : Create) (query : Query), request.query schema = .ok query ↔ ∃ target,
      (request.data.Unnamed ∧ target = schema.table ∨
        request.data.NamedBy target ∧ OwnedBy schema.table target) ∧
      query = ⟨"CREATE " ++ target ++ " CONTENT $data",
        Bindings.ofList [("data", request.data)]⟩) ∧
    (∀ (request : Create) (cause : Error), request.query schema = .error cause ↔
      (∃ text, request.data.NamedBy text ∧ Misnamed schema.table text cause) ∨
        ¬request.data.Unnamed ∧ (∀ text, ¬request.data.NamedBy text) ∧
          cause = .validation .nonStringId) ∧
    (∀ (request : FindById) (id : String),
      (∀ entry ∈ request.select.getD [], isFieldPath entry.1.toList) →
      (∀ name ∈ marked request.fetch, isFieldPath name.toList) →
        (∃ fields, selection schema request.select = .ok fields ∧
          ∀ query, request.query schema id = .ok query ↔ OwnedBy schema.table id ∧
            query = ⟨"SELECT " ++ fields ++ " FROM " ++ schema.table ++ " WHERE id = " ++ id ++
              " LIMIT 1" ++ listClause "FETCH" (marked request.fetch), .empty⟩) ∧
        (∀ query, request.query schema id = .ok query → ∃ record : RecordId, record.text = id ∧
          FindMany.query schema {
            select := request.select
            filter := { matching := [("id", .record record)] }
            limit := some 1
            fetch := request.fetch } = .ok query) ∧
        ∀ cause, request.query schema id = .error cause ↔ Misnamed schema.table id cause) ∧
    ∀ id other, OwnedBy schema.table id → OwnedBy other id → other = schema.table := by
  refine ⟨fun request query => Create.query_eq_ok_iff, fun request cause =>
    Create.query_eq_error_iff, fun request id select fetched => ?_, fun id other here there => ?_⟩
  · obtain ⟨fields, selected⟩ := selection_of_valid schema select
    refine ⟨⟨fields, selected, fun query => FindById.query_eq_ok_iff selected fetched⟩,
      fun query done => ?_, fun cause => FindById.query_eq_error_iff selected fetched⟩
    have owned := ((FindById.query_eq_ok_iff selected fetched).1 done).1
    obtain ⟨record, named, found⟩ := FindById.query_of_owned request owned
    exact ⟨record, named, found.symm.trans done⟩
  · rw [← (Identifier.ownedBy_iff.1 here).1, (Identifier.ownedBy_iff.1 there).1]

/-- An apple belongs to the fruits; a text with a second colon names no record, and one that
names another table is refused for that even if it names no record either. -/
theorem named_records_owned_fruit :
    let request : FindById := { select := some [("name", .keep)], fetch := [("owner", true)] }
    request.query (.ofTable "fruit") "fruit:apple" = .ok
      ⟨"SELECT name FROM fruit WHERE id = fruit:apple LIMIT 1 FETCH owner", .empty⟩ ∧
    request.query (.ofTable "fruit") "fruit:a:b" =
      .error (.validation (.invalidRecordKey "fruit:a:b")) ∧
    request.query (.ofTable "fruit") "fruits:" =
      .error (.validation (.tableMismatch "fruit" "fruits:")) := by
  intro request
  have select : ∀ entry ∈ request.select.getD [], isFieldPath entry.1.toList := by decide
  have fetched : ∀ name ∈ marked request.fetch, isFieldPath name.toList := by decide
  obtain ⟨-, -, found, -⟩ := named_records_owned (.ofTable "fruit")
  have apple : OwnedBy "fruit" "fruit:apple" := ⟨"apple", by decide, by decide, by decide⟩
  have twice : ¬OwnedBy "fruit" "fruit:a:b" := by
    rw [Identifier.ownedBy_iff]
    decide
  refine ⟨?_, ((found request _ select fetched).2.2 _).2 (.malformed (by decide) twice),
    ((found request _ select fetched).2.2 _).2 (.foreign (by decide))⟩
  obtain ⟨fields, selected, done⟩ := (found request "fruit:apple" select fetched).1
  cases selected
  exact (done _).2 ⟨apple, rfl⟩

end Request

end RecordMapper
