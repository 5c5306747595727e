import RecordMapper.Proofs.Statement.Offence

/-!
Ends of relations. An end names a record by the text of an identifier, by an identifier, or as a
record that has one or the other as its member `id`. All ways of naming by one text (`Spells`) lead
to one record or to one refusal, and what spells no text (`Nameless`) is refused for the side on
which it stands. So the query of a relation, and whether there is one, depends on what its ends
spell and on nothing else about them (`relate_spelled_alike`).
-/

namespace RecordMapper

/-- A variable under a key is declared by the literal of its value. -/
theorem Bindings.line_of_isKey {name : String} (key : Identifier.isKey name.toList) (value : Value) :
    line (name, value) = do
      let text ← value.literal
      return "LET $" ++ name ++ " = " ++ text ++ ";\n" :=
  Request.namedText_of_passed key

namespace Request

open Identifier (OwnedBy)

namespace Endpoint

/-- The end names a record by a text. Identifiers are checked when they are made, so the ways that
take one are there only for texts that are identifiers. -/
inductive Spells (name : String) : Endpoint → Prop
  | text : Spells name (.text name)
  | string : Spells name (.ofString name)
  | stringValue : Spells name (.ofValue (.string name))
  | stringMember {members : List (String × Value)} :
    Members.get? "id" members = some (.string name) → Spells name (.record (.object members))
  | pointer {id : RecordId} : id.text = name → Spells name (.pointer id)
  | pointerValue {id : RecordId} : id.text = name → Spells name (.ofValue (.record id))
  | pointerMember {members : List (String × Value)} {id : RecordId} :
    Members.get? "id" members = some (.record id) → id.text = name →
    Spells name (.record (.object members))

/-- The end is taken for a record, but no member `id` of it can name one. -/
inductive Nameless : Endpoint → Prop
  | noObject {value : Value} : (∀ members, value ≠ .object members) → Nameless (.record value)
  | noMember {members : List (String × Value)} : Members.get? "id" members = none →
    Nameless (.record (.object members))
  | otherMember {members : List (String × Value)} {value : Value} :
    Members.get? "id" members = some value → (∀ name, value ≠ .string name) →
    (∀ id, value ≠ .record id) → Nameless (.record (.object members))

/-- Why no record is found at an end of a relation. -/
inductive Refused (side : Side) (endpoint : Endpoint) : Error → Prop
  | malformed {name : String} : endpoint.Spells name → (∀ table, ¬OwnedBy table name) →
    Refused side endpoint (.validation (.invalidRecordKey name))
  | nameless : endpoint.Nameless →
    Refused side endpoint (.validation (.invalidEndpoint side))

variable {endpoint : Endpoint} {side : Side}

/-! ## The record at an end -/

/-- An end is looked up by what it spells. -/
theorem recordId_of_spells {name : String} (spells : endpoint.Spells name) (side : Side) :
    endpoint.recordId side = Validation.recordId name := by
  cases spells with
  | text => rfl
  | string => rfl
  | stringValue => rfl
  | stringMember found =>
    have member : (Value.object _).get? "id" = some (.string name) := found
    simp only [recordId, member]
  | @pointer id same =>
    rw [Validation.recordId_eq_ok_iff.2 same]
    rfl
  | @pointerValue id same =>
    rw [Validation.recordId_eq_ok_iff.2 same]
    rfl
  | @pointerMember members id found same =>
    have member : (Value.object members).get? "id" = some (.record id) := found
    rw [Validation.recordId_eq_ok_iff.2 same]
    simp only [recordId, member]

theorem recordId_of_nameless (nameless : endpoint.Nameless) (side : Side) :
    endpoint.recordId side = .error (.validation (.invalidEndpoint side)) := by
  cases nameless with
  | @noObject value other =>
    cases value with
    | object members => exact absurd rfl (other members)
    | _ => rfl
  | @noMember members none =>
    have member : (Value.object members).get? "id" = Option.none := none
    simp only [recordId, member]
  | @otherMember members value found noString noRecord =>
    have member : (Value.object members).get? "id" = some value := found
    simp only [recordId, member]
    cases value with
    | string name => exact absurd rfl (noString name)
    | record id => exact absurd rfl (noRecord id)
    | _ => rfl

theorem spells_or_nameless (endpoint : Endpoint) :
    (∃ name, endpoint.Spells name) ∨ endpoint.Nameless := by
  cases endpoint with
  | text name => exact .inl ⟨name, .text⟩
  | pointer id => exact .inl ⟨id.text, .pointer rfl⟩
  | record value =>
    cases value with
    | object members =>
      cases found : Members.get? "id" members with
      | none => exact .inr (.noMember found)
      | some value =>
        cases value with
        | string name => exact .inl ⟨name, .stringMember found⟩
        | record id => exact .inl ⟨id.text, .pointerMember found rfl⟩
        | _ => exact .inr (.otherMember found (by simp) (by simp))
    | _ => exact .inr (.noObject (by simp))

/-- A record is found at an end that spells its identifier. -/
theorem recordId_eq_ok_iff {id : RecordId} :
    endpoint.recordId side = .ok id ↔ endpoint.Spells id.text := by
  constructor
  · intro found
    rcases endpoint.spells_or_nameless with ⟨name, spells⟩ | nameless
    · rw [recordId_of_spells spells, Validation.recordId_eq_ok_iff] at found
      rw [found]
      exact spells
    · rw [recordId_of_nameless nameless] at found
      cases found
  · intro spells
    rw [recordId_of_spells spells, Validation.recordId_eq_ok_iff]

/-- No end spells two identifiers. -/
theorem eq_of_spells {s t : RecordId} (one : endpoint.Spells s.text)
    (other : endpoint.Spells t.text) : s = t := by
  have first : endpoint.recordId .source = .ok s := recordId_eq_ok_iff.2 one
  rw [recordId_eq_ok_iff.2 other] at first
  exact (Except.ok.inj first).symm

theorem recordId_eq_error_iff {cause : Error} :
    endpoint.recordId side = .error cause ↔ endpoint.Refused side cause := by
  constructor
  · intro failed
    rcases endpoint.spells_or_nameless with ⟨name, spells⟩ | nameless
    · rw [recordId_of_spells spells, Validation.recordId_eq_error_iff] at failed
      obtain ⟨unowned, rfl⟩ := failed
      exact .malformed spells unowned
    · rw [recordId_of_nameless nameless] at failed
      cases failed
      exact .nameless nameless
  · intro refused
    cases refused with
    | malformed spells unowned =>
      rw [recordId_of_spells spells, Validation.recordId_eq_error_iff]
      exact ⟨unowned, rfl⟩
    | nameless nameless => exact recordId_of_nameless nameless side

end Endpoint

/-! ## The query of a relation -/

variable {source target : Endpoint} {edge : Fragment} {data : Option Value}

theorem relate_eq_ok_iff {query : Query} :
    relate source edge target data = .ok query ↔ ∃ s t : RecordId,
      source.Spells s.text ∧ target.Spells t.text ∧
      query = ⟨"RELATE $fromId -> " ++ edge.text ++ " -> $toId CONTENT $data",
        Bindings.ofList [("fromId", .record s), ("toId", .record t),
          ("data", data.getD .emptyObject)]⟩ := by
  constructor
  · intro done
    obtain ⟨s, first, done⟩ := exists_of_bind_eq_ok done
    obtain ⟨t, second, done⟩ := exists_of_bind_eq_ok done
    cases done
    exact ⟨s, t, Endpoint.recordId_eq_ok_iff.1 first, Endpoint.recordId_eq_ok_iff.1 second, rfl⟩
  · intro found
    obtain ⟨s, t, first, second, rfl⟩ := found
    rw [relate, Endpoint.recordId_eq_ok_iff.2 first, Endpoint.recordId_eq_ok_iff.2 second]
    rfl

/-- The second end is looked at when a record has been found at the first. -/
theorem relate_eq_error_iff {cause : Error} :
    relate source edge target data = .error cause ↔ source.Refused .source cause ∨
      (∃ s : RecordId, source.Spells s.text) ∧ target.Refused .target cause := by
  rw [relate, bind_eq_error_iff]
  simp only [bind_eq_error_iff, Endpoint.recordId_eq_error_iff, Endpoint.recordId_eq_ok_iff]
  simp [pure, Except.pure]

/-- The body of a relation holds its two records, the literal of its data, and the edge. -/
theorem render_related (s t : RecordId) (edge : Fragment) (data : Value) :
    Query.render ⟨"RELATE $fromId -> " ++ edge.text ++ " -> $toId CONTENT $data",
        Bindings.ofList [("fromId", .record s), ("toId", .record t), ("data", data)]⟩ = do
      let literal ← data.literal
      return "LET $fromId = " ++ s.text ++ ";\nLET $toId = " ++ t.text ++ ";\nLET $data = " ++
        literal ++ ";\nRELATE $fromId -> " ++ edge.text ++ " -> $toId CONTENT $data" := by
  have entries : (Bindings.ofList [("fromId", .record s), ("toId", .record t),
      ("data", data)]).entries = [("fromId", .record s), ("toId", .record t), ("data", data)] := rfl
  have first : Bindings.line ("fromId", .record s) = _ := Bindings.line_of_isKey (by decide) _
  have second : Bindings.line ("toId", .record t) = _ := Bindings.line_of_isKey (by decide) _
  have third : Bindings.line ("data", data) = _ := Bindings.line_of_isKey (by decide) _
  unfold Query.render Bindings.preamble
  simp only [entries, List.mapM_cons, List.mapM_nil, first, second, third]
  cases data.literal with
  | error cause => rfl
  | ok literal => exact congrArg Except.ok (String.toList_injective (by simp [String.join]))

theorem render_relate_eq_ok_iff {body : String} :
    (relate source edge target data >>= Query.render) = .ok body ↔
      ∃ (s t : RecordId) (literal : String), source.Spells s.text ∧ target.Spells t.text ∧
        (data.getD .emptyObject).literal = .ok literal ∧
        body = "LET $fromId = " ++ s.text ++ ";\nLET $toId = " ++ t.text ++ ";\nLET $data = " ++
          literal ++ ";\nRELATE $fromId -> " ++ edge.text ++ " -> $toId CONTENT $data" := by
  constructor
  · intro done
    obtain ⟨query, related, rendered⟩ := exists_of_bind_eq_ok done
    obtain ⟨s, t, first, second, rfl⟩ := relate_eq_ok_iff.1 related
    rw [render_related] at rendered
    obtain ⟨literal, written, rendered⟩ := exists_of_bind_eq_ok rendered
    cases rendered
    exact ⟨s, t, literal, first, second, written, rfl⟩
  · intro found
    obtain ⟨s, t, literal, first, second, written, rfl⟩ := found
    rw [relate_eq_ok_iff.2 ⟨s, t, first, second, rfl⟩]
    show Query.render _ = _
    rw [render_related, written]
    rfl

/-- All ways to spell one text at an end of a relation lead to one result, on either side. There is
a query if both ends spell identifiers, and it binds these and the data; else the first end that is
refused decides. The body shows of the ends nothing but the two identifiers. -/
theorem relate_spelled_alike :
    (∀ (name : String) (a b : Endpoint), a.Spells name → b.Spells name →
      ∀ (other : Endpoint) (edge : Fragment) (data : Option Value),
        relate a edge other data = relate b edge other data ∧
        relate other edge a data = relate other edge b data) ∧
    ∀ (source : Endpoint) (edge : Fragment) (target : Endpoint) (data : Option Value),
      (∀ query, relate source edge target data = .ok query ↔ ∃ s t : RecordId,
        source.Spells s.text ∧ target.Spells t.text ∧
        OwnedBy s.table s.text ∧ OwnedBy t.table t.text ∧
        query.statement = "RELATE $fromId -> " ++ edge.text ++ " -> $toId CONTENT $data" ∧
        query.bindings.entries = [("fromId", .record s), ("toId", .record t),
          ("data", data.getD .emptyObject)]) ∧
      (∀ cause, relate source edge target data = .error cause ↔ source.Refused .source cause ∨
        (∃ s : RecordId, source.Spells s.text) ∧ target.Refused .target cause) ∧
      ∀ body, (relate source edge target data >>= Query.render) = .ok body ↔
        ∃ (s t : RecordId) (literal : String), source.Spells s.text ∧ target.Spells t.text ∧
          (data.getD .emptyObject).literal = .ok literal ∧
          body = "LET $fromId = " ++ s.text ++ ";\nLET $toId = " ++ t.text ++ ";\nLET $data = " ++
            literal ++ ";\nRELATE $fromId -> " ++ edge.text ++ " -> $toId CONTENT $data" := by
  have owned (id : RecordId) : OwnedBy id.table id.text :=
    Identifier.ownedBy_iff.2 ⟨rfl, id.isRecordKey⟩
  refine ⟨fun name a b left right other edge data => ?_, fun source edge target data =>
    ⟨fun query => ?_, fun cause => relate_eq_error_iff, fun body => render_relate_eq_ok_iff⟩⟩
  · have same (side : Side) : a.recordId side = b.recordId side :=
      (Endpoint.recordId_of_spells left side).trans (Endpoint.recordId_of_spells right side).symm
    unfold relate
    rw [same, same]
    exact ⟨rfl, rfl⟩
  · rw [relate_eq_ok_iff]
    constructor
    · intro found
      obtain ⟨s, t, first, second, rfl⟩ := found
      exact ⟨s, t, first, second, owned s, owned t, rfl, rfl⟩
    · intro found
      obtain ⟨s, t, first, second, -, -, statement, entries⟩ := found
      rcases query with ⟨_, ⟨_, distinct⟩⟩
      cases statement
      cases entries
      exact ⟨s, t, first, second, rfl⟩

/-- A person is named by a record that has more members than its identifier. -/
theorem relate_spelled_alike_person :
    let person : Endpoint :=
      .record (.object [("id", .string "person:ann"), ("name", .string "$x; DELETE person")])
    person.Spells "person:ann" ∧
    (relate person ⟨"likes"⟩ (.text "fruit:apple") none >>= Query.render) =
      .ok ("LET $fromId = person:ann;\nLET $toId = fruit:apple;\nLET $data = {};\n" ++
        "RELATE $fromId -> likes -> $toId CONTENT $data") := by
  intro person
  have spells : person.Spells "person:ann" := .stringMember rfl
  have alike := relate_spelled_alike.1 "person:ann" person (.text "person:ann") spells .text
    (.text "fruit:apple") ⟨"likes"⟩ none
  refine ⟨spells, ?_⟩
  rw [alike.1]
  rfl

end Request

end RecordMapper
