import RecordMapper.Proofs.Agreement
import RecordMapper.Proofs.Json.Ordered
import RecordMapper.Proofs.Reply.Entry
import RecordMapper.Reply.Edge
import RecordMapper.Reply.Output

/-!
Rows of relations. `Edge.Told` says what the members of a row tell of an edge: its identifier and
its two ends, and as its data all members that have other names. Of the rows of JSON, whose members
are in order, those that are read are just the rows that edges are written as, and writing what has
been read gives the row back (`Edge.decodeRow_eq_ok_iff_toJson_eq`).
-/

namespace RecordMapper.Reply

theorem decodeRow_eq_ok_iff {α : Type} {reader : RowReader α} {row : Json} {value : α} :
    decodeRow reader row = .ok value ↔ reader.read? row = some value := by
  unfold decodeRow
  cases reader.read? row <;> simp

namespace Edge

open Entry (requiredText?_eq_some_iff)

/-- What the members of a row tell of an edge: the strings under its own three names, and as its
data all other members as they stand. -/
structure Told (members : List (String × Json)) (edge : Edge) : Prop where
  id_eq : Members.get? "id" members = some (.string edge.id)
  source_eq : Members.get? "in" members = some (.string edge.source)
  target_eq : Members.get? "out" members = some (.string edge.target)
  mem_data_iff : ∀ entry, entry ∈ edge.data ↔ entry ∈ members ∧ entry.1 ∉ ownNames

/-- The data have ascending names, none of which is one of the edge's own. -/
structure Apart (edge : Edge) : Prop where
  ordered : Members.Ordered edge.data
  foreign : ∀ entry ∈ edge.data, entry.1 ∉ ownNames

/-! ## Reading -/

theorem ofJson?_object (members : List (String × Json)) :
    ofJson? (.object members) = (do
      let id ← Json.requiredText? "id" members
      let source ← Json.requiredText? "in" members
      let target ← Json.requiredText? "out" members
      return ⟨id, source, target, Members.without ownNames members⟩) := rfl

theorem ofJson?_eq_some_iff {row : Json} {edge : Edge} :
    ofJson? row = some edge ↔ ∃ members, row = .object members ∧
      Members.get? "id" members = some (.string edge.id) ∧
      Members.get? "in" members = some (.string edge.source) ∧
      Members.get? "out" members = some (.string edge.target) ∧
      edge.data = Members.without ownNames members := by
  constructor
  · intro read
    cases row with
    | object members =>
      rw [ofJson?_object] at read
      obtain ⟨id, named, read⟩ := Option.bind_eq_some_iff.1 read
      obtain ⟨source, left, read⟩ := Option.bind_eq_some_iff.1 read
      obtain ⟨target, right, read⟩ := Option.bind_eq_some_iff.1 read
      cases read
      exact ⟨members, rfl, requiredText?_eq_some_iff.1 named, requiredText?_eq_some_iff.1 left,
        requiredText?_eq_some_iff.1 right, rfl⟩
    | _ => cases read
  · intro told
    obtain ⟨members, rfl, named, left, right, rest⟩ := told
    rw [ofJson?_object, requiredText?_eq_some_iff.2 named, requiredText?_eq_some_iff.2 left,
      requiredText?_eq_some_iff.2 right, ← rest]
    rfl

theorem told_of_ofJson?_eq_some {row : Json} {edge : Edge} (read : ofJson? row = some edge) :
    ∃ members, row = .object members ∧ Told members edge := by
  obtain ⟨members, object, named, left, right, rest⟩ := ofJson?_eq_some_iff.1 read
  exact ⟨members, object, named, left, right, fun entry => rest ▸ Members.mem_without_iff⟩

/-- Of an object it takes the three strings to be read, and nothing else. -/
theorem exists_ofJson?_eq_some_iff {row : Json} :
    (∃ edge, ofJson? row = some edge) ↔ ∃ members id source target, row = .object members ∧
      Members.get? "id" members = some (.string id) ∧
      Members.get? "in" members = some (.string source) ∧
      Members.get? "out" members = some (.string target) := by
  constructor
  · rintro ⟨edge, read⟩
    obtain ⟨members, object, named, left, right, -⟩ := ofJson?_eq_some_iff.1 read
    exact ⟨members, edge.id, edge.source, edge.target, object, named, left, right⟩
  · rintro ⟨members, id, source, target, object, named, left, right⟩
    exact ⟨⟨id, source, target, Members.without ownNames members⟩,
      ofJson?_eq_some_iff.2 ⟨members, object, named, left, right, rfl⟩⟩

/-! ## Writing -/

/-- The members of the row of an edge. -/
def members (edge : Edge) : List (String × Json) := Members.overlay edge.data edge.own

theorem ordered_members (edge : Edge) : Members.Ordered edge.members := by
  refine Members.Ordered.overlay ?_ edge.data
  simp only [Members.Ordered, own, List.pairwise_cons, List.forall_mem_cons]
  decide

theorem get?_own_of_not_mem (edge : Edge) {name : String} (other : name ∉ ownNames) :
    Members.get? name edge.own = none := by
  have different : name ≠ "id" ∧ name ≠ "in" ∧ name ≠ "out" := by simpa [ownNames] using other
  obtain ⟨notId, notIn, notOut⟩ := different
  rw [own, Members.get?_cons, if_neg notId, Members.get?_cons, if_neg notIn, Members.get?_cons,
    if_neg notOut]
  rfl

/-- The row of an edge that has been read holds under every name what the row read from holds. -/
theorem get?_members_of_read {members : List (String × Json)} {edge : Edge}
    (read : ofJson? (.object members) = some edge) (name : String) :
    Members.get? name edge.members = Members.get? name members := by
  obtain ⟨_, object, named, left, right, rest⟩ := ofJson?_eq_some_iff.1 read
  cases object
  rw [Edge.members, Members.get?_overlay, rest, Members.get?_without]
  by_cases isOwn : name ∈ ownNames
  · rw [if_pos isOwn, Option.none_or]
    have cases : name = "id" ∨ name = "in" ∨ name = "out" := by simpa [ownNames] using isOwn
    rcases cases with rfl | rfl | rfl
    · exact named.symm
    · exact left.symm
    · exact right.symm
  · rw [if_neg isOwn, get?_own_of_not_mem edge isOwn, Option.or_none]

theorem Apart.get?_data {edge : Edge} (apart : edge.Apart) {name : String}
    (isOwn : name ∈ ownNames) : Members.get? name edge.data = none := by
  cases found : Members.get? name edge.data with
  | none => rfl
  | some value => exact absurd isOwn (apart.foreign _ (Members.mem_of_get?_eq_some found))

/-- An edge whose data hold none of its own names is written with its own members as they are. -/
theorem Apart.get?_members {edge : Edge} (apart : edge.Apart) {name : String}
    (isOwn : name ∈ ownNames) : Members.get? name edge.members = Members.get? name edge.own := by
  rw [members, Members.get?_overlay, apart.get?_data isOwn, Option.none_or]

/-- The data are what is left of the row without the edge's own names. -/
theorem without_members {edge : Edge} (apart : edge.Apart) :
    Members.without ownNames edge.members = edge.data := by
  refine Members.eq_of_get? (edge.ordered_members.without ownNames) apart.ordered fun name => ?_
  rw [Members.get?_without]
  by_cases isOwn : name ∈ ownNames
  · rw [if_pos isOwn, apart.get?_data isOwn]
  · rw [if_neg isOwn, members, Members.get?_overlay, get?_own_of_not_mem edge isOwn, Option.or_none]

/-- Rows with ascending names are read as the edges that are written as these rows. -/
theorem ofJson?_eq_some_iff_toJson_eq {row : Json} (ordered : row.Ordered) {edge : Edge} :
    ofJson? row = some edge ↔ edge.toJson = row ∧ edge.Apart := by
  constructor
  · intro read
    obtain ⟨members, rfl, -, -, -, rest⟩ := ofJson?_eq_some_iff.1 read
    have apart : edge.Apart := by
      refine ⟨rest ▸ ordered.1.without ownNames, fun entry mem => ?_⟩
      rw [rest] at mem
      exact (Members.mem_without_iff.1 mem).2
    have same := Members.eq_of_get? edge.ordered_members ordered.1 (get?_members_of_read read)
    exact ⟨congrArg Json.object same, apart⟩
  · intro written
    obtain ⟨rfl, apart⟩ := written
    refine ofJson?_eq_some_iff.2 ⟨edge.members, rfl, ?_, ?_, ?_, (without_members apart).symm⟩
    · exact apart.get?_members (by decide)
    · exact apart.get?_members (by decide)
    · exact apart.get?_members (by decide)

theorem decodeRow_eq_ok_iff_toJson_eq [Wording] {row : Json} (ordered : row.Ordered)
    {edge : Edge} : decodeRow reader row = .ok edge ↔ edge.toJson = row ∧ edge.Apart :=
  decodeRow_eq_ok_iff.trans (ofJson?_eq_some_iff_toJson_eq ordered)

/-- Rows that are read together come back one by one. -/
theorem decodeRows_eq_ok_iff_map_toJson_eq [Wording] {rows : List Json}
    (ordered : ∀ row ∈ rows, row.Ordered) {edges : List Edge} :
    decodeRows reader rows = .ok edges ↔ edges.map toJson = rows ∧ ∀ edge ∈ edges, edge.Apart := by
  rw [decodeRows, mapM_eq_ok_iff]
  induction rows generalizing edges with
  | nil =>
    rw [List.forall₂_nil_left_iff, List.map_eq_nil_iff]
    exact ⟨fun none => ⟨none, none ▸ List.forall_mem_nil _⟩, fun none => none.1⟩
  | cons row rows ih =>
    obtain ⟨first, others⟩ := List.forall_mem_cons.1 ordered
    cases edges with
    | nil => exact iff_of_false nofun fun written => nomatch written.1
    | cons edge edges =>
      rw [List.forall₂_cons, decodeRow_eq_ok_iff_toJson_eq first, ih others, List.map_cons,
        List.cons.injEq, List.forall_mem_cons]
      exact and_and_and_comm

/-- A row is read as an edge just if it is an object that has a string under each of the three
names `id`, `in` and `out`. These strings are then the identifier and the ends of the edge, the data
are exactly the other members of the row with their values, and what is written of the edge holds
under every name what the row holds. Of rows with ascending names, as all that are read from a text
are, those that are read are the rows that edges are written as; so writing what has been read gives
back the row itself, and likewise for rows that are read together. -/
theorem rows_kept [Wording] :
    (∀ row, (∃ edge, decodeRow reader row = .ok edge) ↔
      ∃ members id source target, row = .object members ∧
        Members.get? "id" members = some (.string id) ∧
        Members.get? "in" members = some (.string source) ∧
        Members.get? "out" members = some (.string target)) ∧
    (∀ row edge, decodeRow reader row = .ok edge →
      ∃ members, row = .object members ∧ Told members edge ∧
        ∀ name, edge.toJson.get? name = Members.get? name members) ∧
    (∀ row : Json, row.Ordered → ∀ edge,
      decodeRow reader row = .ok edge ↔ edge.toJson = row ∧ edge.Apart) ∧
    (∀ rows : List Json, (∀ row ∈ rows, row.Ordered) → ∀ edges,
      decodeRows reader rows = .ok edges ↔
        edges.map toJson = rows ∧ ∀ edge ∈ edges, edge.Apart) ∧
    ∀ text row, Json.parse? text = some row → row.Ordered := by
  refine ⟨fun row => ?_, fun row edge given => ?_, fun row ordered edge => ?_,
    fun rows ordered edges => ?_, fun text row read => Json.parse?_ordered read⟩
  · simp only [decodeRow_eq_ok_iff]
    exact exists_ofJson?_eq_some_iff
  · have read := decodeRow_eq_ok_iff.1 given
    obtain ⟨members, rfl, told⟩ := told_of_ofJson?_eq_some read
    exact ⟨members, rfl, told, get?_members_of_read read⟩
  · exact decodeRow_eq_ok_iff_toJson_eq ordered
  · exact decodeRows_eq_ok_iff_map_toJson_eq ordered

/-- Names that an edge has for its parts, but not in its row, are names of data. -/
theorem rows_kept_eats :
    let _ : Wording := .terse
    let data := [("data", .object [("id", .null)]), ("from", .string "fruit:kiwi"), ("to", .null)]
    let edge : Edge := ⟨"eats:1", "animal:tiger", "fruit:apple", data⟩
    let row := Json.object [("data", .object [("id", .null)]), ("from", .string "fruit:kiwi"),
      ("id", .string "eats:1"), ("in", .string "animal:tiger"), ("out", .string "fruit:apple"),
      ("to", .null)]
    row.Ordered ∧ decodeRow reader row = .ok edge ∧ edge.toJson = row := by
  intro _ data edge row
  have ordered : row.Ordered := by
    simp only [row, Json.Ordered, Json.MembersOrdered, Members.Ordered]
    decide
  have read : decodeRow reader row = .ok edge := by rfl
  obtain ⟨-, -, written, -⟩ := rows_kept
  exact ⟨ordered, read, ((written row ordered edge).1 read).1⟩

end Edge

end RecordMapper.Reply
