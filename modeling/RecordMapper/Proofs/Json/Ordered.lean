import RecordMapper.Json.Parser
import RecordMapper.Proofs.Members

/-!
The order of members in JSON. The reader makes every object from the settings of its members, so
in what is read from a text no object, at any depth, has a name twice, and its names ascend
(`parse?_ordered`).
-/

namespace RecordMapper.Json

theorem allOrdered_iff {items : List Json} : AllOrdered items ↔ ∀ item ∈ items, item.Ordered := by
  induction items with
  | nil => exact iff_of_true trivial (List.forall_mem_nil _)
  | cons item rest ih => rw [AllOrdered, ih, List.forall_mem_cons]

theorem membersOrdered_iff {members : List (String × Json)} :
    MembersOrdered members ↔ ∀ member ∈ members, member.2.Ordered := by
  induction members with
  | nil => exact iff_of_true trivial (List.forall_mem_nil _)
  | cons member rest ih => rw [MembersOrdered, ih, List.forall_mem_cons]

/-- An object made from settings of ordered values is ordered at every depth. -/
theorem ordered_ofMembers {members : List (String × Json)}
    (values : ∀ member ∈ members, member.2.Ordered) : (ofMembers members).Ordered :=
  ⟨Members.ordered_ofList members, membersOrdered_iff.2 fun member mem =>
    values member (Members.mem_of_mem_ofList mem)⟩

/-! ## Reading -/

namespace Parser

/-- What is read with some fuel is in order: values, items of arrays, and the values of
members. -/
structure ReadsOrdered (fuel : Nat) : Prop where
  value {text rest : List Char} {json : Json} :
    value? fuel text = some (json, rest) → json.Ordered
  items {text rest : List Char} {items : List Json} :
    items? fuel text = some (items, rest) → ∀ item ∈ items, item.Ordered
  members {text rest : List Char} {members : List (String × Json)} :
    members? fuel text = some (members, rest) → ∀ member ∈ members, member.2.Ordered

theorem ReadsOrdered.value_succ {fuel : Nat} (reads : ReadsOrdered fuel) {text rest : List Char}
    {json : Json} (read : value? (fuel + 1) text = some (json, rest)) : json.Ordered := by
  unfold value? at read
  split at read
  · cases read
    trivial
  · cases read
    trivial
  · cases read
    trivial
  · obtain ⟨_, -, same⟩ := Option.map_eq_some_iff.1 read
    cases same
    trivial
  · split at read
    · cases read
      trivial
    · obtain ⟨⟨items, _⟩, given, same⟩ := Option.map_eq_some_iff.1 read
      cases same
      exact allOrdered_iff.2 (reads.items given)
  · split at read
    · cases read
      exact ⟨Members.ordered_nil, trivial⟩
    · obtain ⟨⟨members, _⟩, given, same⟩ := Option.map_eq_some_iff.1 read
      cases same
      exact ordered_ofMembers (reads.members given)
  · obtain ⟨_, -, same⟩ := Option.map_eq_some_iff.1 read
    cases same
    trivial

theorem ReadsOrdered.items_succ {fuel : Nat} (reads : ReadsOrdered fuel) {text rest : List Char}
    {items : List Json} (read : items? (fuel + 1) text = some (items, rest)) :
    ∀ item ∈ items, item.Ordered := by
  unfold items? at read
  obtain ⟨⟨first, _⟩, given, read⟩ := Option.bind_eq_some_iff.1 read
  have fine := reads.value given
  dsimp only at read
  split at read
  · obtain ⟨⟨others, _⟩, more, same⟩ := Option.map_eq_some_iff.1 read
    cases same
    exact List.forall_mem_cons.2 ⟨fine, reads.items more⟩
  · cases read
    exact List.forall_mem_singleton.2 fine
  · cases read

theorem ReadsOrdered.members_succ {fuel : Nat} (reads : ReadsOrdered fuel)
    {text rest : List Char} {members : List (String × Json)}
    (read : members? (fuel + 1) text = some (members, rest)) :
    ∀ member ∈ members, member.2.Ordered := by
  unfold members? at read
  split at read
  · obtain ⟨⟨name, _⟩, -, read⟩ := Option.bind_eq_some_iff.1 read
    dsimp only at read
    split at read
    · obtain ⟨⟨first, _⟩, given, read⟩ := Option.bind_eq_some_iff.1 read
      have fine := reads.value given
      dsimp only at read
      split at read
      · obtain ⟨⟨others, _⟩, more, same⟩ := Option.map_eq_some_iff.1 read
        cases same
        exact List.forall_mem_cons.2 ⟨fine, reads.members more⟩
      · cases read
        exact List.forall_mem_singleton.2 fine
      · cases read
    · cases read
  · cases read

theorem reads_ordered (fuel : Nat) : ReadsOrdered fuel := by
  -- the three readers call each other, always with less fuel
  induction fuel with
  | zero =>
    constructor <;> intro _ _ _ read
    · cases read
    · cases read
    · cases read
  | succ fuel ih => exact ⟨ih.value_succ, ih.items_succ, ih.members_succ⟩

end Parser

/-- In no object of what is read from a text, at any depth, does a name occur twice. -/
theorem parse?_ordered {text : String} {json : Json} (read : parse? text = some json) :
    json.Ordered := by
  unfold parse? at read
  dsimp only at read
  split at read
  · rename_i taken
    split at read
    · cases read
      exact (Parser.reads_ordered _).value taken
    · cases read
  · cases read

end RecordMapper.Json
