import RecordMapper.Proofs.Statement.Containment
import RecordMapper.Proofs.Value.View

/-!
The log view of variables. A log shows the variables of a request as JSON, made by a walk of
its own over their values, while the database receives a line of text for each. Both tell the
same: `toJson_shows_preamble` reads the literals of the lines back and finds the members of
the view.
-/

namespace RecordMapper

namespace Value

mutual

/-- Timestamps are shown as the texts in which they are sent. -/
theorem toJson_timesAsText : ∀ value : Value, value.timesAsText.toJson = value.toJson
  | .null | .bool _ | .int _ _ | .float _ | .string _ | .record _ => rfl
  | .timestamp t => by
    cases told : t.utcText? with
    | none =>
      show (match t.utcText? with
        | some text => Value.string text
        | none => .timestamp t).toJson = _
      rw [told]
    | some utc => rw [timesAsText_timestamp told, toJson_timestamp told, toJson]
  | .array items => congrArg Json.array (toJsonItems_timesAsText items)
  | .object members => congrArg Json.object (toJsonMembers_timesAsText members)

theorem toJsonItems_timesAsText : ∀ items : List Value,
    toJsonItems (itemsTimesAsText items) = toJsonItems items
  | [] => rfl
  | item :: items => by
    rw [itemsTimesAsText, toJsonItems, toJsonItems, toJson_timesAsText item,
      toJsonItems_timesAsText items]

theorem toJsonMembers_timesAsText : ∀ members : List (String × Value),
    toJsonMembers (membersTimesAsText members) = toJsonMembers members
  | [] => rfl
  | (name, value) :: members => by
    rw [membersTimesAsText, toJsonMembers, toJsonMembers, toJson_timesAsText value,
      toJsonMembers_timesAsText members]

end

/-- The JSON view of the value whose literal the text is. -/
def literalView? (text : String) : Option Json :=
  match readLiteral text.toList with
  | some (value, []) => some value.toJson
  | _ => none

theorem literalView?_literal {value : Value} {text : String} (encoded : value.literal = .ok text) :
    literalView? text = some value.toJson := by
  have ended : EndsLiteral [] := by simp [EndsLiteral]
  have read := reads_literal encoded [] ended
  rw [List.append_nil] at read
  rw [literalView?, read, ← toJson_timesAsText value]

end Value

namespace Bindings

open Value (quoteRecords literalView?)

/-- The declaration gives the variable a literal that denotes the JSON value. As a literal it
can be read in any case; it is JSON as well if its strings have no control characters, once
its record identifiers are quoted. -/
def ShownBy (entry : String × Value) (declaration : String) (json : Json) : Prop :=
  ∃ text, declaration = "LET $" ++ entry.1 ++ " = " ++ text ∧ literalView? text = some json ∧
    (entry.2.Ordered → entry.2.Printable → Json.parse? (quoteRecords text) = some json)

/-- The view has one member for each variable. -/
theorem exists_toJson (b : Bindings) : ∃ members, b.toJson = .object members ∧
    members.Perm (b.entries.map fun entry => (entry.1, entry.2.toJson)) := by
  refine ⟨_, rfl, Members.perm_ofList ?_⟩
  rw [List.map_map]
  exact b.names_nodup

/-- The log view of values and of variables is what is sent. The literal of a value whose
strings and names hold no control characters is JSON that spells its view, as it stands if it
holds no record identifiers, and with them read as strings otherwise. The lines that declare
variables are shown member by member, one for each variable. -/
theorem toJson_shows_preamble :
    (∀ (value : Value) (text : String), value.literal = .ok text → value.Ordered →
      value.Printable → Json.parse? (quoteRecords text) = some value.toJson ∧
        (value.RecordFree → Json.parse? text = some value.toJson)) ∧
    ∀ (b : Bindings) (preamble : String), b.preamble = .ok preamble →
      ∃ declarations members, preamble = String.join (declarations.map (· ++ ";\n")) ∧
        b.toJson = .object members ∧ (members.map Prod.fst).Perm b.names ∧
        List.Forall₂ (fun entry declaration => ∃ json, Members.get? entry.1 members = some json ∧
          ShownBy entry declaration json) b.entries declarations := by
  refine ⟨fun value text encoded ordered printable =>
    Value.parse?_literal encoded ordered printable, fun b preamble written => ?_⟩
  obtain ⟨declarations, declares, -, joined⟩ := preamble_eq_ok written
  obtain ⟨members, view, kept⟩ := exists_toJson b
  have names : (members.map Prod.fst).Perm b.names := by
    have same := kept.map Prod.fst
    rw [List.map_map] at same
    exact same
  refine ⟨declarations, members, joined, view, names, ?_⟩
  have found : ∀ entry ∈ b.entries, Members.get? entry.1 members = some entry.2.toJson :=
    fun entry mem => Members.get?_of_mem (names.nodup_iff.2 b.names_nodup)
      (kept.mem_iff.2 (List.mem_map_of_mem mem))
  refine ((List.forall₂_and_left _ _).2 ⟨found, declares⟩).imp fun entry declaration both => ?_
  obtain ⟨member, text, encoded, rfl⟩ := both
  exact ⟨_, member, text, rfl, Value.literalView?_literal encoded,
    fun ordered printable => (Value.parse?_literal encoded ordered printable).1⟩

/-- A timestamp told two hours ahead of UTC, a record identifier, and a string that looks like
one. -/
theorem toJson_shows_preamble_offset :
    Json.parse? (quoteRecords "[users:1,\"users:1\"]") =
        some (.array [.string "users:1", .string "users:1"]) ∧
      Json.parse? "\"2023-04-05T04:07:08Z\"" = some (.string "2023-04-05T04:07:08Z") ∧
      ∃ declarations members,
        "LET $v = [users:1,\"users:1\"];\n" = String.join (declarations.map (· ++ ";\n")) ∧
        Json.object [("v", .array [.string "users:1", .string "users:1"])] = .object members ∧
        (members.map Prod.fst).Perm ["v"] ∧
        List.Forall₂ (fun entry declaration => ∃ json, Members.get? entry.1 members = some json ∧
          ShownBy entry declaration json)
          [("v", .array [.record ⟨"users:1", by rfl⟩, .string "users:1"])] declarations := by
  obtain ⟨values, bindings⟩ := toJson_shows_preamble
  refine ⟨?_, ?_, ?_⟩
  · have encoded : (Value.array [.record ⟨"users:1", by rfl⟩, .string "users:1"]).literal =
        .ok "[users:1,\"users:1\"]" := by rfl
    have plain : Text.NoControl "users:1".toList := RecordId.noControl_text ⟨"users:1", by rfl⟩
    exact (values _ _ encoded ⟨trivial, trivial, trivial⟩ ⟨trivial, plain, trivial⟩).1
  · have told : (Timestamp.ofReading ⟨⟨2023, 4, 5⟩, 6, 7, 8⟩ 0 7200).utcText? =
        some "2023-04-05T04:07:08Z" := by rfl
    have encoded : (Value.timestamp (.ofReading ⟨⟨2023, 4, 5⟩, 6, 7, 8⟩ 0 7200)).literal =
        .ok "\"2023-04-05T04:07:08Z\"" := by rfl
    rw [← Value.toJson_timestamp told]
    exact (values _ _ encoded trivial trivial).2 trivial
  · exact bindings (.ofList [("v", .array [.record ⟨"users:1", by rfl⟩, .string "users:1"])]) _
      (by rfl)

end Bindings

end RecordMapper
