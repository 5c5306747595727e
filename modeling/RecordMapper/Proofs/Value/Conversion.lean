import RecordMapper.Proofs.Binary64.Decimal
import RecordMapper.Proofs.Value.Flaw
import RecordMapper.Proofs.Value.View

/-!
Conversion between JSON and values. Both ways go down the tree part by part
(`Value.within_ofJson_iff`), so what is kept is told by the single parts: of JSON all but the whole
numbers beyond 63 bits, which become doubles, and of values all but those that JSON has no kind for
(`Value.Lossy`). What comes from JSON holds none of the latter, so it always has a literal, and the
literal names no record (`Value.json_conversion_lossless`).
-/

namespace RecordMapper

/-- A list is its own image if each of its items is. -/
theorem map_eq_self_iff {α : Type} {f : α → α} {xs : List α} :
    xs.map f = xs ↔ ∀ x ∈ xs, f x = x := by
  have same : xs.map f = xs ↔ xs.map f = xs.map id := by rw [List.map_id]
  rw [same, List.map_eq_map_iff]
  rfl

/-! ## Parts of JSON -/

namespace Json

/-- The part is the JSON value itself or stands somewhere inside it. -/
inductive Within (part : Json) : Json → Prop
  | here : Within part part
  | item {items : List Json} {item : Json} (mem : item ∈ items) (inside : Within part item) :
    Within part (.array items)
  | member {members : List (String × Json)} {member : String × Json} (mem : member ∈ members)
    (inside : Within part member.2) : Within part (.object members)

/-- What the JSON value holds right inside it. -/
def children : Json → List Json
  | .array items => items
  | .object members => members.map Prod.snd
  | _ => []

theorem within_iff {part json : Json} :
    part.Within json ↔ part = json ∨ ∃ child ∈ json.children, part.Within child := by
  constructor
  · intro inside
    cases inside with
    | here => exact .inl rfl
    | item mem inside => exact .inr ⟨_, mem, inside⟩
    | member mem inside => exact .inr ⟨_, List.mem_map_of_mem mem, inside⟩
  · rintro (rfl | ⟨child, mem, inside⟩)
    · exact .here
    · cases json with
      | array items => exact .item mem inside
      | object members =>
        obtain ⟨member, present, rfl⟩ := List.mem_map.1 mem
        exact .member present inside
      | _ => cases mem

theorem forall_within_iff {P : Json → Prop} {json : Json} :
    (∀ part : Json, part.Within json → P part) ↔
      P json ∧ ∀ child ∈ json.children, ∀ part : Json, part.Within child → P part := by
  constructor
  · intro all
    exact ⟨all json .here, fun child mem part inside =>
      all part (within_iff.2 (.inr ⟨child, mem, inside⟩))⟩
  · intro each part inside
    rcases within_iff.1 inside with rfl | ⟨child, mem, deeper⟩
    · exact each.1
    · exact each.2 child mem part deeper

theorem sizeOf_lt_of_mem_children {child json : Json} (mem : child ∈ json.children) :
    sizeOf child < sizeOf json := by
  cases json with
  | array items =>
    have smaller : sizeOf child < sizeOf items := List.sizeOf_lt_of_mem mem
    simp only [array.sizeOf_spec]
    omega
  | object members =>
    obtain ⟨⟨name, value⟩, present, rfl⟩ := List.mem_map.1 mem
    have smaller := List.sizeOf_lt_of_mem present
    simp only [object.sizeOf_spec, Prod.mk.sizeOf_spec] at smaller ⊢
    omega
  | _ => cases mem

/-- What holds of JSON if it holds of all that stands right inside holds of all JSON. -/
theorem forall_of_children {P : Json → Prop}
    (step : ∀ json : Json, (∀ child ∈ json.children, P child) → P json) (json : Json) : P json :=
  step json fun child _ => forall_of_children step child
termination_by sizeOf json
decreasing_by exact sizeOf_lt_of_mem_children ‹_›

/-- What is not the same any more once it has been a value: whole numbers beyond 63 bits. -/
inductive Lossy : Json → Prop
  | whole {n : Int} {range : -9223372036854775808 ≤ n ∧ n < 18446744073709551616}
    (beyond : 9223372036854775807 < n) : Lossy (.number (.whole n range))

end Json

/-! ## Parts of values -/

namespace Value

/-- What the value holds right inside it. -/
def children : Value → List Value
  | .array items => items
  | .object members => members.map Prod.snd
  | _ => []

theorem within_iff {part value : Value} :
    part.Within value ↔ part = value ∨ ∃ child ∈ value.children, part.Within child := by
  constructor
  · intro inside
    cases inside with
    | here => exact .inl rfl
    | item mem inside => exact .inr ⟨_, mem, inside⟩
    | member mem inside => exact .inr ⟨_, List.mem_map_of_mem mem, inside⟩
  · rintro (rfl | ⟨child, mem, inside⟩)
    · exact .here
    · cases value with
      | array items => exact .item mem inside
      | object members =>
        obtain ⟨member, present, rfl⟩ := List.mem_map.1 mem
        exact .member present inside
      | _ => cases mem

theorem forall_within_iff {P : Value → Prop} {value : Value} :
    (∀ part : Value, part.Within value → P part) ↔
      P value ∧ ∀ child ∈ value.children, ∀ part : Value, part.Within child → P part := by
  constructor
  · intro all
    exact ⟨all value .here, fun child mem part inside =>
      all part (within_iff.2 (.inr ⟨child, mem, inside⟩))⟩
  · intro each part inside
    rcases within_iff.1 inside with rfl | ⟨child, mem, deeper⟩
    · exact each.1
    · exact each.2 child mem part deeper

theorem children_of_isSingle {value : Value} (single : value.isSingle) : value.children = [] := by
  cases value with
  | array items => cases single
  | object members => cases single
  | _ => rfl

/-- What JSON has no kind for: timestamps, record identifiers, and doubles that are not finite. -/
inductive Lossy : Value → Prop
  | float {x : Binary64} (infinite : x.isFinite = false) : Lossy (.float x)
  | timestamp (t : Timestamp) : Lossy (.timestamp t)
  | record (id : RecordId) : Lossy (.record id)

/-! ## Conversion part by part -/

/-- The members of an object are converted one by one, under their names. -/
theorem ofJsonMembers_eq_map (members : List (String × Json)) :
    ofJsonMembers members = members.map fun member => (member.1, ofJson member.2) := by
  induction members with
  | nil => rfl
  | cons member rest ih => rw [ofJsonMembers, ih, List.map_cons]

theorem toJsonMembers_eq_map (members : List (String × Value)) :
    toJsonMembers members = members.map fun member => (member.1, toJson member.2) := by
  induction members with
  | nil => rfl
  | cons member rest ih => rw [toJsonMembers, ih, List.map_cons]

/-- A whole number of 63 bits stays one, and one beyond becomes the double next to it. -/
theorem ofNumber_whole (n : Int) (range : -9223372036854775808 ≤ n ∧ n < 18446744073709551616) :
    (∃ fits, ofJson (.number (.whole n range)) = .int n ⟨range.1, fits⟩) ∨
      9223372036854775807 < n ∧ ∃ x, Binary64.ofDecimal false n.toNat 0 = .finite x ∧
        ofJson (.number (.whole n range)) = .float (.finite x) := by
  rw [ofJson, ofNumber]
  split
  · rename_i fits
    exact .inl ⟨fits, rfl⟩
  · have small : n.toNat < 2 ^ 64 := by omega
    obtain ⟨x, nearest⟩ := Binary64.exists_finite_of_whole small
    exact .inr ⟨by omega, x, nearest, by rw [nearest]⟩

theorem children_ofJson (json : Json) : (ofJson json).children = json.children.map ofJson := by
  cases json with
  | array items => exact ofJsonItems_eq_map items
  | object members =>
    rw [ofJson, children, Json.children, ofJsonMembers_eq_map, List.map_map, List.map_map]
    rfl
  | number n =>
    cases n with
    | whole n range =>
      rcases ofNumber_whole n range with ⟨fits, same⟩ | ⟨-, x, -, same⟩
      all_goals rw [same]; rfl
    | double x => rfl
  | _ => rfl

/-- The parts of what comes from JSON come from its parts. -/
theorem within_ofJson_iff {part : Value} {json : Json} :
    part.Within (ofJson json) ↔ ∃ inner : Json, inner.Within json ∧ ofJson inner = part := by
  induction json using Json.forall_of_children with
  | step json ih =>
    rw [within_iff, children_ofJson]
    simp only [List.mem_map, exists_exists_and_eq_and]
    constructor
    · rintro (rfl | ⟨child, mem, inside⟩)
      · exact ⟨json, .here, rfl⟩
      · obtain ⟨inner, deep, same⟩ := (ih child mem).1 inside
        exact ⟨inner, Json.within_iff.2 (.inr ⟨child, mem, deep⟩), same⟩
    · rintro ⟨inner, inside, rfl⟩
      rcases Json.within_iff.1 inside with rfl | ⟨child, mem, deep⟩
      · exact .inl rfl
      · exact .inr ⟨child, mem, (ih child mem).2 ⟨inner, deep, rfl⟩⟩

/-- JSON comes back the same if no number in it is too large for a value to keep whole. -/
theorem toJson_ofJson_iff {json : Json} :
    (ofJson json).toJson = json ↔ ∀ part : Json, part.Within json → ¬part.Lossy := by
  induction json using Json.forall_of_children with
  | step json ih =>
    rw [Json.forall_within_iff]
    cases json with
    | array items =>
      rw [ofJson, toJson, ofJsonItems_eq_map, toJsonItems_eq_map, List.map_map, Json.array.injEq,
        map_eq_self_iff, and_iff_right nofun]
      exact forall₂_congr ih
    | object members =>
      rw [ofJson, toJson, ofJsonMembers_eq_map, toJsonMembers_eq_map, List.map_map,
        Json.object.injEq, map_eq_self_iff, and_iff_right nofun, Json.children, List.forall_mem_map]
      refine forall₂_congr fun member mem => ?_
      rw [← ih member.2 (List.mem_map_of_mem mem)]
      exact Prod.ext_iff.trans (and_iff_right rfl)
    | number n =>
      have alone : (Json.number n).children = [] := rfl
      rw [alone, and_iff_left (List.forall_mem_nil _)]
      cases n with
      | whole n range =>
        rcases ofNumber_whole n range with ⟨fits, same⟩ | ⟨beyond, x, -, same⟩
        · rw [same]
          exact iff_of_true rfl fun | .whole beyond => by omega
        · rw [same]
          exact iff_of_false nofun (not_not_intro (.whole beyond))
      | double x => exact iff_of_true rfl nofun
    | _ => exact iff_of_true rfl ⟨nofun, List.forall_mem_nil _⟩

/-- A value comes back the same from its view if JSON has a kind for everything in it. -/
theorem ofJson_toJson_iff {value : Value} :
    ofJson value.toJson = value ↔ ∀ part : Value, part.Within value → ¬part.Lossy := by
  induction value using forall_of_parts with
  | single value single =>
    rw [forall_within_iff, children_of_isSingle single, and_iff_left (List.forall_mem_nil _)]
    cases value with
    | int n range =>
      have fits : n < 9223372036854775808 := range.2
      refine iff_of_true ?_ nofun
      rw [toJson, ofJson, ofNumber, dif_pos fits]
    | float x =>
      cases x with
      | finite x => exact iff_of_true rfl fun | .float infinite => by cases infinite
      | nan => exact iff_of_false nofun (not_not_intro (.float rfl))
      | infinite negative => exact iff_of_false nofun (not_not_intro (.float rfl))
    | timestamp t => exact iff_of_false nofun (not_not_intro (.timestamp t))
    | record id => exact iff_of_false nofun (not_not_intro (.record id))
    | array items => cases single
    | object members => cases single
    | _ => exact iff_of_true rfl nofun
  | array items ih =>
    rw [forall_within_iff, toJson, ofJson, toJsonItems_eq_map, ofJsonItems_eq_map, List.map_map,
      Value.array.injEq, map_eq_self_iff, and_iff_right nofun]
    exact forall₂_congr ih
  | object members ih =>
    rw [forall_within_iff, toJson, ofJson, toJsonMembers_eq_map, ofJsonMembers_eq_map, List.map_map,
      Value.object.injEq, map_eq_self_iff, and_iff_right nofun, children, List.forall_mem_map]
    refine forall₂_congr fun member mem => ?_
    rw [← ih member mem]
    exact Prod.ext_iff.trans (and_iff_right rfl)

/-! ## What comes from JSON -/

theorem not_lossy_ofJson (json : Json) : ¬(ofJson json).Lossy := by
  cases json with
  | number n =>
    cases n with
    | whole n range =>
      rcases ofNumber_whole n range with ⟨fits, same⟩ | ⟨-, x, -, same⟩
      · exact same ▸ nofun
      · rw [same]
        rintro (infinite | - | -)
        cases infinite
    | double x =>
      rintro (infinite | - | -)
      cases infinite
  | _ => exact nofun

/-- What is not lossy is not flawed: a flaw is in a double that is not finite, or in a timestamp. -/
theorem Flawed.lossy {part : Value} (flawed : part.Flawed) : part.Lossy := by
  cases flawed with
  | float infinite => exact .float infinite
  | timestamp outside => exact .timestamp _

theorem recordFree_of_lossless {value : Value}
    (lossless : ∀ part : Value, part.Within value → ¬part.Lossy) : value.RecordFree := by
  induction value using forall_of_parts with
  | single value single =>
    cases value with
    | record id => exact lossless _ .here (.record id)
    | array items => cases single
    | object members => cases single
    | _ => trivial
  | array items ih =>
    obtain ⟨-, inside⟩ := forall_within_iff.1 lossless
    exact itemsAll_iff.2 fun item mem => ih item mem (inside item mem)
  | object members ih =>
    obtain ⟨-, inside⟩ := forall_within_iff.1 lossless
    exact membersAll_iff.2 fun member mem =>
      ⟨trivial, ih member mem (inside member.2 (List.mem_map_of_mem mem))⟩

/-- A value that JSON has a kind for throughout has a literal, and no record stands in it bare. -/
theorem exists_literal_of_lossless {value : Value}
    (lossless : ∀ part : Value, part.Within value → ¬part.Lossy) :
    ∃ text, value.literal = .ok text ∧ quoteRecords text = text := by
  obtain ⟨text, written⟩ := (exists_literal_iff value).2 fun part inside flawed =>
    lossless part inside flawed.lossy
  obtain ⟨shown, quoted⟩ := exists_shown value text written
  have same := quoted.same (recordFree_of_lossless lossless)
  exact ⟨text, written, same ▸ quoted.quotes.quoteRecords_eq⟩

/-- JSON comes back the same from its value, if no whole number in it is beyond 63 bits; those
become the doubles next to them. A value comes back the same from its view, if it holds no
timestamp, no record identifier and no double that is not finite. The parts of what comes from JSON
are what comes from its parts, and none of them is such a timestamp, identifier or double; so it has
a literal, in which no record identifier stands bare. -/
theorem json_conversion_lossless :
    (∀ json : Json, (ofJson json).toJson = json ↔
      ∀ part : Json, part.Within json → ¬part.Lossy) ∧
    (∀ n range, 9223372036854775807 < n →
      ∃ x, Binary64.ofDecimal false n.toNat 0 = .finite x ∧
        ofJson (.number (.whole n range)) = .float (.finite x)) ∧
    (∀ value : Value, ofJson value.toJson = value ↔
      ∀ part : Value, part.Within value → ¬part.Lossy) ∧
    ∀ json : Json,
      (∀ part : Value, part.Within (ofJson json) ↔
        ∃ inner : Json, inner.Within json ∧ ofJson inner = part) ∧
      (∀ part : Value, part.Within (ofJson json) → ¬part.Lossy) ∧
      ∃ text, (ofJson json).literal = .ok text ∧ quoteRecords text = text := by
  refine ⟨fun json => toJson_ofJson_iff, fun n range beyond => ?_, fun value => ofJson_toJson_iff,
    fun json => ?_⟩
  · rcases ofNumber_whole n range with ⟨fits, -⟩ | ⟨-, nearest⟩
    · omega
    · exact nearest
  · have lossless : ∀ part : Value, part.Within (ofJson json) → ¬part.Lossy := by
      intro part inside
      obtain ⟨inner, -, rfl⟩ := within_ofJson_iff.1 inside
      exact not_lossy_ofJson inner
    exact ⟨fun part => within_ofJson_iff, lossless, exists_literal_of_lossless lossless⟩

end Value

end RecordMapper
