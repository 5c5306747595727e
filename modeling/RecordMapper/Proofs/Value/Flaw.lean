import RecordMapper.Proofs.Agreement
import RecordMapper.Proofs.Members
import RecordMapper.Proofs.Text.Order
import RecordMapper.Proofs.Timestamp.Text
import RecordMapper.Value.Literal

/-!
Values without a literal. What a value lacks a literal for is always a single part of it, a double
that is not finite or a timestamp whose year in UTC has not four digits; such a part is `Flawed`,
and a value has a literal just where it holds none (`exists_literal_iff`). If it holds several, the
error is that of the first, going through arrays in order and through objects by the ascending
bytes of the names (`literal_fails_at_first_flaw`).
-/

namespace RecordMapper.Value

open Text (bytes before_iff_bytes)
open Timestamp (Reading)

/-! ## Parts of values -/

/-- The part is the value itself or stands somewhere inside it. -/
inductive Within (part : Value) : Value → Prop
  | here : Within part part
  | item {items : List Value} {item : Value} (mem : item ∈ items) (inside : Within part item) :
    Within part (.array items)
  | member {members : List (String × Value)} {member : String × Value} (mem : member ∈ members)
    (inside : Within part member.2) : Within part (.object members)

/-- The value holds no other values. -/
def isSingle : Value → Bool
  | .array _ => false
  | .object _ => false
  | _ => true

/-- What holds of single values, and of arrays and objects if it holds of all that they hold, holds
of every value. -/
theorem forall_of_parts {P : Value → Prop} (single : ∀ value, isSingle value → P value)
    (array : ∀ items, (∀ item ∈ items, P item) → P (.array items))
    (object : ∀ members : List (String × Value), (∀ member ∈ members, P member.2) →
      P (.object members)) : ∀ value, P value
  | .array items => array items fun item _ => forall_of_parts single array object item
  | .object members => object members fun member _ =>
      forall_of_parts single array object member.2
  | .null => single _ rfl
  | .bool _ => single _ rfl
  | .int _ _ => single _ rfl
  | .float _ => single _ rfl
  | .string _ => single _ rfl
  | .timestamp _ => single _ rfl
  | .record _ => single _ rfl
termination_by value => sizeOf value
decreasing_by
  · have smaller := List.sizeOf_lt_of_mem ‹item ∈ items›
    simp_wf
    omega
  · have smaller := List.sizeOf_lt_of_mem ‹member ∈ members›
    obtain ⟨name, value⟩ := member
    simp_wf
    simp only [Prod.mk.sizeOf_spec] at smaller
    omega

/-! ## Flaws -/

/-- A single value that has no literal: a double that is not finite, or a timestamp whose year in
UTC has not four digits. -/
inductive Flawed : Value → Prop
  | float {x : Binary64} (infinite : x.isFinite = false) : Flawed (.float x)
  | timestamp {t : Timestamp}
    (outside : t.toUtc.reading.date.year < 0 ∨ 9999 < t.toUtc.reading.date.year) :
    Flawed (.timestamp t)

/-- Nothing in the value is flawed. -/
def Flawless (value : Value) : Prop := ∀ part : Value, part.Within value → ¬part.Flawed

theorem floatLiteral_eq_error_iff {x : Binary64} {cause : Error} :
    floatLiteral x = .error cause ↔
      x.isFinite = false ∧ cause = .serialization (.nonFinite x) := by
  cases x with
  | finite x =>
    rw [floatLiteral]
    generalize Binary64.Layout.plain.write x = text
    exact ⟨nofun, nofun⟩
  | _ => exact ⟨fun failed => by cases failed; exact ⟨rfl, rfl⟩, fun ⟨_, same⟩ => same ▸ rfl⟩

theorem timestampLiteral_eq_error_iff {t : Timestamp} {cause : Error} :
    timestampLiteral t = .error cause ↔
      (t.toUtc.reading.date.year < 0 ∨ 9999 < t.toUtc.reading.date.year) ∧
        cause = .serialization .yearOutOfRange := by
  rw [← Timestamp.utcText?_eq_none_iff]
  unfold timestampLiteral
  generalize t.utcText? = written
  cases written with
  | none => exact ⟨fun failed => by cases failed; exact ⟨rfl, rfl⟩, fun ⟨_, same⟩ => same ▸ rfl⟩
  | some text => exact ⟨nofun, nofun⟩

/-- What is said of a value that is flawed. -/
def flaw : Value → SerializationError
  | .float x => .nonFinite x
  | _ => .yearOutOfRange

/-- A single value has a literal unless it is flawed, and the error then says how. -/
theorem literal_eq_error_iff_of_isSingle {value : Value} (single : value.isSingle)
    {cause : Error} :
    value.literal = .error cause ↔ value.Flawed ∧ cause = .serialization value.flaw := by
  cases value with
  | array items => cases single
  | object members => cases single
  | float x =>
    refine (floatLiteral_eq_error_iff (x := x)).trans (and_congr_left fun _ => ?_)
    exact ⟨.float, fun | .float infinite => infinite⟩
  | timestamp t =>
    refine (timestampLiteral_eq_error_iff (t := t)).trans (and_congr_left fun _ => ?_)
    exact ⟨.timestamp, fun | .timestamp outside => outside⟩
  | _ => exact ⟨nofun, nofun⟩

theorem Flawed.literal_eq {part : Value} (flawed : part.Flawed) :
    part.literal = .error (.serialization part.flaw) := by
  have single : part.isSingle := by cases flawed <;> rfl
  exact (literal_eq_error_iff_of_isSingle single).2 ⟨flawed, rfl⟩

/-- For a timestamp the flaw is told by its second, wherever the clock that shows it is. -/
theorem flawed_timestamp_iff {t : Timestamp} : (Value.timestamp t).Flawed ↔
    t.second < Date.yearStart 0 * 86400 ∨ Date.yearStart 10000 * 86400 ≤ t.second := by
  have outside : (Value.timestamp t).Flawed ↔
      t.toUtc.reading.date.year < 0 ∨ ¬t.toUtc.reading.date.year < 10000 :=
    ⟨fun | .timestamp outside => by omega, fun outside => .timestamp (by omega)⟩
  have shown : t.toUtc.reading = Reading.ofSecondNumber t.second := by
    rw [Timestamp.reading, Timestamp.toUtc, Int.add_zero]
  rw [outside, shown, Reading.year_ofSecondNumber_lt_iff, Reading.year_ofSecondNumber_lt_iff,
    Int.not_lt]

theorem not_flawed_array (items : List Value) : ¬(Value.array items).Flawed := nofun

theorem not_flawed_object (members : List (String × Value)) : ¬(Value.object members).Flawed :=
  nofun

theorem flawless_iff_of_isSingle {value : Value} (single : value.isSingle) :
    value.Flawless ↔ ¬value.Flawed := by
  constructor
  · exact fun none => none value .here
  · intro fine part inside
    cases inside with
    | here => exact fine
    | item => cases single
    | member => cases single

theorem flawless_array {items : List Value} :
    (Value.array items).Flawless ↔ ∀ item ∈ items, item.Flawless := by
  constructor
  · exact fun none item mem part inside => none part (.item mem inside)
  · intro each part inside
    cases inside with
    | here => exact not_flawed_array items
    | item mem inside => exact each _ mem part inside

theorem flawless_object {members : List (String × Value)} :
    (Value.object members).Flawless ↔ ∀ member ∈ members, member.2.Flawless := by
  constructor
  · exact fun none member mem part inside => none part (.member mem inside)
  · intro each part inside
    cases inside with
    | here => exact not_flawed_object members
    | member mem inside => exact each _ mem part inside

/-! ## Failing literals -/

theorem literal_array_failsLike (items : List Value) :
    FailsLike (Value.array items).literal (items.mapM literal) := by
  have walk : FailsLike (itemLiterals items) (items.mapM literal) := by
    induction items with
    | nil => trivial
    | cons item rest ih =>
      rw [itemLiterals, List.mapM_cons]
      exact (FailsLike.refl _).bind fun _ _ => ih.bind fun _ _ => trivial
  exact (FailsLike.of_bind_ok fun texts => ⟨_, rfl⟩).trans walk

theorem literal_object_failsLike (members : List (String × Value)) :
    FailsLike (Value.object members).literal (members.mapM fun member => member.2.literal) := by
  have walk : FailsLike (memberLiterals members)
      (members.mapM fun member => member.2.literal) := by
    induction members with
    | nil => trivial
    | cons member rest ih =>
      obtain ⟨name, value⟩ := member
      rw [memberLiterals, List.mapM_cons]
      exact (FailsLike.refl _).bind fun _ _ => ih.bind fun _ _ => trivial
  exact (FailsLike.of_bind_ok fun texts => ⟨_, rfl⟩).trans walk

/-- A value has a literal if nothing in it is flawed. -/
theorem exists_literal_iff (value : Value) :
    (∃ text, value.literal = .ok text) ↔ value.Flawless := by
  induction value using forall_of_parts with
  | single value single =>
    have failed := @literal_eq_error_iff_of_isSingle value single
    rw [flawless_iff_of_isSingle single]
    cases written : value.literal with
    | ok text =>
      refine iff_of_true ⟨text, rfl⟩ fun flawed => ?_
      have unwritten := failed.2 ⟨flawed, rfl⟩
      rw [written] at unwritten
      cases unwritten
    | error cause => exact iff_of_false nofun (not_not_intro (failed.1 written).1)
  | array items ih =>
    rw [(literal_array_failsLike items).exists_ok_iff, exists_mapM_eq_ok_iff, flawless_array]
    exact forall₂_congr ih
  | object members ih =>
    rw [(literal_object_failsLike members).exists_ok_iff, exists_mapM_eq_ok_iff, flawless_object]
    exact forall₂_congr ih

/-! ## The first flaw -/

theorem allOrdered_iff {items : List Value} : AllOrdered items ↔ ∀ item ∈ items, item.Ordered := by
  induction items with
  | nil => simp [AllOrdered]
  | cons item rest ih => rw [AllOrdered, ih, List.forall_mem_cons]

theorem membersOrdered_iff {members : List (String × Value)} :
    MembersOrdered members ↔ ∀ member ∈ members, member.2.Ordered := by
  induction members with
  | nil => simp [MembersOrdered]
  | cons member rest ih => rw [MembersOrdered, ih, List.forall_mem_cons]

/-- The part is flawed, and nothing is that comes before it, where items of arrays come in their
order and members of objects by the ascending bytes of their names. -/
inductive FirstFlaw (part : Value) : Value → Prop
  | here (flawed : part.Flawed) : FirstFlaw part part
  | item {before after : List Value} {item : Value} (fine : ∀ earlier ∈ before, earlier.Flawless)
    (inside : FirstFlaw part item) : FirstFlaw part (.array (before ++ item :: after))
  | member {members : List (String × Value)} {member : String × Value} (mem : member ∈ members)
    (fine : ∀ other ∈ members, bytes other.1 < bytes member.1 → other.2.Flawless)
    (inside : FirstFlaw part member.2) : FirstFlaw part (.object members)

theorem FirstFlaw.within {part value : Value} (first : FirstFlaw part value) :
    part.Within value ∧ part.Flawed := by
  induction first with
  | here flawed => exact ⟨.here, flawed⟩
  | item fine inside ih => exact ⟨.item (List.mem_append_right _ List.mem_cons_self) ih.1, ih.2⟩
  | member mem fine inside ih => exact ⟨.member mem ih.1, ih.2⟩

theorem firstFlaw_iff_of_isSingle {part value : Value} (single : value.isSingle) :
    FirstFlaw part value ↔ part = value ∧ value.Flawed := by
  constructor
  · intro first
    cases first with
    | here flawed => exact ⟨rfl, flawed⟩
    | item => cases single
    | member => cases single
  · rintro ⟨rfl, flawed⟩
    exact .here flawed

theorem firstFlaw_array_iff {part : Value} {items : List Value} :
    FirstFlaw part (.array items) ↔ ∃ before item after, items = before ++ item :: after ∧
      (∀ earlier ∈ before, earlier.Flawless) ∧ FirstFlaw part item := by
  constructor
  · intro first
    cases first with
    | here flawed => exact absurd flawed (not_flawed_array items)
    | item fine inside => exact ⟨_, _, _, rfl, fine, inside⟩
  · rintro ⟨before, item, after, rfl, fine, inside⟩
    exact .item fine inside

theorem firstFlaw_object_iff {part : Value} {members : List (String × Value)} :
    FirstFlaw part (.object members) ↔ ∃ member ∈ members, FirstFlaw part member.2 ∧
      ∀ other ∈ members, bytes other.1 < bytes member.1 → other.2.Flawless := by
  constructor
  · intro first
    cases first with
    | here flawed => exact absurd flawed (not_flawed_object members)
    | member mem fine inside => exact ⟨_, mem, inside, fine⟩
  · rintro ⟨member, mem, inside, fine⟩
    exact .member mem fine inside

/-- An error is that of the first flaw. -/
theorem literal_eq_error_iff {value : Value} (ordered : value.Ordered) {cause : Error} :
    value.literal = .error cause ↔ ∃ part, FirstFlaw part value ∧ part.literal = .error cause := by
  induction value using forall_of_parts with
  | single value single =>
    simp only [firstFlaw_iff_of_isSingle single, and_assoc, exists_eq_left]
    exact ⟨fun failed => ⟨((literal_eq_error_iff_of_isSingle single).1 failed).1, failed⟩, And.right⟩
  | array items ih =>
    have each := allOrdered_iff.1 ordered
    rw [(literal_array_failsLike items).eq_error_iff, mapM_eq_error_iff]
    simp only [exists_literal_iff, firstFlaw_array_iff]
    constructor
    · rintro ⟨before, item, after, rfl, fine, failed⟩
      have mem : item ∈ before ++ item :: after := by simp
      obtain ⟨part, first, cause⟩ := (ih item mem (each item mem)).1 failed
      exact ⟨part, ⟨before, item, after, rfl, fine, first⟩, cause⟩
    · rintro ⟨part, ⟨before, item, after, rfl, fine, first⟩, failed⟩
      have mem : item ∈ before ++ item :: after := by simp
      exact ⟨before, item, after, rfl, fine, (ih item mem (each item mem)).2 ⟨part, first, failed⟩⟩
  | object members ih =>
    obtain ⟨ascending, each⟩ := ordered
    rw [membersOrdered_iff] at each
    rw [(literal_object_failsLike members).eq_error_iff, mapM_eq_error_iff]
    simp only [exists_literal_iff, firstFlaw_object_iff, Members.first_iff_least ascending,
      before_iff_bytes]
    constructor
    · rintro ⟨member, mem, failed, fine⟩
      obtain ⟨part, first, cause⟩ := (ih member mem (each member mem)).1 failed
      exact ⟨part, ⟨member, mem, first, fine⟩, cause⟩
    · rintro ⟨part, ⟨member, mem, first, fine⟩, failed⟩
      exact ⟨member, mem, (ih member mem (each member mem)).2 ⟨part, first, failed⟩, fine⟩

theorem FirstFlaw.not_flawless {part value : Value} (first : FirstFlaw part value) :
    ¬value.Flawless :=
  fun none => none part first.within.1 first.within.2

/-- The first that is bad is one, if all that come before are fine. -/
theorem eq_of_first {α : Type} {fine : α → Prop} {before before' after after' : List α} {x y : α}
    (same : before ++ x :: after = before' ++ y :: after') (front : ∀ z ∈ before, fine z)
    (front' : ∀ z ∈ before', fine z) (bad : ¬fine x) (bad' : ¬fine y) : x = y := by
  rcases List.append_eq_append_iff.1 same with ⟨between, rfl, rest⟩ | ⟨between, rfl, rest⟩
  · cases between with
    | nil => exact (List.cons.inj rest).1
    | cons z between =>
      cases rest
      exact absurd (front' x (by simp)) bad
  · cases between with
    | nil => exact (List.cons.inj rest).1.symm
    | cons z between =>
      cases rest
      exact absurd (front y (by simp)) bad'

theorem FirstFlaw.unique {part other value : Value} (ordered : value.Ordered)
    (first : FirstFlaw part value) (also : FirstFlaw other value) : other = part := by
  induction value using forall_of_parts with
  | single value single =>
    rw [firstFlaw_iff_of_isSingle single] at first also
    exact also.1.trans first.1.symm
  | array items ih =>
    obtain ⟨before, item, after, rfl, fine, inside⟩ := firstFlaw_array_iff.1 first
    obtain ⟨before', item', after', split, fine', inside'⟩ := firstFlaw_array_iff.1 also
    cases eq_of_first split fine fine' inside.not_flawless inside'.not_flawless
    have mem : item ∈ before ++ item :: after := by simp
    exact ih item mem (allOrdered_iff.1 ordered item mem) inside inside'
  | object members ih =>
    obtain ⟨ascending, each⟩ := ordered
    obtain ⟨⟨name, item⟩, mem, inside, fine⟩ := firstFlaw_object_iff.1 first
    obtain ⟨⟨name', item'⟩, mem', inside', fine'⟩ := firstFlaw_object_iff.1 also
    have same : name = name' := Text.eq_of_not_before
      (fun before => inside.not_flawless (fine' _ mem (before_iff_bytes.1 before)))
      (fun before => inside'.not_flawless (fine _ mem' (before_iff_bytes.1 before)))
    have found := Members.get?_of_mem ascending.nodup mem
    rw [same, Members.get?_of_mem ascending.nodup mem'] at found
    cases found
    exact ih _ mem (membersOrdered_iff.1 each _ mem) inside inside'

/-- A value has no literal just where something in it is flawed: a double that is not finite, or a
timestamp whose year in UTC has not four digits. The error then says that the value cannot be
serialized, and it is the error of the first flaw alone, of which there is only one. Names, strings
and the depth of the value do not matter. -/
theorem literal_fails_at_first_flaw {value : Value} (ordered : value.Ordered) :
    ((∃ cause, value.literal = .error cause) ↔ ∃ part : Value, part.Within value ∧ part.Flawed) ∧
    (value.Flawless → ∃ text, value.literal = .ok text) ∧
    ∀ cause, value.literal = .error cause → cause.code = "Unserializable" ∧
      ∃ part, FirstFlaw part value ∧ part.literal = .error cause ∧
        ∀ other, FirstFlaw other value → other = part := by
  have written := exists_literal_iff value
  refine ⟨?_, written.2, ?_⟩
  · have fails : (∃ cause, value.literal = .error cause) ↔ ¬∃ text, value.literal = .ok text := by
      cases value.literal <;> simp
    rw [fails, written]
    simp only [Flawless, not_forall, not_not, exists_prop]
  · intro cause failed
    obtain ⟨part, first, failed⟩ := (literal_eq_error_iff ordered).1 failed
    have flaw := first.within.2.literal_eq
    rw [failed] at flaw
    cases flaw
    exact ⟨rfl, part, first, failed, fun other also => first.unique ordered also⟩

/-- The start of the year 0, told by a clock ahead of UTC, lies in the year before, and stands in
front of a double that is not a number. -/
theorem literal_fails_at_first_flaw_new_year :
    let start := Timestamp.ofReading ⟨⟨0, 1, 1⟩, 0, 30, 0⟩ 0 3600
    let early : Value := .timestamp start
    let value : Value := .object [("a", .array [.null, early]), ("b", .float .nan)]
    start.Supported ∧ start.toUtc.reading.date.year = -1 ∧ value.Ordered ∧
      value.literal = .error (.serialization .yearOutOfRange) ∧ FirstFlaw early value := by
  intro start early value
  have ascending : Text.Before "a" "b" := by decide
  have ordered : value.Ordered := by
    simp [value, early, Ordered, AllOrdered, MembersOrdered, Members.Ordered, ascending]
  have year : start.toUtc.reading.date.year = -1 := by decide
  have flawed : early.Flawed := .timestamp (.inl (by omega))
  have first : FirstFlaw early value := by
    refine firstFlaw_object_iff.2 ⟨_, List.mem_cons_self, firstFlaw_array_iff.2 ⟨[.null], early, [],
      rfl, fun earlier mem => ?_, .here flawed⟩, fun other mem before => ?_⟩
    · cases List.mem_singleton.1 mem
      exact (flawless_iff_of_isSingle rfl).2 fun flawed => by cases flawed
    · -- no name comes before the first of the two
      rw [← before_iff_bytes] at before
      simp only [List.mem_cons, List.not_mem_nil, or_false] at mem
      rcases mem with rfl | rfl <;> exact absurd before (by decide)
  obtain ⟨fails, -, errors⟩ := literal_fails_at_first_flaw ordered
  obtain ⟨cause, failed⟩ := fails.2 ⟨early, first.within⟩
  obtain ⟨-, part, -, own, only⟩ := errors cause failed
  cases only early first
  rw [flawed.literal_eq] at own
  cases own
  exact ⟨by decide, year, ordered, failed, first⟩

end RecordMapper.Value
