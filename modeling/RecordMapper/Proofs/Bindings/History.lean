import RecordMapper.Proofs.Keyed
import RecordMapper.Proofs.Members
import RecordMapper.Proofs.Statement.Containment
import RecordMapper.Proofs.Statement.Offence

/-!
Variables and the steps that made them. Variables are a map that keeps the order in which its
names first came: whatever is bound one by one or taken over from other variables, the entries
are the settings of all steps, each placed among those before it (`entries_filled`), so a name
stands where it was first set and has the value that it was last given. Taking over other
variables is a union in which these win (`get?_extend`, `extend_assoc`). The lines that declare
the variables follow the entries and stop at the first that cannot be declared.
-/

namespace RecordMapper.Bindings

open Identifier (isKey)
open Keyed (Last place placed)
open Request (Fits FirstOffence Offence namedText)

/-! ## Entries -/

theorem get?_eq_some_iff {b : Bindings} {name : String} {value : Value} :
    b.get? name = some value ↔ (name, value) ∈ b.entries :=
  ⟨Members.mem_of_get?_eq_some, Members.get?_of_mem b.names_nodup⟩

theorem get?_eq_none_iff {b : Bindings} {name : String} :
    b.get? name = none ↔ name ∉ b.names := by
  rw [Option.eq_none_iff_forall_ne_some, names, List.mem_map]
  constructor
  · intro unset bound
    obtain ⟨entry, mem, rfl⟩ := bound
    exact unset entry.2 (get?_eq_some_iff.2 mem)
  · intro new value found
    exact new ⟨(name, value), get?_eq_some_iff.1 found, rfl⟩

theorem entries_eq (b : Bindings) :
    b.entries = b.names.filterMap fun name => (b.get? name).map fun value => (name, value) := by
  have each : ∀ entry ∈ b.entries,
      (b.get? entry.1).map (fun value => (entry.1, value)) = some entry := by
    intro entry mem
    rw [get?_eq_some_iff.2 mem]
    rfl
  rw [names, List.filterMap_map]
  exact ((List.filterMap_congr each).trans (List.filterMap_some)).symm

/-- Variables are told by their names, in order, and the value of each. -/
theorem ext_get? {b other : Bindings} (names : b.names = other.names)
    (values : ∀ name, b.get? name = other.get? name) : b = other := by
  have entries : b.entries = other.entries := by
    rw [entries_eq b, entries_eq other, names]
    simp only [values]
  cases b
  cases other
  cases entries
  rfl

theorem set_eq_place (name : String) (value : Value) (entries : List (String × Value)) :
    set name value entries = place Prod.fst (name, value) entries := by
  induction entries with
  | nil => rfl
  | cons entry rest ih => rw [set, place, ih]

theorem entries_foldl_insert (b : Bindings) (entries : List (String × Value)) :
    (entries.foldl (fun b entry => b.insert entry.1 entry.2) b).entries =
      placed Prod.fst (b.entries ++ entries) := by
  rw [← Keyed.foldl_place b.names_nodup]
  induction entries generalizing b with
  | nil => rfl
  | cons entry rest ih =>
    have first : (b.insert entry.1 entry.2).entries = place Prod.fst entry b.entries :=
      set_eq_place entry.1 entry.2 b.entries
    rw [List.foldl_cons, ih, first, List.foldl_cons]

/-! ## Union -/

theorem entries_extend (b other : Bindings) :
    (b.extend other).entries = placed Prod.fst (b.entries ++ other.entries) :=
  entries_foldl_insert b other.entries

/-- The names that are there stay where they are, and the new ones follow. -/
theorem names_extend (b other : Bindings) :
    (b.extend other).names = b.names ++ other.names.filter (· ∉ b.names) := by
  have new : (other.names.removeAll b.names) = other.names.filter (· ∉ b.names) := by
    simp [List.removeAll]
  have distinct : (other.names.filter (· ∉ b.names)).Nodup := other.names_nodup.filter _
  calc (b.extend other).names
    _ = (b.names ++ other.names).eraseDups := by
      rw [names, entries_extend, Keyed.map_placed, List.map_append, names, names]
    _ = b.names.eraseDups ++ (other.names.removeAll b.names).eraseDups := List.eraseDups_append
    _ = b.names ++ other.names.filter (· ∉ b.names) := by
      have own : b.names.eraseDups = b.names := eraseDups_of_nodup b.names_nodup
      rw [own, new, eraseDups_of_nodup distinct]

/-- The values that are taken over win. -/
theorem get?_extend (b other : Bindings) (name : String) :
    (b.extend other).get? name = (other.get? name).or (b.get? name) := by
  ext value
  rw [get?_eq_some_iff, entries_extend, Keyed.mem_placed_iff, Keyed.last_append,
    Keyed.last_iff_mem other.names_nodup, Keyed.last_iff_mem b.names_nodup, Option.or_eq_some_iff,
    get?_eq_some_iff, get?_eq_some_iff, get?_eq_none_iff, and_comm]
  rfl

theorem extend_assoc (a b c : Bindings) : (a.extend b).extend c = a.extend (b.extend c) := by
  refine ext_get? ?_ fun name => ?_
  · simp only [names_extend, List.filter_append, List.filter_filter, List.append_assoc]
    congr 2
    refine List.filter_congr fun name _ => ?_
    by_cases old : name ∈ a.names
    · simp [old]
    · simp [old, List.mem_filter]
  · simp only [get?_extend, Option.or_assoc]

/-! ## Steps -/

/-- A change to variables. That a name is bound in a chain of calls makes no difference. -/
inductive Step where
  | bind (name : String) (value : Value)
  | extend (other : Bindings)

namespace Step

/-- What a step makes of variables. -/
def apply (b : Bindings) : Step → Bindings
  | .bind name value => b.insert name value
  | .extend other => b.extend other

/-- The names that a step sets, with their values. -/
def settings : Step → List (String × Value)
  | .bind name value => [(name, value)]
  | .extend other => other.entries

/-- The names that a step sets. -/
def names (step : Step) : List String := step.settings.map Prod.fst

theorem nodup_names (step : Step) : step.names.Nodup := by
  cases step with
  | bind name value => exact List.nodup_singleton name
  | extend other => exact other.names_nodup

theorem entries_apply (b : Bindings) (step : Step) :
    (step.apply b).entries = placed Prod.fst (b.entries ++ step.settings) := by
  cases step with
  | bind name value => exact entries_foldl_insert b [(name, value)]
  | extend other => exact entries_extend b other

end Step

/-- The variables that steps leave, from none. -/
def filled (steps : List Step) : Bindings := steps.foldl Step.apply empty

/-- Of the steps that set the name the last gives it the value. -/
def LastSet (steps : List Step) (name : String) (value : Value) : Prop :=
  ∃ before step after, steps = before ++ step :: after ∧ (name, value) ∈ step.settings ∧
    ∀ later ∈ after, name ∉ later.names

/-- The entries are the settings of all steps, each placed among those before it. -/
theorem entries_filled (steps : List Step) :
    (filled steps).entries = placed Prod.fst (steps.flatMap Step.settings) := by
  induction steps using List.reverseRecOn with
  | nil => rfl
  | append_singleton steps step ih =>
    have last : filled (steps ++ [step]) = step.apply (filled steps) := by
      rw [filled, List.foldl_append]
      rfl
    rw [last, Step.entries_apply, ih, ← Keyed.foldl_place (Keyed.nodup_map_placed _),
      List.flatMap_append, List.flatMap_singleton]
    simp only [placed, List.foldl_append]

theorem names_filled (steps : List Step) :
    (filled steps).names = (steps.flatMap Step.names).eraseDups := by
  rw [names, entries_filled, Keyed.map_placed, List.map_flatMap]
  rfl

theorem get?_filled_eq_some_iff {steps : List Step} {name : String} {value : Value} :
    (filled steps).get? name = some value ↔ LastSet steps name value := by
  rw [get?_eq_some_iff, entries_filled, Keyed.mem_placed_iff, Keyed.last_flatMap]
  simp only [Keyed.last_iff_mem (Step.nodup_names _)]
  rfl

theorem get?_filled_eq_none_iff {steps : List Step} {name : String} :
    (filled steps).get? name = none ↔ ∀ step ∈ steps, name ∉ step.names := by
  rw [get?_eq_none_iff, names_filled, List.mem_eraseDups, List.mem_flatMap]
  simp only [not_exists, not_and]

theorem size_filled (steps : List Step) :
    (filled steps).size = (steps.flatMap Step.names).toFinset.card := by
  rw [← length_eraseDups, ← names_filled, names, List.length_map, size]

/-! ## Declarations -/

theorem line_eq_namedText :
    line = namedText isKey fun name text => "LET $" ++ name ++ " = " ++ text ++ ";\n" := rfl

theorem exists_preamble_iff {b : Bindings} :
    (∃ text, b.preamble = .ok text) ↔ ∀ entry ∈ b.entries, Fits isKey entry := by
  rw [← Request.exists_mapM_namedText_iff, ← line_eq_namedText]
  unfold preamble
  cases b.entries.mapM line with
  | error cause => exact ⟨nofun, nofun⟩
  | ok lines => exact ⟨fun _ => ⟨lines, rfl⟩, fun _ => ⟨_, rfl⟩⟩

theorem preamble_eq_error_iff {b : Bindings} {cause : Error} :
    b.preamble = .error cause ↔ FirstOffence isKey b.entries cause := by
  rw [← Request.mapM_namedText_eq_error_iff, ← line_eq_namedText, preamble, bind_eq_error_iff]
  constructor
  · intro failed
    rcases failed with failed | ⟨lines, -, failed⟩
    · exact failed
    · cases failed
  · exact .inl

/-- The lines declare the names in order, each with its value. -/
theorem preamble_eq_ok_names {b : Bindings} {text : String} (written : b.preamble = .ok text) :
    ∃ declarations, text = String.join (declarations.map (· ++ ";\n")) ∧
      List.Forall₂ (fun name declaration => ∃ value, b.get? name = some value ∧
        Declares (name, value) declaration) b.names declarations := by
  obtain ⟨declarations, declares, -, joined⟩ := preamble_eq_ok written
  refine ⟨declarations, joined, List.forall₂_map_left_iff.2 ?_⟩
  have found : ∀ entry ∈ b.entries, b.get? entry.1 = some entry.2 := fun entry mem =>
    get?_eq_some_iff.2 mem
  exact ((List.forall₂_and_left _ _).2 ⟨found, declares⟩).imp fun entry _ both =>
    ⟨entry.2, both⟩

/-- The first offence among entries, told by names and their values. -/
theorem firstOffence_iff_names {b : Bindings} {check : List Char → Bool} {cause : Error} :
    FirstOffence check b.entries cause ↔ ∃ before name after value,
      b.names = before ++ name :: after ∧ b.get? name = some value ∧
        (∀ earlier ∈ before, ∃ own, b.get? earlier = some own ∧ Fits check (earlier, own)) ∧
        Offence check (name, value) cause := by
  constructor
  · intro first
    obtain ⟨before, entry, after, split, fits, offence⟩ := first
    have inside : ∀ earlier ∈ before, earlier ∈ b.entries := fun earlier mem => by
      rw [split]
      exact List.mem_append_left _ mem
    refine ⟨before.map Prod.fst, entry.1, after.map Prod.fst, entry.2, ?_, ?_, ?_, offence⟩
    · rw [names, split, List.map_append, List.map_cons]
    · rw [get?_eq_some_iff, split]
      exact List.mem_append_right _ List.mem_cons_self
    · intro name mem
      obtain ⟨earlier, listed, rfl⟩ := List.mem_map.1 mem
      exact ⟨earlier.2, get?_eq_some_iff.2 (inside earlier listed), fits earlier listed⟩
  · intro first
    obtain ⟨before, name, after, value, split, found, fits, offence⟩ := first
    obtain ⟨front, rest, entries, rfl, behind⟩ := List.map_eq_append_iff.1 split
    obtain ⟨entry, back, rfl, rfl, -⟩ := List.map_eq_cons_iff.1 behind
    -- names are distinct, so what is found under the name of an entry is its own value
    have unique : ∀ own ∈ b.entries, b.get? own.1 = some own.2 := fun own mem =>
      get?_eq_some_iff.2 mem
    refine ⟨front, entry, back, entries, fun earlier mem => ?_, ?_⟩
    · obtain ⟨own, held, fit⟩ := fits earlier.1 (List.mem_map_of_mem mem)
      have same := unique earlier (entries ▸ List.mem_append_left _ mem)
      rw [same] at held
      cases held
      exact fit
    · have same := unique entry (entries ▸ List.mem_append_right _ List.mem_cons_self)
      rw [same] at found
      cases found
      exact offence

/-- Variables are a map that keeps the order in which its names first came. After any steps the
names are those that were set, each once and in the order of the first setting, and a name has
the value that it was last given. The lines that declare variables are there just if every
name is a key and every value has a literal; otherwise the first entry with which something is
wrong decides. Taking over other variables lets their values win and their new names follow,
and it makes no difference how such unions are grouped. -/
theorem filled_told_by_steps :
    (∀ steps : List Step,
      (filled steps).names.Nodup ∧
      (filled steps).names = (steps.flatMap Step.names).eraseDups ∧
      (∀ name value, (filled steps).get? name = some value ↔ LastSet steps name value) ∧
      (∀ name, (filled steps).get? name = none ↔ ∀ step ∈ steps, name ∉ step.names) ∧
      (filled steps).size = (steps.flatMap Step.names).toFinset.card) ∧
    (∀ b : Bindings,
      ((∀ name value, b.get? name = some value → Fits isKey (name, value)) ↔
        ∃ declarations, b.preamble = .ok (String.join (declarations.map (· ++ ";\n"))) ∧
          List.Forall₂ (fun name declaration => ∃ value, b.get? name = some value ∧
            Declares (name, value) declaration) b.names declarations) ∧
      ∀ cause, b.preamble = .error cause ↔ ∃ before name after value,
        b.names = before ++ name :: after ∧ b.get? name = some value ∧
        (∀ earlier ∈ before, ∃ own, b.get? earlier = some own ∧ Fits isKey (earlier, own)) ∧
        Offence isKey (name, value) cause) ∧
    ∀ a b c : Bindings,
      (∀ name, (a.extend b).get? name = (b.get? name).or (a.get? name)) ∧
      (a.extend b).names = a.names ++ b.names.filter (· ∉ a.names) ∧
      (a.extend b).extend c = a.extend (b.extend c) := by
  refine ⟨fun steps => ?_, fun b => ⟨?_, fun cause => ?_⟩, fun a b c => ?_⟩
  · exact ⟨(filled steps).names_nodup, names_filled steps, fun _ _ => get?_filled_eq_some_iff,
      fun _ => get?_filled_eq_none_iff, size_filled steps⟩
  · constructor
    · intro fits
      have all : ∀ entry ∈ b.entries, Fits isKey entry := fun entry mem =>
        fits entry.1 entry.2 (get?_eq_some_iff.2 mem)
      obtain ⟨text, written⟩ := exists_preamble_iff.2 all
      obtain ⟨declarations, rfl, declares⟩ := preamble_eq_ok_names written
      exact ⟨declarations, written, declares⟩
    · intro written name value found
      obtain ⟨declarations, written, -⟩ := written
      exact exists_preamble_iff.1 ⟨_, written⟩ _ (get?_eq_some_iff.1 found)
  · rw [preamble_eq_error_iff, firstOffence_iff_names]
  · exact ⟨get?_extend a b, names_extend a b, extend_assoc a b c⟩

/-- A name that is bound again keeps its place, also when variables are taken over. -/
example : (filled [.bind "a" (.bool true), .bind "b" .null,
    .extend (.ofList [("c", .null), ("a", .string "x")])]).preamble =
      .ok "LET $a = \"x\";\nLET $b = null;\nLET $c = null;\n" := by rfl

end RecordMapper.Bindings
