import Mathlib.Data.Finset.Card
import Mathlib.Data.List.Induction
import Mathlib.Data.List.Nodup

/-!
Lists in which an item takes the place of the one that has its key, or comes last if there is
none. What is left when items are placed one after the other has two laws: its keys are the
distinct keys of the items in the order in which they first came (`map_placed`), and each key
is held by the last item that has it (`mem_placed_iff`).
-/

namespace RecordMapper

/-! ## First occurrences -/

section Distinct

variable {κ : Type} [DecidableEq κ]

theorem eraseDups_concat (keys : List κ) (key : κ) :
    (keys ++ [key]).eraseDups =
      if key ∈ keys then keys.eraseDups else keys.eraseDups ++ [key] := by
  rw [List.eraseDups_append, List.removeAll]
  by_cases old : key ∈ keys
  · simp [old]
  · simp [old, List.eraseDups_cons]

theorem nodup_eraseDups (keys : List κ) : keys.eraseDups.Nodup := by
  induction keys using List.reverseRecOn with
  | nil => exact List.nodup_nil
  | append_singleton keys key ih =>
    rw [eraseDups_concat]
    split
    · exact ih
    · rename_i new
      refine List.nodup_append.2 ⟨ih, List.nodup_singleton key, fun other mem x found same => ?_⟩
      rw [List.mem_singleton.1 found] at same
      exact new (List.mem_eraseDups.1 (same ▸ mem))

theorem eraseDups_of_nodup {keys : List κ} (nodup : keys.Nodup) : keys.eraseDups = keys := by
  induction keys using List.reverseRecOn with
  | nil => rfl
  | append_singleton keys key ih =>
    obtain ⟨distinct, -, apart⟩ := List.nodup_append.1 nodup
    have new : key ∉ keys := fun old => apart key old key (List.mem_singleton_self key) rfl
    rw [eraseDups_concat, if_neg new, ih distinct]

/-- There are as many first occurrences as there are keys. -/
theorem length_eraseDups (keys : List κ) : keys.eraseDups.length = keys.toFinset.card := by
  have same : keys.eraseDups.toFinset = keys.toFinset := by
    ext key
    rw [List.mem_toFinset, List.mem_toFinset, List.mem_eraseDups]
  rw [← same, List.toFinset_card_of_nodup (nodup_eraseDups keys)]

end Distinct

namespace Keyed

variable {α β κ : Type} {key : α → κ}

/-! ## Last occurrences -/

/-- The item is in the list, and none behind it has its key. -/
def Last (key : α → κ) (items : List α) (item : α) : Prop :=
  ∃ before after, items = before ++ item :: after ∧ ∀ later ∈ after, key later ≠ key item

theorem not_last_nil {item : α} : ¬Last key [] item := by
  intro last
  obtain ⟨before, after, split, -⟩ := last
  simp at split

theorem Last.mem {items : List α} {item : α} (last : Last key items item) : item ∈ items := by
  obtain ⟨before, after, rfl, -⟩ := last
  exact List.mem_append_right _ List.mem_cons_self

theorem not_mem_map_iff {items : List α} {item : α} :
    key item ∉ items.map key ↔ ∀ other ∈ items, key other ≠ key item := by
  simp [List.mem_map]

/-- The last item of a key is the last of another key, if that key tells less. -/
theorem Last.of_finer {μ : Type} {other : α → μ} {items : List α} {item : α}
    (last : Last other items item)
    (finer : ∀ x ∈ items, key x = key item → other x = other item) : Last key items item := by
  obtain ⟨before, after, rfl, different⟩ := last
  refine ⟨before, after, rfl, fun later mem same => different later mem (finer later ?_ same)⟩
  exact List.mem_append_right _ (List.mem_cons_of_mem _ mem)

/-- The last item of a key is the last one of the rest, or the rest does not have the key. -/
theorem last_append {items others : List α} {item : α} :
    Last key (items ++ others) item ↔
      Last key others item ∨ Last key items item ∧ key item ∉ others.map key := by
  rw [not_mem_map_iff]
  constructor
  · intro last
    obtain ⟨before, after, split, different⟩ := last
    rcases List.append_eq_append_iff.1 split with ⟨passed, -, rest⟩ | ⟨passed, rfl, rest⟩
    · exact .inl ⟨passed, after, rest, different⟩
    · cases passed with
      -- the item is the first of the second list
      | nil => exact .inl ⟨[], after, rest.symm, different⟩
      | cons first passed =>
        obtain ⟨rfl, rfl⟩ := List.cons.inj rest
        obtain ⟨inside, behind⟩ := List.forall_mem_append.1 different
        exact .inr ⟨⟨before, passed, rfl, inside⟩, behind⟩
  · intro last
    rcases last with ⟨before, after, rfl, different⟩ | ⟨⟨before, after, rfl, inside⟩, behind⟩
    · exact ⟨items ++ before, after, (List.append_assoc _ _ _).symm, different⟩
    · exact ⟨before, after ++ others, by simp, List.forall_mem_append.2 ⟨inside, behind⟩⟩

theorem last_concat {items : List α} {item x : α} :
    Last key (items ++ [x]) item ↔ item = x ∨ Last key items item ∧ key x ≠ key item := by
  have single : Last key [x] item ↔ item = x := by
    constructor
    · exact fun last => List.mem_singleton.1 last.mem
    · intro same
      exact ⟨[], [], by rw [same]; rfl, List.forall_mem_nil _⟩
  rw [last_append, single, not_mem_map_iff, List.forall_mem_singleton]

/-- The last item of a key among those of several lists stands in the last list that has the
key, and is the last one there. -/
theorem last_flatMap {sources : List β} {f : β → List α} {item : α} :
    Last key (sources.flatMap f) item ↔ ∃ before source after,
      sources = before ++ source :: after ∧ Last key (f source) item ∧
        ∀ later ∈ after, key item ∉ (f later).map key := by
  induction sources with
  | nil =>
    constructor
    · exact fun last => absurd last not_last_nil
    · intro found
      obtain ⟨before, source, after, split, -⟩ := found
      simp at split
  | cons first sources ih =>
    have apart : key item ∉ (sources.flatMap f).map key ↔
        ∀ later ∈ sources, key item ∉ (f later).map key := by
      simp only [List.map_flatMap, List.mem_flatMap, not_exists, not_and]
    rw [List.flatMap_cons, last_append, ih, apart]
    constructor
    · intro last
      rcases last with ⟨before, source, after, rfl, last, behind⟩ | ⟨last, behind⟩
      · exact ⟨first :: before, source, after, rfl, last, behind⟩
      · exact ⟨[], first, sources, rfl, last, behind⟩
    · intro found
      obtain ⟨before, source, after, split, last, behind⟩ := found
      cases before with
      | nil =>
        obtain ⟨rfl, rfl⟩ := List.cons.inj split
        exact .inr ⟨last, behind⟩
      | cons head before =>
        obtain ⟨rfl, rfl⟩ := List.cons.inj split
        exact .inl ⟨before, source, after, rfl, last, behind⟩

/-- Where keys are distinct, every item is the last of its key. -/
theorem last_iff_mem {items : List α} (distinct : (items.map key).Nodup) {item : α} :
    Last key items item ↔ item ∈ items := by
  constructor
  · exact Last.mem
  · intro mem
    obtain ⟨before, after, rfl⟩ := List.append_of_mem mem
    rw [List.map_append, List.map_cons] at distinct
    have apart := (List.nodup_cons.1 (List.nodup_append.1 distinct).2.1).1
    exact ⟨before, after, rfl, not_mem_map_iff.1 apart⟩

/-! ## Placing -/

variable [DecidableEq κ]

/-- Puts an item in the place of the one that has its key, or at the end. -/
def place (key : α → κ) (item : α) : List α → List α
  | [] => [item]
  | other :: rest => if key other = key item then item :: rest else other :: place key item rest

/-- What is left when items are placed one after the other. -/
def placed (key : α → κ) (items : List α) : List α :=
  items.foldl (fun kept item => place key item kept) []

theorem map_place (item : α) (items : List α) :
    (place key item items).map key =
      if key item ∈ items.map key then items.map key else items.map key ++ [key item] := by
  induction items with
  | nil => simp [place]
  | cons other rest ih =>
    rw [place]
    by_cases same : key other = key item
    · simp [same]
    · simp only [same, if_false, List.map_cons, ih, List.mem_cons, Ne.symm same, false_or]
      split <;> rfl

/-- Of the other items all are left that have other keys. -/
theorem mem_place_iff {item x : α} {items : List α} (distinct : (items.map key).Nodup) :
    x ∈ place key item items ↔ x = item ∨ x ∈ items ∧ key x ≠ key item := by
  induction items with
  | nil => simp [place]
  | cons other rest ih =>
    obtain ⟨apart, distinct⟩ := List.nodup_cons.1 distinct
    have later := not_mem_map_iff.1 apart
    rw [place]
    by_cases same : key other = key item
    · rw [if_pos same, List.mem_cons, List.mem_cons]
      constructor
      · intro mem
        rcases mem with rfl | mem
        · exact .inl rfl
        · exact .inr ⟨.inr mem, same ▸ later x mem⟩
      · intro mem
        rcases mem with rfl | ⟨rfl | mem, different⟩
        · exact .inl rfl
        · exact absurd same different
        · exact .inr mem
    · rw [if_neg same, List.mem_cons, List.mem_cons, ih distinct]
      constructor
      · intro mem
        rcases mem with rfl | rfl | ⟨mem, different⟩
        · exact .inr ⟨.inl rfl, same⟩
        · exact .inl rfl
        · exact .inr ⟨.inr mem, different⟩
      · intro mem
        rcases mem with rfl | ⟨rfl | mem, different⟩
        · exact .inr (.inl rfl)
        · exact .inl rfl
        · exact .inr (.inr ⟨mem, different⟩)

theorem placed_concat (items : List α) (item : α) :
    placed key (items ++ [item]) = place key item (placed key items) := by
  rw [placed, List.foldl_append]
  rfl

/-- The keys stand in the order in which they first came. -/
theorem map_placed (items : List α) :
    (placed key items).map key = (items.map key).eraseDups := by
  induction items using List.reverseRecOn with
  | nil => rfl
  | append_singleton items item ih =>
    rw [placed_concat, map_place, ih, List.map_append, List.map_singleton, eraseDups_concat]
    simp only [List.mem_eraseDups]

theorem nodup_map_placed (items : List α) : ((placed key items).map key).Nodup := by
  rw [map_placed]
  exact nodup_eraseDups _

/-- Each key is held by the last item that has it. -/
theorem mem_placed_iff {items : List α} {item : α} :
    item ∈ placed key items ↔ Last key items item := by
  induction items using List.reverseRecOn with
  | nil => exact iff_of_false List.not_mem_nil not_last_nil
  | append_singleton items x ih =>
    rw [placed_concat, mem_place_iff (nodup_map_placed items), ih, last_concat]
    simp only [ne_comm]

/-- Of each key there is a last item. -/
theorem exists_last {items : List α} {item : α} (mem : item ∈ items) :
    ∃ last, Last key items last ∧ key last = key item := by
  have kept : key item ∈ (placed key items).map key := by
    rw [map_placed, List.mem_eraseDups]
    exact List.mem_map_of_mem mem
  obtain ⟨last, left, same⟩ := List.mem_map.1 kept
  exact ⟨last, mem_placed_iff.1 left, same⟩

/-- An item with a new key comes last. -/
theorem place_of_not_mem {item : α} {items : List α} (new : key item ∉ items.map key) :
    place key item items = items ++ [item] := by
  induction items with
  | nil => rfl
  | cons other rest ih =>
    obtain ⟨different, later⟩ := not_or.1 (mt List.mem_cons.2 new)
    rw [place, if_neg (Ne.symm different), ih later, List.cons_append]

/-- An item stands where the one that had its key stood, and the others are left. -/
theorem place_append_cons {item old : α} {before after : List α} (same : key old = key item)
    (new : key item ∉ before.map key) :
    place key item (before ++ old :: after) = before ++ item :: after := by
  induction before with
  | nil => rw [List.nil_append, place, if_pos same, List.nil_append]
  | cons other before ih =>
    obtain ⟨different, later⟩ := not_or.1 (mt List.mem_cons.2 new)
    rw [List.cons_append, place, if_neg (Ne.symm different), ih later, List.cons_append]

/-- Items with distinct keys are left as they stand. -/
theorem placed_of_nodup {items : List α} (distinct : (items.map key).Nodup) :
    placed key items = items := by
  induction items using List.reverseRecOn with
  | nil => rfl
  | append_singleton items item ih =>
    rw [List.map_append, List.map_singleton] at distinct
    obtain ⟨others, -, apart⟩ := List.nodup_append.1 distinct
    have new : key item ∉ items.map key := fun old =>
      apart _ old _ (List.mem_singleton_self _) rfl
    rw [placed_concat, ih others, place_of_not_mem new]

/-- Placing goes on from what is left. -/
theorem foldl_place {items : List α} (distinct : (items.map key).Nodup) (others : List α) :
    others.foldl (fun kept item => place key item kept) items = placed key (items ++ others) := by
  have start := placed_of_nodup distinct
  rw [placed] at start
  rw [placed, List.foldl_append, start]

end Keyed

end RecordMapper
