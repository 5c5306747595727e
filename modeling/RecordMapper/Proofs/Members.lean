import Mathlib.Data.List.Nodup
import Mathlib.Data.List.Perm.Basic
import RecordMapper.Members

/-!
Members whose names differ. Settings of such names replace nothing (`perm_ofList`), and those
that come in order are the members as they stand (`ofList_of_ordered`), so that the first of them
that is not fine is the one with the least name (`first_iff_least`). Members in order are told by
the values of their names (`eq_of_get?`).
-/

namespace RecordMapper.Members

open Text (Before)

variable {β : Type}

/-- A name that is new replaces nothing. -/
theorem perm_insert {name : String} {members : List (String × β)}
    (new : name ∉ members.map Prod.fst) (value : β) :
    (insert name value members).Perm ((name, value) :: members) := by
  induction members with
  | nil => exact .refl _
  | cons entry rest ih =>
    obtain ⟨different, later⟩ := not_or.1 (mt List.mem_cons.2 new)
    simp only [insert, different, if_false]
    split
    · exact .refl _
    · exact ((ih later).cons entry).trans (.swap _ _ _)

/-- Entries of different names are all kept. -/
theorem perm_ofList {entries : List (String × β)} (nodup : (entries.map Prod.fst).Nodup) :
    (ofList entries).Perm entries := by
  suffices ∀ members : List (String × β), ((members ++ entries).map Prod.fst).Nodup →
      (entries.foldl (fun members entry => insert entry.1 entry.2 members) members).Perm
        (members ++ entries) from this [] nodup
  clear nodup
  induction entries with
  | nil => exact fun members _ => by rw [List.append_nil]; exact .refl _
  | cons entry entries ih =>
    intro members nodup
    have front : (members ++ entry :: entries).Perm (entry :: members ++ entries) :=
      List.perm_middle
    have names : ((entry :: members ++ entries).map Prod.fst).Nodup :=
      (front.map Prod.fst).nodup_iff.1 nodup
    have new : entry.1 ∉ members.map Prod.fst := by
      intro old
      rw [List.cons_append, List.map_cons, List.nodup_cons, List.map_append] at names
      exact names.1 (List.mem_append_left _ old)
    have added := perm_insert new entry.2
    have whole := added.append_right entries
    exact (ih _ ((whole.map Prod.fst).nodup_iff.2 names)).trans (whole.trans front.symm)

/-- Entries in order are the members as they stand. -/
theorem ofList_of_ordered {entries : List (String × β)} (ordered : Ordered entries) :
    ofList entries = entries := by
  refine (perm_ofList ordered.nodup).eq_of_pairwise (fun a b _ _ before after => ?_)
    (ordered_ofList entries) ordered
  exact absurd (before.trans after) (Text.not_before_self _)

theorem get?_cons (name other : String) (value : β) (rest : List (String × β)) :
    get? name ((other, value) :: rest) = if name = other then some value else get? name rest := by
  rw [get?, List.lookup_cons]
  by_cases same : name = other
  · rw [if_pos same, beq_iff_eq.2 same]
  · rw [if_neg same, beq_eq_false_iff_ne.2 same]
    rfl

/-- What is a member is found, where no name occurs twice. -/
theorem get?_of_mem {name : String} {value : β} {members : List (String × β)}
    (nodup : (members.map Prod.fst).Nodup) (mem : (name, value) ∈ members) :
    get? name members = some value := by
  induction members with
  | nil => cases mem
  | cons entry rest ih =>
    obtain ⟨other, old⟩ := entry
    rw [List.map_cons, List.nodup_cons] at nodup
    rw [get?_cons]
    rcases List.mem_cons.1 mem with same | later
    · cases same
      exact if_pos rfl
    · have different : name ≠ other := by
        rintro rfl
        exact nodup.1 (List.mem_map.2 ⟨(name, value), later, rfl⟩)
      rw [if_neg different]
      exact ih nodup.2 later

/-- Settings add no members but their own. -/
theorem mem_of_mem_ofList {entries : List (String × β)} {entry : String × β}
    (mem : entry ∈ ofList entries) : entry ∈ entries := by
  suffices ∀ members : List (String × β),
      entry ∈ entries.foldl (fun members entry => insert entry.1 entry.2 members) members →
        entry ∈ entries ∨ entry ∈ members from (this [] mem).resolve_right List.not_mem_nil
  clear mem
  induction entries with
  | nil => exact fun _ mem => .inr mem
  | cons first rest ih =>
    intro members mem
    rcases ih _ mem with later | here
    · exact .inl (List.mem_cons_of_mem _ later)
    · rcases mem_insert here with rfl | old
      · exact .inl List.mem_cons_self
      · exact .inr old

theorem get?_insert (name other : String) (value : β) (members : List (String × β)) :
    get? other (insert name value members) =
      if other = name then some value else get? other members := by
  split
  · rename_i same
    rw [same, get?_insert_self]
  · rename_i different
    rw [get?_insert_of_ne different]

theorem get?_overlay (name : String) (above below : List (String × β)) :
    get? name (overlay above below) = (get? name above).or (get? name below) := by
  induction above with
  | nil => rfl
  | cons entry rest ih =>
    obtain ⟨other, value⟩ := entry
    change get? name (insert other value (overlay rest below)) = _
    rw [get?_insert, ih, get?_cons]
    split <;> rfl

theorem Ordered.overlay {below : List (String × β)} (ordered : Ordered below)
    (above : List (String × β)) : Ordered (overlay above below) := by
  induction above with
  | nil => exact ordered
  | cons entry rest ih => exact ordered_insert ih entry.1 entry.2

/-- Without some names nothing is found under them, and all else as before. -/
theorem get?_without (names : List String) (name : String) (members : List (String × β)) :
    get? name (without names members) = if name ∈ names then none else get? name members := by
  induction members with
  | nil => exact (ite_self none).symm
  | cons entry rest ih =>
    obtain ⟨other, old⟩ := entry
    by_cases dropped : other ∈ names
    · have gone : without names ((other, old) :: rest) = without names rest :=
        List.filter_cons_of_neg (by simpa using dropped)
      rw [gone, ih]
      split
      · rfl
      · rename_i kept
        have different : name ≠ other := fun same => kept (same ▸ dropped)
        rw [get?_cons, if_neg different]
    · have stays : without names ((other, old) :: rest) = (other, old) :: without names rest :=
        List.filter_cons_of_pos (by simpa using dropped)
      rw [stays, get?_cons, get?_cons, ih]
      by_cases same : name = other
      · rw [if_pos same, if_pos same, same, if_neg dropped]
      · rw [if_neg same, if_neg same]

theorem mem_without_iff {names : List String} {entry : String × β} {members : List (String × β)} :
    entry ∈ without names members ↔ entry ∈ members ∧ entry.1 ∉ names := by
  simp [without]

theorem Ordered.without {members : List (String × β)} (ordered : Ordered members)
    (names : List String) : Ordered (without names members) :=
  List.Pairwise.filter _ ordered

theorem Ordered.mem_iff {members : List (String × β)} (ordered : Ordered members)
    {entry : String × β} : entry ∈ members ↔ get? entry.1 members = some entry.2 :=
  ⟨get?_of_mem ordered.nodup, mem_of_get?_eq_some⟩

/-- Members in order that have the same value under every name are the same. -/
theorem eq_of_get? {a b : List (String × β)} (first : Ordered a) (second : Ordered b)
    (same : ∀ name, get? name a = get? name b) : a = b := by
  have shared (entry : String × β) : entry ∈ a ↔ entry ∈ b := by
    rw [first.mem_iff, second.mem_iff, same]
  have perm := (List.perm_ext_iff_of_nodup (List.Nodup.of_map Prod.fst first.nodup)
    (List.Nodup.of_map Prod.fst second.nodup)).2 shared
  refine perm.eq_of_pairwise (fun x y _ _ before after => ?_) first second
  exact absurd (before.trans after) (Text.not_before_self _)

/-- In a list with ascending names the first entry that is bad, behind entries that are fine, has
the least name. -/
theorem first_iff_least {members : List (String × β)} (ordered : Ordered members)
    {fine bad : String × β → Prop} :
    (∃ before entry after, members = before ++ entry :: after ∧ (∀ earlier ∈ before, fine earlier) ∧
      bad entry) ↔
    ∃ entry ∈ members, bad entry ∧ ∀ other ∈ members, Before other.1 entry.1 → fine other := by
  constructor
  · rintro ⟨before, entry, after, rfl, fits, offence⟩
    refine ⟨entry, by simp, offence, fun other mem earlier => ?_⟩
    rcases List.mem_append.1 mem with mem | mem
    · exact fits other mem
    -- what stands at the entry or behind it does not come before it
    have later := (List.pairwise_cons.1 (List.pairwise_append.1 ordered).2.1).1
    rcases List.mem_cons.1 mem with rfl | mem
    · exact absurd earlier (Text.not_before_self _)
    · exact absurd (earlier.trans (later other mem)) (Text.not_before_self _)
  · rintro ⟨entry, mem, offence, fits⟩
    obtain ⟨before, after, rfl⟩ := List.append_of_mem mem
    refine ⟨before, entry, after, rfl, fun earlier inside => ?_, offence⟩
    exact fits earlier (List.mem_append_left _ inside)
      ((List.pairwise_append.1 ordered).2.2 earlier inside entry List.mem_cons_self)

end RecordMapper.Members
