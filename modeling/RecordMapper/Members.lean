import RecordMapper.Text.Order

/-!
Members of objects: pairs of a name and a value, in ascending order of the names. A later
member replaces an earlier one of its name.
-/

namespace RecordMapper.Members

open Text (Before)

variable {β : Type}

/-- Sets the value of a name, at the place where the order wants it. -/
def insert (name : String) (value : β) : List (String × β) → List (String × β)
  | [] => [(name, value)]
  | (other, old) :: rest =>
    if Before name other then (name, value) :: (other, old) :: rest
    else if name = other then (name, value) :: rest
    else (other, old) :: insert name value rest

/-- The members that a sequence of settings leaves. -/
def ofList (entries : List (String × β)) : List (String × β) :=
  entries.foldl (fun members entry => insert entry.1 entry.2 members) []

/-- Members set above others, which are seen where those above are silent. -/
def overlay (above below : List (String × β)) : List (String × β) :=
  above.foldr (fun entry => insert entry.1 entry.2) below

/-- The value of a name. -/
def get? (name : String) (members : List (String × β)) : Option β :=
  members.lookup name

/-- All members but those of the given names. -/
def without (names : List String) (members : List (String × β)) : List (String × β) :=
  members.filter fun entry => !names.contains entry.1

/-- The names ascend strictly, so that no name occurs twice. -/
def Ordered (members : List (String × β)) : Prop :=
  members.Pairwise fun a b => Before a.1 b.1

@[simp] theorem ordered_nil : Ordered ([] : List (String × β)) := List.Pairwise.nil

/-- Members in order have no name twice. -/
theorem Ordered.nodup {members : List (String × β)} (ordered : Ordered members) :
    (members.map Prod.fst).Nodup := by
  refine List.pairwise_map.2 (ordered.imp fun {a b} before same => ?_)
  rw [same] at before
  exact Text.not_before_self _ before

/-- A value just set is found. -/
theorem get?_insert_self (name : String) (value : β) (members : List (String × β)) :
    get? name (insert name value members) = some value := by
  induction members with
  | nil => simp [insert, get?]
  | cons entry rest ih =>
    unfold insert
    split
    · simp [get?]
    · split
      · simp [get?]
      · rename_i different
        simp only [get?, List.lookup_cons] at ih ⊢
        simp [beq_eq_false_iff_ne.2 different, ih]

/-- Setting one name leaves the value of every other. -/
theorem get?_insert_of_ne {name other : String} (different : other ≠ name) (value : β)
    (members : List (String × β)) :
    get? other (insert name value members) = get? other members := by
  induction members with
  | nil => simp [insert, get?, List.lookup_cons, beq_eq_false_iff_ne.2 different]
  | cons entry rest ih =>
    obtain ⟨present, old⟩ := entry
    simp only [get?] at ih
    simp only [insert]
    split
    · simp [get?, List.lookup_cons, beq_eq_false_iff_ne.2 different]
    · split
      · rename_i same
        subst same
        simp [get?, List.lookup_cons, beq_eq_false_iff_ne.2 different]
      · simp [get?, List.lookup_cons, ih]

/-- What is found under a name is a member. -/
theorem mem_of_get?_eq_some {name : String} {value : β} {members : List (String × β)}
    (found : get? name members = some value) : (name, value) ∈ members := by
  obtain ⟨before, after, rfl, -⟩ := List.lookup_eq_some_iff.1 found
  simp

/-- Setting a name adds at most that member. -/
theorem mem_insert {name : String} {value : β} {entry : String × β} {members : List (String × β)}
    (mem : entry ∈ insert name value members) : entry = (name, value) ∨ entry ∈ members := by
  induction members with
  | nil => simpa [insert] using mem
  | cons first rest ih =>
    unfold insert at mem
    split at mem
    · simpa using mem
    · split at mem <;> simp only [List.mem_cons] at mem ⊢ <;> grind

/-- Setting a name keeps the order. -/
theorem ordered_insert {members : List (String × β)} (ordered : Ordered members)
    (name : String) (value : β) : Ordered (insert name value members) := by
  induction members with
  | nil => simp [insert, Ordered]
  | cons entry rest ih =>
    obtain ⟨first, tail⟩ := List.pairwise_cons.1 ordered
    unfold insert
    split
    · rename_i before
      refine List.pairwise_cons.2 ⟨fun later mem => ?_, ordered⟩
      rcases List.mem_cons.1 mem with rfl | mem
      · exact before
      · exact before.trans (first later mem)
    · split
      · rename_i same
        exact List.pairwise_cons.2 ⟨fun later mem => same ▸ first later mem, tail⟩
      · rename_i notBefore different
        refine List.pairwise_cons.2 ⟨fun later mem => ?_, ih tail⟩
        rcases mem_insert mem with rfl | old
        · exact Decidable.byContradiction fun notAfter =>
            different (Text.eq_of_not_before notBefore notAfter)
        · exact first later old

/-- Members built by settings are in order. -/
theorem ordered_ofList (entries : List (String × β)) : Ordered (ofList entries) := by
  suffices ∀ members : List (String × β), Ordered members →
      Ordered (entries.foldl (fun members entry => insert entry.1 entry.2 members) members) from
    this [] ordered_nil
  induction entries with
  | nil => exact fun _ ordered => ordered
  | cons entry rest ih => exact fun _ ordered => ih _ (ordered_insert ordered _ _)

end RecordMapper.Members
