import RecordMapper.Value.Json
import RecordMapper.Value.Literal

/-!
Variables of a request. Each name is bound once; binding it again replaces the value and
keeps its place. A request body starts with one `LET` line for each variable.
-/

namespace RecordMapper

/-- Names with their values, in the order in which the names came. -/
structure Bindings where
  entries : List (String × Value)
  names_nodup : (entries.map Prod.fst).Nodup

namespace Bindings

/-- No variables. -/
def empty : Bindings := ⟨[], List.nodup_nil⟩

instance : Inhabited Bindings := ⟨empty⟩

/-- The names in order. -/
def names (b : Bindings) : List String := b.entries.map Prod.fst

/-- The value of a name. -/
def get? (name : String) (b : Bindings) : Option Value := b.entries.lookup name

/-- How many names are bound. -/
def size (b : Bindings) : Nat := b.entries.length

/-- Nothing is bound. -/
def isEmpty (b : Bindings) : Bool := b.entries.isEmpty

/-- Binds a name in a list of entries: at its place if it is there, else at the end. -/
def set (name : String) (value : Value) : List (String × Value) → List (String × Value)
  | [] => [(name, value)]
  | (other, old) :: rest =>
    if other = name then (name, value) :: rest else (other, old) :: set name value rest

theorem map_fst_set (name : String) (value : Value) (entries : List (String × Value)) :
    (set name value entries).map Prod.fst =
      if name ∈ entries.map Prod.fst then entries.map Prod.fst
      else entries.map Prod.fst ++ [name] := by
  induction entries with
  | nil => simp [set]
  | cons entry rest ih =>
    obtain ⟨other, old⟩ := entry
    by_cases same : other = name
    · simp [set, same]
    · simp only [set, same, if_false, List.map_cons, ih, List.mem_cons, Ne.symm same, false_or]
      split <;> simp

/-- Binds a name. -/
def insert (name : String) (value : Value) (b : Bindings) : Bindings where
  entries := set name value b.entries
  names_nodup := by
    rw [map_fst_set]
    split
    · exact b.names_nodup
    · rename_i new
      exact List.nodup_append.2 ⟨b.names_nodup, by simp, by
        rintro old mem added h rfl
        exact new (List.mem_singleton.1 h ▸ mem)⟩

/-- The variables that a sequence of bindings leaves. -/
def ofList (entries : List (String × Value)) : Bindings :=
  entries.foldl (fun b entry => b.insert entry.1 entry.2) empty

/-- Binds every name of another list, in its order. -/
def extend (b other : Bindings) : Bindings :=
  other.entries.foldl (fun b entry => b.insert entry.1 entry.2) b

/-- The line that declares a variable: the name is checked before the value is written. -/
def line (entry : String × Value) : Result String := do
  let name ← Validation.key entry.1
  let text ← entry.2.literal
  return "LET $" ++ name ++ " = " ++ text ++ ";\n"

/-- The lines that declare all variables. -/
def preamble (b : Bindings) : Result String := do
  let lines ← b.entries.mapM line
  return String.join lines

/-- The JSON view of the variables, for the log. -/
def toJson (b : Bindings) : Json :=
  .ofMembers (b.entries.map fun entry => (entry.1, entry.2.toJson))

/-- A name that is bound keeps its place, and a new one comes last. -/
theorem names_insert (name : String) (value : Value) (b : Bindings) :
    (b.insert name value).names = if name ∈ b.names then b.names else b.names ++ [name] :=
  map_fst_set name value b.entries

end Bindings

end RecordMapper
