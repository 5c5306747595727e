import RecordMapper.Members
import RecordMapper.Toml.Basic

/-!
Tables in the making. A table may be opened once by a header, or grow by dotted keys, but
not both, and nothing that has a value is defined again. A table that exists only because
something in it was named may still be opened.
-/

namespace RecordMapper.Toml

/-- What a name stands for while a document is read. -/
inductive Node where
  | value (v : Value)
  /-- A table: whether it is only implied by what it holds, and whether dotted keys made it. -/
  | table (implied dotted : Bool) (entries : List (String × Node))
  /-- The tables of an array, each opened by a header of its own. -/
  | tables (elements : List (List (String × Node)))

/-- A table in the making. -/
structure Table where
  implied : Bool := false
  dotted : Bool := false
  entries : List (String × Node) := []

namespace Table

/-- What a name of the table stands for. -/
def get? (t : Table) (name : String) : Option Node := Members.get? name t.entries

/-- Sets what a name stands for. -/
def set (t : Table) (name : String) (node : Node) : Table :=
  { t with entries := Members.insert name node t.entries }

/-- The table as a node. -/
def toNode (t : Table) : Node := .table t.implied t.dotted t.entries

/-- Changes the table at a path. Tables missing on the way come into being, implied; of an
array of tables the last one is meant. On the way of a dotted key only implied tables may
lie. -/
def alter (dotted : Bool) (change : Table → Option Table) : List String → Table → Option Table
  | [], t => change t
  | name :: path, t =>
    match t.get? name with
    | none => do
      let child ← alter dotted change path { implied := true, dotted }
      return t.set name child.toNode
    | some (.value _) => none
    | some (.table implied madeByDots entries) =>
      if dotted && !implied then none
      else do
        let child ← alter dotted change path ⟨implied, madeByDots, entries⟩
        return t.set name child.toNode
    | some (.tables elements) => do
      let last ← elements.getLast?
      let child ← alter dotted change path { entries := last }
      return t.set name (.tables (elements.dropLast ++ [child.entries]))

/-- Gives a name a value, where the name is reached by a dotted path. The table reached has
to be one of dotted keys exactly if the path has points, and the name has to be new. -/
def define (path : List String) (name : String) (value : Value) (t : Table) : Option Table :=
  alter true (fun t =>
    if t.dotted = path.isEmpty ∨ (t.get? name).isSome then none
    else some (t.set name (.value value))) path t

/-- Opens a table by a header. -/
def openTable (path : List String) (name : String) (t : Table) : Option Table :=
  alter false (fun t =>
    match t.get? name with
    | none => some (t.set name (.table false false []))
    | some (.table true false entries) => some (t.set name (.table false false entries))
    | _ => none) path t

/-- Opens the next table of an array by a header. -/
def openElement (path : List String) (name : String) (t : Table) : Option Table :=
  alter false (fun t =>
    match t.get? name with
    | none => some (t.set name (.tables [[]]))
    | some (.tables elements) => some (t.set name (.tables (elements ++ [[]])))
    | _ => none) path t

end Table

mutual

/-- The value that a node amounts to. -/
def Node.toValue : Node → Value
  | .value v => v
  | .table _ _ entries => .table (entriesToValue entries)
  | .tables elements => .array (elementsToValue elements)

/-- The values of the entries of a table. -/
def entriesToValue : List (String × Node) → List (String × Value)
  | [] => []
  | (name, node) :: rest => (name, node.toValue) :: entriesToValue rest

/-- The values of the tables of an array. -/
def elementsToValue : List (List (String × Node)) → List Value
  | [] => []
  | entries :: rest => .table (entriesToValue entries) :: elementsToValue rest

end

/-- The table that definitions leave, each a path, a name and a value. -/
def ofDefinitions? (definitions : List ((List String × String) × Value)) : Option Value := do
  let t ← definitions.foldlM (fun (t : Table) entry => t.define entry.1.1 entry.1.2 entry.2) {}
  return .table (entriesToValue t.entries)

end RecordMapper.Toml
