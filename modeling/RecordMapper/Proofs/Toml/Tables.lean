import RecordMapper.Toml.Document

/-!
Tables of a document. In no table of a document, at any depth, does a name occur twice: names
are set one at a time, each at its place in the order. A change at a path keeps every table in
order if the change at its end does (`Table.Ordered.alter`); a line is one such change
(`line?_ordered`), and a document is its lines (`parse?_ordered`). Inline tables are made of
definitions in the same way, inside the values that are read (`value?_ordered`).
-/

namespace RecordMapper.Toml

/-! ## Values -/

/-- Every table in the value has its names in order. -/
inductive Value.Ordered : Value → Prop
  | string (s : String) : Ordered (.string s)
  | integer (n : Int) : Ordered (.integer n)
  | float (x : Binary64) : Ordered (.float x)
  | boolean (b : Bool) : Ordered (.boolean b)
  | moment (text : String) : Ordered (.moment text)
  | array {items : List Value} : (∀ item ∈ items, item.Ordered) → Ordered (.array items)
  | table {entries : List (String × Value)} : Members.Ordered entries →
    (∀ entry ∈ entries, entry.2.Ordered) → Ordered (.table entries)

theorem integer?_ordered {n : Int} {v : Value} (read : integer? n = some v) : v.Ordered := by
  unfold integer? at read
  split at read
  · cases read
    exact .integer n
  · cases read

theorem float?_ordered {x : Binary64} {v : Value} (read : float? x = some v) : v.Ordered := by
  unfold float? at read
  split at read
  · cases read
  · cases read
    exact .float x

theorem decimal?_ordered {text rest : List Char} {v : Value}
    (read : decimal? text = some (v, rest)) : v.Ordered := by
  simp only [decimal?, Option.bind_eq_bind, Option.bind_eq_some_iff] at read
  obtain ⟨whole, -, fraction, -, exponent, -, read⟩ := read
  split at read
  · obtain ⟨w, given, same⟩ := Option.bind_eq_some_iff.1 read
    cases same
    exact integer?_ordered given
  · obtain ⟨w, given, same⟩ := Option.bind_eq_some_iff.1 read
    cases same
    exact float?_ordered given

theorem based?_ordered {base : Nat} {isDigit : Char → Bool} {text rest : List Char} {v : Value}
    (read : based? base isDigit text = some (v, rest)) : v.Ordered := by
  simp only [based?, Option.bind_eq_bind, Option.bind_eq_some_iff] at read
  obtain ⟨digits, -, values, -, w, given, same⟩ := read
  cases same
  exact integer?_ordered given

theorem number?_ordered {text rest : List Char} {v : Value}
    (read : number? text = some (v, rest)) : v.Ordered := by
  unfold number? at read
  split at read
  · exact based?_ordered read
  · exact based?_ordered read
  · exact based?_ordered read
  · split at read
    · cases read
      exact .float _
    · cases read
      exact .float _
    · exact decimal?_ordered read

theorem momentOrNumber?_ordered {text rest : List Char} {v : Value}
    (read : momentOrNumber? text = some (v, rest)) : v.Ordered := by
  unfold momentOrNumber? at read
  split at read
  · cases read
    exact .moment _
  · exact number?_ordered read

/-! ## Tables in the making -/

/-- Every table in the node has its names in order. -/
inductive Node.Ordered : Node → Prop
  | value {v : Value} : v.Ordered → Ordered (.value v)
  | table {implied dotted : Bool} {entries : List (String × Node)} : Members.Ordered entries →
    (∀ entry ∈ entries, entry.2.Ordered) → Ordered (.table implied dotted entries)
  | tables {elements : List (List (String × Node))} :
    (∀ entries ∈ elements, Members.Ordered entries) →
    (∀ entries ∈ elements, ∀ entry ∈ entries, entry.2.Ordered) → Ordered (.tables elements)

/-- The table and every table in it have their names in order. -/
structure Table.Ordered (t : Table) : Prop where
  names : Members.Ordered t.entries
  nodes : ∀ entry ∈ t.entries, entry.2.Ordered

namespace Table.Ordered

variable {t u : Table} {name : String}

theorem empty (implied dotted : Bool) : Table.Ordered { implied, dotted } :=
  ⟨Members.ordered_nil, fun _ mem => nomatch mem⟩

theorem toNode (ordered : t.Ordered) : t.toNode.Ordered := .table ordered.names ordered.nodes

theorem get? (ordered : t.Ordered) {node : Node} (found : t.get? name = some node) :
    node.Ordered :=
  ordered.nodes (name, node) (Members.mem_of_get?_eq_some found)

theorem set (ordered : t.Ordered) {node : Node} (fine : node.Ordered) :
    (t.set name node).Ordered where
  names := Members.ordered_insert ordered.names name node
  nodes entry mem := by
    obtain rfl | old := Members.mem_insert mem
    · exact fine
    · exact ordered.nodes entry old

/-- A change at the end of a path that keeps the order keeps the order of the whole. -/
theorem alter {dotted : Bool} {change : Table → Option Table}
    (keeps : ∀ {t u : Table}, t.Ordered → change t = some u → u.Ordered) {path : List String}
    (ordered : t.Ordered) (altered : t.alter dotted change path = some u) : u.Ordered := by
  -- along the path: the child is changed in the same way, and then set under its name
  induction path generalizing t u with
  | nil => exact keeps ordered altered
  | cons name path ih =>
    unfold Table.alter at altered
    split at altered
    case h_1 =>
      obtain ⟨child, inner, same⟩ := Option.bind_eq_some_iff.1 altered
      cases same
      exact ordered.set (ih (empty _ _) inner).toNode
    case h_2 => cases altered
    case h_3 implied madeByDots entries found =>
      split at altered
      · cases altered
      · obtain ⟨child, inner, same⟩ := Option.bind_eq_some_iff.1 altered
        cases same
        cases ordered.get? found with
        | table names nodes => exact ordered.set (ih ⟨names, nodes⟩ inner).toNode
    case h_4 elements found =>
      simp only [Option.bind_eq_bind, Option.bind_eq_some_iff] at altered
      obtain ⟨last, ends, child, inner, same⟩ := altered
      cases same
      cases ordered.get? found with
      | tables names nodes =>
        -- only the last of the tables has changed
        have listed := List.mem_of_getLast? ends
        have fine := ih ⟨names last listed, nodes last listed⟩ inner
        refine ordered.set (.tables (fun entries mem => ?_) fun entries mem => ?_)
        · obtain kept | rfl := List.mem_append.1 mem |>.imp_right List.mem_singleton.1
          · exact names entries (List.dropLast_subset _ kept)
          · exact fine.names
        · obtain kept | rfl := List.mem_append.1 mem |>.imp_right List.mem_singleton.1
          · exact nodes entries (List.dropLast_subset _ kept)
          · exact fine.nodes

theorem define {path : List String} {v : Value} (fine : v.Ordered) (ordered : t.Ordered)
    (defined : t.define path name v = some u) : u.Ordered := by
  refine ordered.alter (fun {t u} ordered changed => ?_) defined
  split at changed
  · cases changed
  · cases changed
    exact ordered.set (.value fine)

theorem openTable {path : List String} (ordered : t.Ordered)
    (opened : t.openTable path name = some u) : u.Ordered := by
  refine ordered.alter (fun {t u} ordered changed => ?_) opened
  split at changed
  case h_1 =>
    cases changed
    exact ordered.set (empty false false).toNode
  case h_2 entries found =>
    cases changed
    cases ordered.get? found with
    | table names nodes => exact ordered.set (.table names nodes)
  case h_3 => cases changed

theorem openElement {path : List String} (ordered : t.Ordered)
    (opened : t.openElement path name = some u) : u.Ordered := by
  refine ordered.alter (fun {t u} ordered changed => ?_) opened
  split at changed
  case h_1 =>
    cases changed
    exact ordered.set (.tables (by simp) (by simp))
  case h_2 elements found =>
    cases changed
    cases ordered.get? found with
    | tables names nodes =>
      refine ordered.set (.tables (List.forall_mem_append.2 ⟨names, by simp⟩)
        (List.forall_mem_append.2 ⟨nodes, by simp⟩))
  case h_3 => cases changed

end Table.Ordered

/-! ## Tables that are done -/

theorem entriesToValue_eq_map (entries : List (String × Node)) :
    entriesToValue entries = entries.map fun entry => (entry.1, entry.2.toValue) := by
  induction entries with
  | nil => rfl
  | cons entry rest ih => rw [entriesToValue, ih, List.map_cons]

theorem elementsToValue_eq_map (elements : List (List (String × Node))) :
    elementsToValue elements = elements.map fun entries => .table (entriesToValue entries) := by
  induction elements with
  | nil => rfl
  | cons entries rest ih => rw [elementsToValue, ih, List.map_cons]

theorem ordered_entriesToValue {entries : List (String × Node)}
    (names : Members.Ordered entries) : Members.Ordered (entriesToValue entries) := by
  rw [entriesToValue_eq_map]
  exact List.pairwise_map.2 names

theorem forall_mem_entriesToValue {entries : List (String × Node)}
    (nodes : ∀ entry ∈ entries, entry.2.toValue.Ordered) :
    ∀ entry ∈ entriesToValue entries, entry.2.Ordered := by
  rw [entriesToValue_eq_map]
  exact List.forall_mem_map.2 nodes

theorem Node.Ordered.toValue {node : Node} (ordered : node.Ordered) : node.toValue.Ordered := by
  induction ordered with
  | value fine => exact fine
  | table names _ ih =>
    exact .table (ordered_entriesToValue names) (forall_mem_entriesToValue ih)
  | tables names _ ih =>
    refine .array ?_
    rw [elementsToValue_eq_map]
    refine List.forall_mem_map.2 fun entries mem => ?_
    exact .table (ordered_entriesToValue (names entries mem))
      (forall_mem_entriesToValue (ih entries mem))

theorem Table.Ordered.toValue {t : Table} (ordered : t.Ordered) :
    (Value.table (entriesToValue t.entries)).Ordered :=
  ordered.toNode.toValue

theorem foldlM_define_ordered {definitions : List ((List String × String) × Value)}
    (fine : ∀ entry ∈ definitions, entry.2.Ordered) {t u : Table} (ordered : t.Ordered)
    (defined : definitions.foldlM (fun t entry => t.define entry.1.1 entry.1.2 entry.2) t =
      some u) : u.Ordered := by
  induction definitions generalizing t with
  | nil =>
    cases defined
    exact ordered
  | cons entry rest ih =>
    obtain ⟨first, others⟩ := List.forall_mem_cons.1 fine
    rw [List.foldlM_cons] at defined
    obtain ⟨next, once, more⟩ := Option.bind_eq_some_iff.1 defined
    exact ih others (ordered.define first once) more

theorem ofDefinitions?_ordered {definitions : List ((List String × String) × Value)}
    (fine : ∀ entry ∈ definitions, entry.2.Ordered) {v : Value}
    (made : ofDefinitions? definitions = some v) : v.Ordered := by
  obtain ⟨t, defined, same⟩ := Option.bind_eq_some_iff.1 made
  cases same
  exact (foldlM_define_ordered fine (.empty false false) defined).toValue

/-! ## Reading -/

/-- What is read with some fuel is in order: values, items of arrays, and the values of
definitions in inline tables. -/
structure ReadsOrdered (fuel : Nat) : Prop where
  value {depth : Nat} {text rest : List Char} {v : Value} :
    value? fuel depth text = some (v, rest) → v.Ordered
  items {depth : Nat} {text rest : List Char} {items : List Value} :
    items? fuel depth text = some (items, rest) → ∀ item ∈ items, item.Ordered
  definitions {depth : Nat} {text rest : List Char}
    {definitions : List ((List String × String) × Value)} :
    definitions? fuel depth text = some (definitions, rest) →
      ∀ entry ∈ definitions, entry.2.Ordered

theorem ReadsOrdered.value_succ {fuel : Nat} (reads : ReadsOrdered fuel) {depth : Nat}
    {text rest : List Char} {v : Value} (read : value? (fuel + 1) depth text = some (v, rest)) :
    v.Ordered := by
  unfold value? at read
  split at read
  · split at read
    · split at read
      · cases read
        exact .array (by simp)
      · obtain ⟨⟨items, _⟩, given, same⟩ := Option.map_eq_some_iff.1 read
        cases same
        exact .array (reads.items given)
    · cases read
  · split at read
    · split at read
      · cases read
        exact .table Members.ordered_nil (by simp)
      · simp only [Option.bind_eq_bind, Option.bind_eq_some_iff] at read
        obtain ⟨⟨definitions, _⟩, given, table, made, same⟩ := read
        cases same
        exact ofDefinitions?_ordered (reads.definitions given) made
    · cases read
  · cases read
    exact .boolean true
  · cases read
    exact .boolean false
  · obtain ⟨_, -, same⟩ := Option.map_eq_some_iff.1 read
    cases same
    exact .string _
  · obtain ⟨_, -, same⟩ := Option.map_eq_some_iff.1 read
    cases same
    exact .string _
  · exact momentOrNumber?_ordered read

theorem ReadsOrdered.items_succ {fuel : Nat} (reads : ReadsOrdered fuel) {depth : Nat}
    {text rest : List Char} {items : List Value}
    (read : items? (fuel + 1) depth text = some (items, rest)) :
    ∀ item ∈ items, item.Ordered := by
  unfold items? at read
  obtain ⟨⟨first, _⟩, given, read⟩ := Option.bind_eq_some_iff.1 read
  have fine := reads.value given
  dsimp only at read
  split at read
  · cases read
    exact List.forall_mem_singleton.2 fine
  · split at read
    · cases read
      exact List.forall_mem_singleton.2 fine
    · obtain ⟨⟨others, _⟩, more, same⟩ := Option.map_eq_some_iff.1 read
      cases same
      exact List.forall_mem_cons.2 ⟨fine, reads.items more⟩
  · cases read

theorem ReadsOrdered.definitions_succ {fuel : Nat} (reads : ReadsOrdered fuel) {depth : Nat}
    {text rest : List Char} {definitions : List ((List String × String) × Value)}
    (read : definitions? (fuel + 1) depth text = some (definitions, rest)) :
    ∀ entry ∈ definitions, entry.2.Ordered := by
  unfold definitions? at read
  obtain ⟨⟨key, _⟩, -, read⟩ := Option.bind_eq_some_iff.1 read
  dsimp only at read
  split at read
  · obtain ⟨⟨first, _⟩, given, read⟩ := Option.bind_eq_some_iff.1 read
    have fine := reads.value given
    split at read
    · cases read
      exact List.forall_mem_singleton.2 fine
    · obtain ⟨⟨others, _⟩, more, same⟩ := Option.map_eq_some_iff.1 read
      cases same
      exact List.forall_mem_cons.2 ⟨fine, reads.definitions more⟩
    · cases read
  · cases read

theorem reads_ordered (fuel : Nat) : ReadsOrdered fuel := by
  -- the three readers call each other, always with less fuel
  induction fuel with
  | zero =>
    constructor <;> intro _ _ _ _ read
    · simp [value?] at read
    · simp [items?] at read
    · simp [definitions?] at read
  | succ fuel ih => exact ⟨ih.value_succ, ih.items_succ, ih.definitions_succ⟩

theorem value?_ordered {fuel depth : Nat} {text rest : List Char} {v : Value}
    (read : value? fuel depth text = some (v, rest)) : v.Ordered :=
  (reads_ordered fuel).value read

/-- A line keeps all tables in order. -/
theorem line?_ordered {progress next : Progress} {text rest : List Char}
    (ordered : progress.root.Ordered) (read : line? progress text = some (next, rest)) :
    next.root.Ordered := by
  unfold line? at read
  split at read
  · simp only [Option.bind_eq_bind, Option.bind_eq_some_iff] at read
    obtain ⟨_, -, root, opened, same⟩ := read
    cases same
    exact ordered.openElement opened
  · simp only [Option.bind_eq_bind, Option.bind_eq_some_iff] at read
    obtain ⟨_, -, root, opened, same⟩ := read
    cases same
    exact ordered.openTable opened
  · obtain ⟨key, -, read⟩ := Option.bind_eq_some_iff.1 read
    dsimp only at read
    split at read
    · simp only [Option.bind_eq_bind, Option.bind_eq_some_iff] at read
      obtain ⟨⟨v, _⟩, given, _, -, root, altered, same⟩ := read
      cases same
      exact ordered.alter (fun ordered defined => ordered.define (value?_ordered given) defined)
        altered
    · cases read

/-- All lines together keep all tables in order. -/
theorem lines?_ordered {fuel : Nat} {progress : Progress} {text : List Char} {t : Table}
    (ordered : progress.root.Ordered) (read : lines? fuel progress text = some t) :
    t.Ordered := by
  induction fuel generalizing progress text with
  | zero =>
    unfold lines? at read
    split at read
    · cases read
      exact ordered
    · cases read
  | succ fuel ih =>
    unfold lines? at read
    split at read
    · cases read
      exact ordered
    · obtain ⟨_, -, more⟩ := Option.bind_eq_some_iff.1 read
      exact ih ordered more
    · split at read
      · exact ih ordered read
      · obtain ⟨⟨next, _⟩, line, more⟩ := Option.bind_eq_some_iff.1 read
        exact ih (line?_ordered ordered line) more

/-- In no table of a document, at any depth, does a name occur twice. -/
theorem parse?_ordered {text : String} {entries : List (String × Value)}
    (read : parse? text = some entries) : (Value.table entries).Ordered := by
  obtain ⟨root, lines, same⟩ := Option.bind_eq_some_iff.1 read
  cases same
  exact (lines?_ordered (.empty false false) lines).toValue

end RecordMapper.Toml
