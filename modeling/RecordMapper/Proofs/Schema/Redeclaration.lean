import Mathlib.Logic.Function.Iterate
import RecordMapper.Proofs.Schema.Definition

/-!
Declaring a model again. A registry keeps every declaration, so what a model declares stands in
it once for each time (`Registry.declarations_iterate_declare`). Of entities and of named
expressions the first counts, and it is the same however often it is followed by itself
(`find?_repeated`); of indexes the last of a name counts, at the place of the first, and neither
moves (`Keyed.placed_repeated`). So all that a second declaration adds to a schema are fields, and
these do not show in queries or in failures (`Registry.redeclared_alike`).
-/

namespace RecordMapper

/-! ## Repeated blocks -/

/-- A list and behind it a block, so many times. -/
def repeated {α : Type} (n : Nat) (before block : List α) : List α :=
  before ++ (List.replicate n block).flatten

section

variable {α κ : Type} {n : Nat}

theorem repeated_one (before block : List α) : repeated 1 before block = before ++ block := by
  simp [repeated]

theorem repeated_succ (n : Nat) (before block : List α) :
    repeated (n + 1) before block = repeated n before block ++ block := by
  simp [repeated, List.replicate_succ']

/-- What is found first is found in the list or in the first of the blocks. -/
theorem find?_repeated (some : 0 < n) (p : α → Bool) (before block : List α) :
    (repeated n before block).find? p = (before ++ block).find? p := by
  rw [repeated, List.find?_append, List.find?_append, List.find?_flatten,
    List.findSome?_replicate_of_pos some]

theorem head?_repeated (some : 0 < n) (before block : List α) :
    (repeated n before block).head? = (before ++ block).head? := by
  rw [repeated, List.head?_append, List.head?_append, List.head?_flatten,
    List.findSome?_replicate_of_pos some]

namespace Keyed

variable [DecidableEq κ] {key : α → κ}

/-- What is left is told by its keys and by the last item of each. -/
theorem placed_eq_placed {items others : List α}
    (keys : (items.map key).eraseDups = (others.map key).eraseDups)
    (lasts : ∀ item, Last key items item ↔ Last key others item) :
    placed key items = placed key others := by
  have sameKeys : (placed key items).map key = (placed key others).map key := by
    rw [map_placed, map_placed, keys]
  refine List.ext_getElem (by simpa using congrArg List.length sameKeys) fun i inItems inOthers => ?_
  have moved : (placed key items)[i] ∈ placed key others := by
    rw [mem_placed_iff, ← lasts, ← mem_placed_iff]
    exact List.getElem_mem inItems
  have keyed : key (placed key items)[i] = key (placed key others)[i] := by
    have at_i := congrArg (·[i]?) sameKeys
    simpa [inItems, inOthers] using at_i
  exact List.inj_on_of_nodup_map (nodup_map_placed others) moved (List.getElem_mem inOthers) keyed

/-- Placing a block again changes nothing: its keys have their places, and the last item of each
comes last again. -/
theorem placed_append_self (before block : List α) :
    placed key (before ++ block ++ block) = placed key (before ++ block) := by
  refine placed_eq_placed ?_ fun item => ?_
  · have old : (block.map key).removeAll ((before ++ block).map key) = [] := by
      refine List.filter_eq_nil_iff.2 fun own mem => ?_
      rw [List.map_append, List.elem_eq_mem, decide_eq_true (List.mem_append_right _ mem)]
      exact Bool.false_ne_true
    rw [List.map_append, List.eraseDups_append, old, List.eraseDups_nil, List.append_nil]
  · simp only [last_append]
    constructor
    · rintro (last | ⟨last, -⟩)
      · exact .inl last
      · exact last
    · rintro (last | last)
      · exact .inl last
      · exact .inr ⟨.inr last, last.2⟩

theorem placed_repeated (some : 0 < n) (before block : List α) :
    placed key (repeated n before block) = placed key (before ++ block) := by
  induction n, some using Nat.le_induction with
  | base => rw [repeated_one]
  | succ n some ih =>
    obtain ⟨m, rfl⟩ := Nat.exists_eq_succ_of_ne_zero (Nat.ne_of_gt some)
    rw [← ih, repeated_succ, repeated_succ, placed_append_self]

end Keyed

end

/-! ## Queries of like schemas -/

namespace Request

variable {schema other : ModelSchema}

theorem selection_congr (named : ∀ name, schema.projection? name = other.projection? name)
    (select : Option (List (String × Selection))) :
    selection schema select = selection other select := by
  have each : selected schema = selected other := by
    funext entry
    unfold selected
    simp only [named]
  rw [selection, selection, each]

/-- A query shows of its schema only the table and the named expressions. -/
theorem Operation.query_congr (table : schema.table = other.table)
    (named : ∀ name, schema.projection? name = other.projection? name) (operation : Operation) :
    operation.query schema = operation.query other := by
  have found (request : FindMany) : request.query schema = request.query other := by
    rw [FindMany.query, FindMany.query, selection_congr named, table]
  cases operation with
  | create request =>
    show request.query schema = request.query other
    rw [Create.query, Create.query, Create.target, Create.target, table]
  | findMany request => exact found request
  | findById id request =>
    show request.query schema id = request.query other id
    rw [FindById.query, FindById.query, table]
    simp only [found]
  | update request =>
    show request.query schema = request.query other
    rw [Update.query, Update.query, table]
  | assign request =>
    show request.query schema = request.query other
    rw [Assign.query, Assign.query, table]
  | delete request =>
    show request.query schema = request.query other
    rw [Delete.query, Delete.query, table]
  | relate source edge target data => rfl

end Request

namespace Schema

/-! ## Declaring again -/

/-- The declarations of a list, kind by kind. -/
def Declarations.ofList (descriptors : List Descriptor) : Declarations where
  entities := descriptors.filterMap Descriptor.entity?
  fields := descriptors.filterMap Descriptor.field?
  indexes := descriptors.filterMap Descriptor.index?
  projections := descriptors.filterMap Descriptor.projection?

/-- Declarations and behind them others, so many times, kind by kind. -/
def Declarations.repeated (n : Nat) (earlier own : Declarations) : Declarations where
  entities := RecordMapper.repeated n earlier.entities own.entities
  fields := RecordMapper.repeated n earlier.fields own.fields
  indexes := RecordMapper.repeated n earlier.indexes own.indexes
  projections := RecordMapper.repeated n earlier.projections own.projections

namespace Registry

variable (registry : Registry) (model : ModelKey)

theorem declarations_declare (descriptors : List Descriptor) :
    (registry.declare model descriptors).declarations model =
      (registry.declarations model).repeated 1 (.ofList descriptors) := by
  induction descriptors generalizing registry with
  | nil => simp [declare, Declarations.repeated, Declarations.ofList, repeated_one]
  | cons descriptor rest ih =>
    have first : registry.declare model (descriptor :: rest) =
        (registry.register model descriptor).declare model rest := rfl
    rw [first, ih, declarations_register, if_pos rfl]
    cases descriptor <;>
      simp [Declarations.repeated, Declarations.ofList, repeated_one, Declarations.add,
        List.filterMap_cons, Descriptor.entity?, Descriptor.field?, Descriptor.index?,
        Descriptor.projection?]

/-- Each time that a model is declared its declarations are put behind those that stand there. -/
theorem declarations_iterate_declare (descriptors : List Descriptor) (n : Nat) :
    ((fun r : Registry => r.declare model descriptors)^[n] registry).declarations model =
      (registry.declarations model).repeated n (.ofList descriptors) := by
  induction n with
  | zero => simp [Declarations.repeated, RecordMapper.repeated]
  | succ n ih =>
    rw [Function.iterate_succ_apply', declarations_declare, ih]
    simp only [Declarations.repeated, repeated_one, repeated_succ n]

end Registry

end Schema

namespace ModelSchema

open Schema

variable {model : ModelKey} {earlier own : Declarations} {n : Nat}

/-- A text of definitions fails at the first field that is found without a type. -/
theorem definitionText_eq_error_iff_find? {schema : ModelSchema} {cause : Error} :
    schema.definitionText = .error cause ↔ ∃ field,
      schema.fields.find? (·.resolvedType?.isNone) = some field ∧
      cause = .configuration (.unresolvedFieldType schema.table field.name) := by
  have untyped (field : Field) : field.resolvedType?.isNone ↔ ¬field.HasType := by
    rw [Option.isNone_iff_eq_none, Field.resolvedType?_eq_none_iff]
  simp only [definitionText_eq_error_iff, List.find?_eq_some_iff_append, untyped,
    Bool.not_eq_true', Bool.eq_false_iff, ne_eq, not_not]
  constructor
  · rintro ⟨before, field, after, split, typed, lacks, rfl⟩
    exact ⟨field, ⟨lacks, before, after, split, typed⟩, rfl⟩
  · rintro ⟨field, ⟨lacks, before, after, split, typed⟩, rfl⟩
    exact ⟨before, field, after, split, typed, lacks, rfl⟩

/-- However often a table and a field are declared, a schema is folded, and only its lists of
fields and of named expressions grow. -/
theorem ofDeclarations_repeated (model : ModelKey) (earlier : Declarations)
    (table : own.entities ≠ []) (field : own.fields ≠ []) : ∃ entity, ∀ n, 0 < n →
      ofDeclarations model (earlier.repeated n own) = .ok {
        model, entity
        fields := repeated n earlier.fields own.fields
        indexes := foldIndexes entity.table (earlier.indexes ++ own.indexes)
        projections := repeated n earlier.projections own.projections } := by
  have declared : earlier.entities ++ own.entities ≠ [] := List.append_ne_nil_of_right_ne_nil _ table
  obtain ⟨entity, others, first⟩ := List.exists_cons_of_ne_nil declared
  refine ⟨entity, fun n some => ofDeclarations_eq_ok_iff.2 ?_⟩
  have head := head?_repeated some earlier.entities own.entities
  rw [first, List.head?_cons, List.head?_eq_some_iff] at head
  obtain ⟨later, head⟩ := head
  have filled : repeated n earlier.fields own.fields ≠ [] := by
    intro empty
    have none := find?_repeated some (fun _ => true) earlier.fields own.fields
    rw [empty, List.find?_nil, eq_comm, List.find?_eq_none] at none
    obtain ⟨declared, mem⟩ := List.exists_mem_of_ne_nil _ field
    exact none declared (List.mem_append_right _ mem) rfl
  refine ⟨entity, later, head, filled, ?_⟩
  simp only [Declarations.repeated, foldIndexes_eq_placed, Keyed.placed_repeated some]

end ModelSchema

namespace Schema

/-- However often a model is declared, its schema has the table, the indexes and the named
expressions that it has when the model is declared once. Only its fields are there again each time,
and neither the queries of requests nor the failure of a text of definitions tell of that. -/
theorem Registry.redeclared_alike (registry : Registry) (model : ModelKey)
    {descriptors : List Descriptor} (table : ∃ entity, Descriptor.entity entity ∈ descriptors)
    (field : ∃ field, Descriptor.field field ∈ descriptors) {n : Nat} (some : 0 < n) :
    let declare := fun r : Registry => r.declare model descriptors
    let earlier := (registry.declarations model).fields
    let own := descriptors.filterMap Descriptor.field?
    ∃ once again, (declare registry).schema model = .ok once ∧
      (declare^[n] registry).schema model = .ok again ∧
      again.model = once.model ∧ again.entity = once.entity ∧ again.indexes = once.indexes ∧
      (∀ name, again.projection? name = once.projection? name) ∧
      once.fields = earlier ++ own ∧ again.fields = earlier ++ (List.replicate n own).flatten ∧
      (earlier = [] → again.fields = (List.replicate n once.fields).flatten) ∧
      (∀ operation : Request.Operation, operation.query again = operation.query once) ∧
      ∀ cause, again.definitionText = .error cause ↔ once.definitionText = .error cause := by
  intro declare earlier own
  obtain ⟨entity, declaresTable⟩ := table
  obtain ⟨firstField, declaresField⟩ := field
  have tables : (Declarations.ofList descriptors).entities ≠ [] :=
    List.ne_nil_of_mem (List.mem_filterMap.2 ⟨_, declaresTable, rfl⟩)
  have fields : (Declarations.ofList descriptors).fields ≠ [] :=
    List.ne_nil_of_mem (List.mem_filterMap.2 ⟨_, declaresField, rfl⟩)
  obtain ⟨entity, folds⟩ :=
    ModelSchema.ofDeclarations_repeated model (registry.declarations model) tables fields
  simp only [← declarations_iterate_declare] at folds
  have named (name : String) := find?_repeated some (fun p : Projection => p.name = name)
    (registry.declarations model).projections (Declarations.ofList descriptors).projections
  have once := folds 1 Nat.one_pos
  simp only [repeated_one] at once
  refine ⟨_, _, once, folds n some, rfl, rfl, rfl, named, rfl, rfl, ?_, ?_, ?_⟩
  · intro none
    simp [repeated, none, earlier]
  · exact Request.Operation.query_congr rfl named
  · intro cause
    rw [ModelSchema.definitionText_eq_error_iff_find?, ModelSchema.definitionText_eq_error_iff_find?,
      find?_repeated some]
    rfl

/-- Names collide within the declarations that are made three times: of the tables and of the
expressions the first stays, and of the indexes the second, which is the unique one. -/
theorem Registry.redeclared_alike_fruit :
    let byName : Index := { fields := ["name"] }
    let descriptors : List Descriptor := [
      .entity { table := "fruit" }, .entity { table := "fruits" },
      .field { name := "name", type := some .string }, .field { name := "color" },
      .index byName, .index { fields := ["color"] }, .index { byName with unique := true },
      .projection ⟨"size", ⟨"count()"⟩⟩, .projection ⟨"size", ⟨"math::sum(weight)"⟩⟩]
    let thrice := (fun r : Registry => r.declare ⟨0, "Fruit"⟩ descriptors)^[3] {}
    ∃ schema, thrice.schema ⟨0, "Fruit"⟩ = .ok schema ∧ schema.table = "fruit" ∧
      schema.indexes = [{ byName with unique := true }, { fields := ["color"] }] ∧
      schema.projection? "size" = some ⟨"size", ⟨"count()"⟩⟩ ∧ schema.fields.length = 6 ∧
      schema.definitionText =
        .error (.configuration (.unresolvedFieldType "fruit" "color")) := by
  intro byName descriptors thrice
  obtain ⟨once, again, declared, redeclared, -, entity, indexes, named, -, fields, -, -, failure⟩ :=
    @redeclared_alike {} ⟨0, "Fruit"⟩ descriptors ⟨_, List.mem_cons_self⟩
      ⟨{ name := "color" }, by decide⟩ 3 (by decide)
  cases declared
  refine ⟨again, redeclared, ?_, indexes, named "size", ?_, (failure _).2 rfl⟩
  · rw [ModelSchema.table, entity]
  · rw [fields]
    rfl

end Schema

end RecordMapper
