import RecordMapper.Proofs.Keyed
import RecordMapper.Proofs.Schema.Isolation

/-!
Folding a schema. What registrations declare for a model is read off them kind by kind
(`Registration.declarations`), and it is all that a filled registry folds into a schema
(`Registry.schema_filled`). Indexes are placed one after the other under the names that they
resolve to, so the laws of placing hold for them: the names of the folded indexes are those
declared, each once and where it was first declared, and each is held by the index that was
last declared with it.
-/

namespace RecordMapper

open Keyed (Last place placed)

namespace Schema

/-! ## Declarations of a model -/

namespace Descriptor

/-- The table that is declared, if it is one. -/
def entity? : Descriptor → Option Entity
  | .entity declared => some declared
  | _ => none

/-- The field that is declared, if it is one. -/
def field? : Descriptor → Option Field
  | .field declared => some declared
  | _ => none

/-- The index that is declared, if it is one. -/
def index? : Descriptor → Option Index
  | .index declared => some declared
  | _ => none

/-- The named expression that is declared, if it is one. -/
def projection? : Descriptor → Option Projection
  | .projection declared => some declared
  | _ => none

end Descriptor

/-- What registrations declare for a model, kind by kind and in their order. -/
def Registration.declarations (model : ModelKey) (registered : List Registration) :
    Declarations where
  entities := (own model .entity registered).filterMap Descriptor.entity?
  fields := (own model .field registered).filterMap Descriptor.field?
  indexes := (own model .index registered).filterMap Descriptor.index?
  projections := (own model .projection registered).filterMap Descriptor.projection?

namespace Registry

/-- A filled registry holds for a model what has been declared for it. -/
theorem declarations_filled (model : ModelKey) (steps : List Step) :
    (filled steps).declarations model =
      Registration.declarations model (registrations steps) := by
  have held (kind : DescriptorKind) : Registration.own model kind (registrations steps) =
      ((filled steps).declarations model).ofKind kind := (lookup_filled steps).symm
  rw [Registration.declarations, held, held, held, held]
  simp [Declarations.ofKind, List.filterMap_map, Function.comp_def, Descriptor.entity?,
    Descriptor.field?, Descriptor.index?, Descriptor.projection?]

theorem schema_filled (model : ModelKey) (steps : List Step) :
    (filled steps).schema model =
      ModelSchema.ofDeclarations model (Registration.declarations model (registrations steps)) := by
  rw [schema, declarations_filled]

end Registry

end Schema

namespace ModelSchema

open Schema

/-- A schema is folded from a first table, at least one field, and all else that is declared. -/
theorem ofDeclarations_eq_ok_iff {model : ModelKey} {declared : Declarations}
    {schema : ModelSchema} :
    ofDeclarations model declared = .ok schema ↔ ∃ entity others,
      declared.entities = entity :: others ∧ declared.fields ≠ [] ∧ schema = {
        model, entity
        fields := declared.fields
        indexes := foldIndexes entity.table declared.indexes
        projections := declared.projections } := by
  unfold ofDeclarations
  cases declared.entities with
  | nil => simp
  | cons entity others =>
    cases declared.fields with
    | nil => simp
    | cons field fields =>
      constructor
      · intro folded
        cases folded
        exact ⟨entity, others, rfl, List.cons_ne_nil _ _, rfl⟩
      · intro folded
        obtain ⟨first, rest, split, -, rfl⟩ := folded
        cases split
        rfl

/-- No schema is folded without a table, or without a field. -/
theorem ofDeclarations_eq_error_iff {model : ModelKey} {declared : Declarations} {cause : Error} :
    ofDeclarations model declared = .error cause ↔
      declared.entities = [] ∧ cause = .configuration (.missingEntity model.name) ∨
      declared.entities ≠ [] ∧ declared.fields = [] ∧
        cause = .configuration (.missingFields model.name) := by
  unfold ofDeclarations
  cases declared.entities with
  | nil => simp [eq_comm]
  | cons entity others => cases declared.fields <;> simp [eq_comm]

/-! ## Folding indexes -/

variable {table : String}

theorem foldIndex_eq_place (index : Index) (kept : List Index) :
    foldIndex table index kept = place (·.resolvedName table) index kept := by
  induction kept with
  | nil => rfl
  | cons other rest ih => rw [foldIndex, place, ih]

theorem foldIndexes_eq_placed (indexes : List Index) :
    foldIndexes table indexes = placed (·.resolvedName table) indexes := by
  simp only [foldIndexes, placed, foldIndex_eq_place]

/-- The names stand in the order in which they were first declared. -/
theorem names_foldIndexes (indexes : List Index) :
    (foldIndexes table indexes).map (·.resolvedName table) =
      (indexes.map (·.resolvedName table)).eraseDups := by
  rw [foldIndexes_eq_placed, Keyed.map_placed]

/-- Each name is held by the index last declared with it. -/
theorem mem_foldIndexes_iff {indexes : List Index} {index : Index} :
    index ∈ foldIndexes table indexes ↔ Last (·.resolvedName table) indexes index := by
  rw [foldIndexes_eq_placed, Keyed.mem_placed_iff]

theorem length_foldIndexes (indexes : List Index) :
    (foldIndexes table indexes).length =
      (indexes.map (·.resolvedName table)).toFinset.card := by
  rw [← length_eraseDups, ← names_foldIndexes, List.length_map]

end ModelSchema

end RecordMapper
