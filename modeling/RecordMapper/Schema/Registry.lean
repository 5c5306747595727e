import RecordMapper.Error
import RecordMapper.Schema.Descriptor

/-!
The registry of declarations, and the schemas folded from it. Declarations are only ever
added, each model has its own, and those of one kind keep their order. Of the entities of a
model the first counts; indexes of one name are one index, the last declared, at the place
of the first.
-/

namespace RecordMapper

/-- What a model is known by. Models of one name are told apart by their identity. -/
structure ModelKey where
  identity : Nat
  name : String
deriving DecidableEq

namespace Schema

/-- The declarations of one model, kind by kind. -/
structure Declarations where
  entities : List Entity := []
  fields : List Field := []
  indexes : List Index := []
  projections : List Projection := []
deriving DecidableEq

/-- The declarations with one more. -/
def Declarations.add (d : Declarations) : Descriptor → Declarations
  | .entity entity => { d with entities := d.entities ++ [entity] }
  | .field field => { d with fields := d.fields ++ [field] }
  | .index index => { d with indexes := d.indexes ++ [index] }
  | .projection projection => { d with projections := d.projections ++ [projection] }

/-- The declarations of one kind, in order. -/
def Declarations.ofKind (d : Declarations) : DescriptorKind → List Descriptor
  | .entity => d.entities.map .entity
  | .field => d.fields.map .field
  | .index => d.indexes.map .index
  | .projection => d.projections.map .projection

/-- All that has been declared, model by model. -/
structure Registry where
  models : List (ModelKey × Declarations) := []

namespace Registry

/-- The declarations of a model. -/
def declarations (registry : Registry) (model : ModelKey) : Declarations :=
  (registry.models.lookup model).getD {}

/-- Replaces the declarations of a model in a list of models. -/
def setModel (model : ModelKey) (declared : Declarations) :
    List (ModelKey × Declarations) → List (ModelKey × Declarations)
  | [] => [(model, declared)]
  | (other, old) :: rest =>
    if other = model then (model, declared) :: rest
    else (other, old) :: setModel model declared rest

/-- Adds one declaration of a model. -/
def register (registry : Registry) (model : ModelKey) (descriptor : Descriptor) : Registry :=
  ⟨setModel model ((registry.declarations model).add descriptor) registry.models⟩

/-- Adds the declarations of a model, one after the other. -/
def declare (registry : Registry) (model : ModelKey) (descriptors : List Descriptor) : Registry :=
  descriptors.foldl (fun registry descriptor => registry.register model descriptor) registry

/-- The declarations of one kind of a model, in the order of their registration. -/
def lookup (registry : Registry) (kind : DescriptorKind) (model : ModelKey) : List Descriptor :=
  (registry.declarations model).ofKind kind

theorem lookup_setModel (model other : ModelKey) (declared : Declarations)
    (models : List (ModelKey × Declarations)) :
    (setModel model declared models).lookup other =
      if other = model then some declared else models.lookup other := by
  induction models with
  | nil =>
    by_cases same : other = model
    · simp [setModel, same]
    · simp [setModel, List.lookup_cons, same, beq_eq_false_iff_ne.2 same]
  | cons entry rest ih =>
    obtain ⟨present, old⟩ := entry
    by_cases here : present = model
    · subst here
      by_cases same : other = present
      · simp [setModel, same]
      · simp [setModel, List.lookup_cons, same, beq_eq_false_iff_ne.2 same]
    · by_cases found : other = present
      · simp [setModel, here, found]
      · simp [setModel, List.lookup_cons, here, beq_eq_false_iff_ne.2 found, ih]

/-- Registering adds to the declarations of one model and leaves all others. -/
theorem declarations_register (registry : Registry) (model other : ModelKey)
    (descriptor : Descriptor) :
    (registry.register model descriptor).declarations other =
      if other = model then (registry.declarations model).add descriptor
      else registry.declarations other := by
  simp only [declarations, register, lookup_setModel]
  split <;> simp

end Registry

end Schema

/-- What is known about the table of a model. -/
structure ModelSchema where
  model : ModelKey
  entity : Schema.Entity
  fields : List Schema.Field
  indexes : List Schema.Index
  projections : List Schema.Projection
deriving DecidableEq

namespace ModelSchema

open Schema

/-- The table of the model. -/
def table (schema : ModelSchema) : String := schema.entity.table

/-- The expression that has a name; of several the first declared counts. -/
def projection? (schema : ModelSchema) (name : String) : Option Projection :=
  schema.projections.find? fun projection => projection.name = name

/-- Puts an index among others: in the place of the one that has its name, or at the end. -/
def foldIndex (table : String) (index : Index) : List Index → List Index
  | [] => [index]
  | other :: rest =>
    if other.resolvedName table = index.resolvedName table then index :: rest
    else other :: foldIndex table index rest

/-- The indexes that remain of a list of declarations. -/
def foldIndexes (table : String) (indexes : List Index) : List Index :=
  indexes.foldl (fun kept index => foldIndex table index kept) []

/-- The schema of a model with the given declarations; it needs a table and a field. -/
def ofDeclarations (model : ModelKey) (declared : Declarations) : Result ModelSchema :=
  match declared.entities with
  | [] => .error (.configuration (.missingEntity model.name))
  | entity :: _ =>
    if declared.fields.isEmpty then .error (.configuration (.missingFields model.name))
    else .ok {
      model, entity
      fields := declared.fields
      indexes := foldIndexes entity.table declared.indexes
      projections := declared.projections }

end ModelSchema

/-- The schema of a model, folded from all that is registered for it. -/
def Schema.Registry.schema (registry : Registry) (model : ModelKey) : Result ModelSchema :=
  ModelSchema.ofDeclarations model (registry.declarations model)

end RecordMapper
