import Mathlib.Logic.Relation
import RecordMapper.Proofs.Statement.Operation
import RecordMapper.Schema.Definition

/-!
Isolation of models in a registry. A registry is filled by steps of any models in any order;
what it then holds of one kind for one model are exactly the declarations registered for that
model, in their order (`Registry.lookup_filled`). So whatever is derived for a model depends
on its own registrations only, kind by kind. In other words, it stays the same under editing:
putting in or taking out registrations of other models, and exchanging neighbours of different
kinds; registrations that agree kind by kind are joined by such edits
(`Registration.eqvGen_edit_iff`, `Registry.view_isolated`).
-/

namespace RecordMapper.Schema

/-- A declaration and the model for which it is registered. -/
structure Registration where
  model : ModelKey
  descriptor : Descriptor
deriving DecidableEq

namespace Registration

/-- The declarations of one kind registered for a model, in order. -/
def own (model : ModelKey) (kind : DescriptorKind) (registered : List Registration) :
    List Descriptor :=
  (registered.filter fun r => r.model = model ∧ r.descriptor.kind = kind).map descriptor

variable {model : ModelKey} {kind : DescriptorKind}

@[simp] theorem own_nil : own model kind [] = [] := rfl

theorem own_append (registered others : List Registration) :
    own model kind (registered ++ others) = own model kind registered ++ own model kind others := by
  simp only [own, List.filter_append, List.map_append]

theorem own_cons (r : Registration) (rest : List Registration) :
    own model kind (r :: rest) =
      if r.model = model ∧ r.descriptor.kind = kind then r.descriptor :: own model kind rest
      else own model kind rest := by
  simp only [own, List.filter_cons, decide_eq_true_eq]
  split <;> rfl

/-! ## Edits -/

/-- A change that a model does not see: a registration of another model is put in, or two
neighbours of different kinds are exchanged. -/
inductive Edit (model : ModelKey) : List Registration → List Registration → Prop
  | insert (before after : List Registration) {r : Registration} : r.model ≠ model →
    Edit model (before ++ after) (before ++ r :: after)
  | exchange (before after : List Registration) {r s : Registration} :
    r.descriptor.kind ≠ s.descriptor.kind →
    Edit model (before ++ r :: s :: after) (before ++ s :: r :: after)

theorem Edit.own_eq {registered others : List Registration}
    (edit : Edit model registered others) (kind : DescriptorKind) :
    own model kind registered = own model kind others := by
  cases edit with
  | insert before after foreign =>
    rw [own_append, own_append, own_cons, if_neg fun same => foreign same.1]
  | @exchange before after r s different =>
    simp only [own_append, own_cons]
    by_cases here : r.descriptor.kind = kind
    · have there : s.descriptor.kind ≠ kind := fun same => different (here.trans same.symm)
      simp only [there, and_false, if_false]
    · simp only [here, and_false, if_false]

theorem Edit.append_left {registered others : List Registration} (front : List Registration)
    (edit : Edit model registered others) :
    Edit model (front ++ registered) (front ++ others) := by
  cases edit with
  | insert before after foreign =>
    rw [← List.append_assoc, ← List.append_assoc]
    exact .insert _ _ foreign
  | exchange before after different =>
    rw [← List.append_assoc, ← List.append_assoc]
    exact .exchange _ _ different

/-- What a model does not see in the rest of registrations it does not see in the whole. -/
theorem eqvGen_append_left {registered others : List Registration} (front : List Registration)
    (joined : Relation.EqvGen (Edit model) registered others) :
    Relation.EqvGen (Edit model) (front ++ registered) (front ++ others) := by
  induction joined with
  | rel _ _ edit => exact .rel _ _ (edit.append_left front)
  | refl => exact .refl _
  | symm _ _ _ ih => exact ih.symm
  | trans _ _ _ _ _ first second => exact first.trans _ _ _ second

/-- A registration moves past those of other kinds. -/
theorem eqvGen_move {r : Registration} {passed : List Registration} (after : List Registration)
    (different : ∀ s ∈ passed, r.descriptor.kind ≠ s.descriptor.kind) :
    Relation.EqvGen (Edit model) (r :: (passed ++ after)) (passed ++ r :: after) := by
  induction passed with
  | nil => exact .refl _
  | cons s passed ih =>
    obtain ⟨first, others⟩ := List.forall_mem_cons.1 different
    exact .trans _ (s :: r :: (passed ++ after)) _ (.rel _ _ (.exchange [] _ first))
      (eqvGen_append_left [s] (ih others))

/-! ## Registrations kind by kind -/

/-- The registrations of a model for some kinds, one kind after the other. -/
def sorted (model : ModelKey) (kinds : List DescriptorKind) (registered : List Registration) :
    List Registration :=
  kinds.flatMap fun kind => (own model kind registered).map fun descriptor => ⟨model, descriptor⟩

theorem kind_of_mem_own {registered : List Registration} {descriptor : Descriptor}
    (mem : descriptor ∈ own model kind registered) : descriptor.kind = kind := by
  obtain ⟨r, kept, rfl⟩ := List.mem_map.1 mem
  have fits := (List.mem_filter.1 kept).2
  exact (of_decide_eq_true fits).2

theorem sorted_nil (model : ModelKey) (kinds : List DescriptorKind) :
    sorted model kinds [] = [] := by
  simp [sorted]

/-- A registration of another model, or of a kind that is not asked for, changes nothing. -/
theorem sorted_cons_of_not {kinds : List DescriptorKind} {r : Registration}
    (unseen : r.model = model → r.descriptor.kind ∉ kinds) (rest : List Registration) :
    sorted model kinds (r :: rest) = sorted model kinds rest := by
  refine List.flatMap_congr fun kind mem => ?_
  have other : ¬(r.model = model ∧ r.descriptor.kind = kind) := by
    rintro ⟨same, rfl⟩
    exact unseen same mem
  rw [own_cons, if_neg other]

/-- A registration in front moves to its place among those of its kind. -/
theorem eqvGen_sorted_cons {kinds : List DescriptorKind} (distinct : kinds.Nodup)
    {descriptor : Descriptor} (known : descriptor.kind ∈ kinds) (rest : List Registration) :
    Relation.EqvGen (Edit model) (⟨model, descriptor⟩ :: sorted model kinds rest)
      (sorted model kinds (⟨model, descriptor⟩ :: rest)) := by
  induction kinds with
  | nil => cases known
  | cons kind kinds ih =>
    obtain ⟨fresh, distinct⟩ := List.nodup_cons.1 distinct
    have split (registered : List Registration) : sorted model (kind :: kinds) registered =
        (own model kind registered).map (⟨model, ·⟩) ++ sorted model kinds registered :=
      List.flatMap_cons
    rw [split, split, own_cons]
    by_cases here : descriptor.kind = kind
    · have elsewhere : sorted model kinds (⟨model, descriptor⟩ :: rest) =
          sorted model kinds rest :=
        sorted_cons_of_not (fun _ mem => fresh (here ▸ mem)) rest
      rw [if_pos ⟨rfl, here⟩, elsewhere]
      exact .refl _
    · have later := (List.mem_cons.1 known).resolve_left here
      rw [if_neg fun same => here same.2]
      refine .trans _ _ _ (eqvGen_move _ ?_) (eqvGen_append_left _ (ih distinct later))
      intro s mem
      obtain ⟨passed, listed, rfl⟩ := List.mem_map.1 mem
      exact fun same => here (same.trans (kind_of_mem_own listed))

/-- All kinds of declarations. -/
def kinds : List DescriptorKind := [.entity, .field, .index, .projection]

theorem mem_kinds (kind : DescriptorKind) : kind ∈ kinds := by
  cases kind <;> decide

/-- Edits lead from registrations to those of the model alone, kind by kind. -/
theorem eqvGen_sorted (model : ModelKey) (registered : List Registration) :
    Relation.EqvGen (Edit model) registered (sorted model kinds registered) := by
  induction registered with
  | nil => exact sorted_nil model kinds ▸ .refl _
  | cons r rest ih =>
    refine .trans _ _ _ (eqvGen_append_left [r] ih) ?_
    by_cases same : r.model = model
    · subst same
      exact eqvGen_sorted_cons (by decide) (mem_kinds _) rest
    · rw [sorted_cons_of_not fun own => absurd own same]
      exact .symm _ _ (.rel _ _ (.insert [] _ same))

/-- Registrations are joined by edits exactly where they agree kind by kind for the model. -/
theorem eqvGen_edit_iff {registered others : List Registration} :
    Relation.EqvGen (Edit model) registered others ↔
      ∀ kind, own model kind registered = own model kind others := by
  constructor
  · intro joined kind
    induction joined with
    | rel _ _ edit => exact edit.own_eq kind
    | refl => rfl
    | symm _ _ _ ih => exact ih.symm
    | trans _ _ _ _ _ first second => exact first.trans second
  · intro same
    have meet : sorted model kinds registered = sorted model kinds others :=
      List.flatMap_congr fun kind _ => by rw [same kind]
    exact .trans _ _ _ (eqvGen_sorted model registered)
      (meet ▸ .symm _ _ (eqvGen_sorted model others))

end Registration

/-! ## Filling a registry -/

/-- The declarations of a model are determined by those of each kind. -/
theorem Declarations.ext_ofKind {d e : Declarations} (same : ∀ kind, d.ofKind kind = e.ofKind kind) :
    d = e := by
  obtain ⟨entities, fields, indexes, projections⟩ := d
  obtain ⟨entities', fields', indexes', projections'⟩ := e
  have entity : entities = entities' :=
    (List.map_injective_iff.2 fun _ _ => Descriptor.entity.inj) (same .entity)
  have field : fields = fields' :=
    (List.map_injective_iff.2 fun _ _ => Descriptor.field.inj) (same .field)
  have index : indexes = indexes' :=
    (List.map_injective_iff.2 fun _ _ => Descriptor.index.inj) (same .index)
  have projection : projections = projections' :=
    (List.map_injective_iff.2 fun _ _ => Descriptor.projection.inj) (same .projection)
  rw [entity, field, index, projection]

theorem Declarations.ofKind_add (d : Declarations) (descriptor : Descriptor)
    (kind : DescriptorKind) : (d.add descriptor).ofKind kind =
      d.ofKind kind ++ if descriptor.kind = kind then [descriptor] else [] := by
  cases descriptor <;> cases kind <;> simp [add, ofKind, Descriptor.kind]

namespace Registry

open Registration (own)

/-- A step in filling a registry: one declaration of a model, or all that a model declares. -/
inductive Step where
  | register (model : ModelKey) (descriptor : Descriptor)
  | declare (model : ModelKey) (descriptors : List Descriptor)

namespace Step

/-- What a step does to a registry. -/
def apply (registry : Registry) : Step → Registry
  | .register model descriptor => registry.register model descriptor
  | .declare model descriptors => registry.declare model descriptors

/-- The registrations of a step, in order. -/
def registrations : Step → List Registration
  | .register model descriptor => [⟨model, descriptor⟩]
  | .declare model descriptors => descriptors.map fun descriptor => ⟨model, descriptor⟩

end Step

/-- The registry that steps leave, from an empty one. -/
def filled (steps : List Step) : Registry := steps.foldl Step.apply {}

/-- The registrations of steps, in order. -/
def registrations (steps : List Step) : List Registration := steps.flatMap Step.registrations

variable {model : ModelKey} {kind : DescriptorKind}

theorem lookup_register (registry : Registry) (target : ModelKey) (descriptor : Descriptor) :
    (registry.register target descriptor).lookup kind model =
      registry.lookup kind model ++ own model kind [⟨target, descriptor⟩] := by
  rw [lookup, lookup, declarations_register, Registration.own_cons]
  by_cases same : model = target
  · subst same
    simp [Declarations.ofKind_add]
  · simp [same, Ne.symm same]

theorem lookup_declare (registry : Registry) (target : ModelKey)
    (descriptors : List Descriptor) :
    (registry.declare target descriptors).lookup kind model = registry.lookup kind model ++
      own model kind (descriptors.map fun descriptor => ⟨target, descriptor⟩) := by
  induction descriptors generalizing registry with
  | nil => simp [declare]
  | cons descriptor rest ih =>
    have first : registry.declare target (descriptor :: rest) =
        (registry.register target descriptor).declare target rest := rfl
    rw [first, ih, lookup_register, List.append_assoc, ← Registration.own_append]
    rfl

/-- A step appends its registrations for the model and the kind, and nothing else. -/
theorem lookup_apply (registry : Registry) (step : Step) :
    (step.apply registry).lookup kind model =
      registry.lookup kind model ++ own model kind step.registrations := by
  cases step with
  | register target descriptor => exact lookup_register registry target descriptor
  | declare target descriptors => exact lookup_declare registry target descriptors

/-- Steps append their registrations for the model and the kind, in order. -/
theorem lookup_foldl (registry : Registry) (steps : List Step) :
    (steps.foldl Step.apply registry).lookup kind model =
      registry.lookup kind model ++ own model kind (registrations steps) := by
  induction steps generalizing registry with
  | nil => simp [registrations]
  | cons step rest ih =>
    rw [List.foldl_cons, ih, lookup_apply, List.append_assoc, ← Registration.own_append]
    rfl

/-- A registry holds for a model and a kind just what has been registered, in order. -/
theorem lookup_filled (steps : List Step) :
    (filled steps).lookup kind model = own model kind (registrations steps) := by
  have start : ({} : Registry).lookup kind model = [] := by cases kind <;> rfl
  rw [filled, lookup_foldl, start, List.nil_append]

/-- What is derived for a model: its schema, the text of its definitions, the expressions
behind names, and the queries of requests. -/
structure View where
  schema : Result ModelSchema
  definitionText : Result String
  projection? : String → Result (Option Projection)
  query : Request.Operation → Result Query

/-- What a registry lets derive for a model. -/
def view (registry : Registry) (model : ModelKey) : View where
  schema := registry.schema model
  definitionText := registry.schema model >>= ModelSchema.definitionText
  projection? name := (registry.schema model).map fun schema => schema.projection? name
  query operation := registry.schema model >>= fun schema => operation.query schema

/-- All that is derived for a model comes from its declarations. -/
theorem view_eq_of_lookup {registry other : Registry}
    (same : ∀ kind, registry.lookup kind model = other.lookup kind model) :
    registry.view model = other.view model := by
  have declared : registry.declarations model = other.declarations model :=
    Declarations.ext_ofKind same
  have schema : registry.schema model = other.schema model := by
    rw [Registry.schema, Registry.schema, declared]
  rw [view, view, schema]

/-- However the steps of models are interleaved, a registry holds for each model and each kind
just the declarations registered for it, in order. What is derived for a model depends on
these alone: where the registrations of two runs are joined by edits that the model does not
see, which is just where they agree kind by kind for the model, the same is derived. -/
theorem view_isolated (model : ModelKey) (steps others : List Step) :
    (∀ kind, (filled steps).lookup kind model = own model kind (registrations steps)) ∧
    (Relation.EqvGen (Registration.Edit model) (registrations steps) (registrations others) ↔
      ∀ kind, own model kind (registrations steps) = own model kind (registrations others)) ∧
    ((∀ kind, own model kind (registrations steps) = own model kind (registrations others)) →
      (filled steps).view model = (filled others).view model) := by
  refine ⟨fun kind => lookup_filled steps, Registration.eqvGen_edit_iff, fun same => ?_⟩
  refine view_eq_of_lookup fun kind => ?_
  rw [lookup_filled, lookup_filled, same]

end Registry

end RecordMapper.Schema
