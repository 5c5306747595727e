import Mathlib.Data.List.Induction
import RecordMapper.Connection.Options

/-!
Options in layers. Merging works field by field, and of the values that a field is given the last
one counts (`Options.get?_layered_eq_some_iff`). How the layers are grouped when they are merged
does not matter (`Options.grouped_iff`), so what a call gives can be merged with what its collection
gives before both are merged with what the client gives.
-/

namespace RecordMapper.Connection

namespace Options

/-- What may be set in options. -/
inductive Field where
  | ns
  | db
  | user
  | pass
  | token
deriving DecidableEq

/-- What a field is set to. -/
def get? (options : Options) : Field → Option String
  | .ns => options.ns
  | .db => options.db
  | .user => options.user
  | .pass => options.pass
  | .token => options.token

/-- A field of merged options is that of the upper layer, unless it is unset there. -/
theorem get?_merged (below above : Options) (field : Field) :
    (below.merged above).get? field = (above.get? field).or (below.get? field) := by
  cases field <;> rfl

/-- What is set above counts once it has been merged, and no more if it is merged again. -/
theorem merged_twice (below above : Options) :
    (below.merged above).merged above = below.merged above := by
  simp only [merged, ← Option.or_assoc, Option.or_self]

/-! ## Many layers -/

/-- The layers merged one after the other, from the lowest on. -/
def layered (layers : List Options) : Options := layers.foldl merged {}

/-- The options that come of merging layers in some grouping. -/
inductive Grouped : List Options → Options → Prop
  | empty : Grouped [] {}
  | layer (options : Options) : Grouped [options] options
  | merged {lower upper : List Options} {below above : Options} :
    Grouped lower below → Grouped upper above → Grouped (lower ++ upper) (below.merged above)

/-- The layer that sets the field to the text has no layer above it that sets the field. -/
def LastSets (layers : List Options) (field : Field) (text : String) : Prop :=
  ∃ lower layer upper, layers = lower ++ layer :: upper ∧ layer.get? field = some text ∧
    ∀ above ∈ upper, above.get? field = none

@[simp] theorem layered_nil : layered [] = {} := rfl

@[simp] theorem layered_singleton (layer : Options) : layered [layer] = layer :=
  empty_merged layer

theorem foldl_merged (base : Options) (layers : List Options) :
    layers.foldl merged base = base.merged (layered layers) := by
  induction layers generalizing base with
  | nil => exact (merged_empty base).symm
  | cons layer rest ih =>
    rw [layered, List.foldl_cons, List.foldl_cons, ih, ih, empty_merged, merged_assoc]

theorem layered_append (lower upper : List Options) :
    layered (lower ++ upper) = (layered lower).merged (layered upper) := by
  rw [layered, List.foldl_append, foldl_merged]
  rfl

theorem layered_cons (layer : Options) (rest : List Options) :
    layered (layer :: rest) = layer.merged (layered rest) := by
  rw [← List.singleton_append, layered_append, layered_singleton]

/-- Layers come to the same in every grouping. -/
theorem grouped_iff {layers : List Options} {options : Options} :
    Grouped layers options ↔ options = layered layers := by
  constructor
  · intro grouped
    induction grouped with
    | empty => rfl
    | layer options => exact (layered_singleton options).symm
    | merged _ _ below above => rw [below, above, layered_append]
  · rintro rfl
    induction layers with
    | nil => exact .empty
    | cons layer rest ih =>
      rw [layered_cons]
      exact .merged (.layer layer) ih

theorem get?_layered_concat (layers : List Options) (top : Options) (field : Field) :
    (layered (layers ++ [top])).get? field = (top.get? field).or ((layered layers).get? field) := by
  rw [layered_append, layered_singleton, get?_merged]

/-- A field is unset where no layer sets it. -/
theorem get?_layered_eq_none_iff {layers : List Options} {field : Field} :
    (layered layers).get? field = none ↔ ∀ layer ∈ layers, layer.get? field = none := by
  induction layers using List.reverseRecOn with
  | nil => cases field <;> simp [get?]
  | append_singleton lower top ih =>
    rw [get?_layered_concat, Option.or_eq_none_iff, ih, List.forall_mem_append,
      List.forall_mem_singleton, and_comm]

/-- A field has the value that the last layer gives it which sets it. -/
theorem get?_layered_eq_some_iff {layers : List Options} {field : Field} {text : String} :
    (layered layers).get? field = some text ↔ LastSets layers field text := by
  constructor
  · intro set
    induction layers using List.reverseRecOn with
    | nil => cases field <;> cases set
    | append_singleton lower top ih =>
      rw [get?_layered_concat] at set
      cases given : top.get? field with
      | none =>
        rw [given, Option.none_or] at set
        obtain ⟨first, layer, rest, rfl, sets, unset⟩ := ih set
        refine ⟨first, layer, rest ++ [top], by simp, sets, ?_⟩
        rw [List.forall_mem_append, List.forall_mem_singleton]
        exact ⟨unset, given⟩
      | some value =>
        rw [given, Option.some_or] at set
        cases set
        exact ⟨lower, top, [], rfl, given, by simp⟩
  · rintro ⟨lower, layer, upper, rfl, sets, unset⟩
    rw [layered_append, layered_cons, get?_merged, get?_merged, get?_layered_eq_none_iff.2 unset,
      sets]
    rfl

end Options

namespace Headers

/-- What is sent under a name. -/
def value? (headers : Headers) (name : String) : Option String := headers.pairs.lookup name

theorem value?_authorization (headers : Headers) :
    headers.value? "Authorization" = headers.authorization := by
  rcases headers with ⟨accept, authorization, ns, db⟩
  cases authorization <;> rfl

theorem value?_ns (headers : Headers) : headers.value? "NS" = some headers.ns := by
  rcases headers with ⟨accept, authorization, ns, db⟩
  cases authorization <;> rfl

theorem value?_db (headers : Headers) : headers.value? "DB" = some headers.db := by
  rcases headers with ⟨accept, authorization, ns, db⟩
  cases authorization <;> rfl

end Headers

end RecordMapper.Connection
