import RecordMapper.Proofs.Schema.Definition

/-!
The indexes of a folded schema. Every name is there once, held by the index last declared with
it, so no name is defined twice (`Registry.indexes_last_declared`). An index without a name of
its own is known by its table and its fields, joined by underscores. Two of these are taken for
one where their fields join to one text, even if the fields differ
(`Registry.unnamed_indexes_collide`); it takes an underscore in a field for that
(`Registry.unnamed_indexes_kept`).
-/

namespace RecordMapper.Schema

open Keyed (Last)
open ModelSchema (foldIndexes)

/-- A folded schema has the first table declared for the model, and its indexes are folded under
the names that they have in that table. -/
theorem Registry.indexes_schema_filled {model : ModelKey} {steps : List Step} {schema : ModelSchema}
    (folded : (filled steps).schema model = .ok schema) :
    (Registration.declarations model (registrations steps)).entities.head? = some schema.entity ∧
    schema.indexes = foldIndexes schema.table
      (Registration.declarations model (registrations steps)).indexes := by
  rw [schema_filled] at folded
  obtain ⟨entity, others, first, -, rfl⟩ := ModelSchema.ofDeclarations_eq_ok_iff.1 folded
  exact ⟨by rw [first, List.head?_cons], rfl⟩

/-! ## Names in definitions -/

/-- A definition of a table or a field is none of an index. -/
theorem not_defines_index (name : String) {words table line : String}
    (lead : words = "DEFINE TABLE " ∨ words = "DEFINE FIELD " ++ name ++ " ON TABLE ")
    (defines : Defines words table line) : ¬∃ rest, line = "DEFINE INDEX " ++ rest := by
  intro starts
  obtain ⟨body, rfl⟩ := defines
  obtain ⟨rest, same⟩ := starts
  have chars := congrArg String.toList same
  rcases lead with rfl | rfl <;> simp at chars

/-- A text of definitions ends in one definition for each index, and no other line of it
defines an index. -/
theorem exists_indexLines {schema : ModelSchema} {text : String}
    (written : schema.definitionText = .ok text) : ∃ others indexLines,
      text = "\n".intercalate (others ++ indexLines) ∧
      (∀ line ∈ others, ¬∃ rest, line = "DEFINE INDEX " ++ rest) ∧
      List.Forall₂ (fun name line => Defines ("DEFINE INDEX " ++ name ++ " ON TABLE ")
        schema.table line) (schema.indexes.map (·.resolvedName schema.table)) indexLines := by
  obtain ⟨lines, rfl, fieldLines, indexLines, rfl, table, ofFields, ofIndexes⟩ :=
    LaidOut.of_definitionText written
  refine ⟨schema.entity.definition :: fieldLines, indexLines, rfl, ?_, ?_⟩
  · refine List.forall_mem_cons.2 ⟨not_defines_index "" (.inl rfl) table, ?_⟩
    intro line mem
    obtain ⟨field, -, -, defines⟩ := exists_mem_of_forall₂ ofFields mem
    exact not_defines_index field.name (.inr rfl) defines
  · exact List.forall₂_map_left_iff.2 (ofIndexes.imp fun _ _ both => both.2)

/-- A schema has the names of the indexes declared for its model, as they are in the first table
declared for it: each once and in the order of their first declarations, and held by the index
that was last declared with it. So each name has one definition in the text of definitions. -/
theorem Registry.indexes_last_declared {model : ModelKey} {steps : List Step} {schema : ModelSchema}
    (folded : (filled steps).schema model = .ok schema) :
    let declared := Registration.declarations model (registrations steps)
    let name := fun index : Index => index.resolvedName schema.table
    declared.entities.head? = some schema.entity ∧
    (schema.indexes.map name).Nodup ∧
    (∀ own, own ∈ schema.indexes.map name ↔ own ∈ declared.indexes.map name) ∧
    (∀ index, index ∈ schema.indexes ↔ Last name declared.indexes index) ∧
    schema.indexes.map name = (declared.indexes.map name).eraseDups ∧
    ∀ text, schema.definitionText = .ok text → ∃ others indexLines,
      text = "\n".intercalate (others ++ indexLines) ∧
      (∀ line ∈ others, ¬∃ rest, line = "DEFINE INDEX " ++ rest) ∧
      List.Forall₂ (fun own line => Defines ("DEFINE INDEX " ++ own ++ " ON TABLE ")
        schema.table line) (schema.indexes.map name) indexLines := by
  intro declared name
  obtain ⟨first, kept⟩ := indexes_schema_filled folded
  have names : schema.indexes.map name = (declared.indexes.map name).eraseDups := by
    rw [kept]
    exact ModelSchema.names_foldIndexes declared.indexes
  refine ⟨first, ?_, fun own => ?_, fun index => ?_, names, fun text => exists_indexLines⟩
  · rw [names]
    exact nodup_eraseDups _
  · rw [names]
    exact List.mem_eraseDups
  · rw [kept]
    exact ModelSchema.mem_foldIndexes_iff

/-- Of two indexes over one field the second is kept, before one that is declared between them;
what another model declares makes no difference. -/
theorem Registry.indexes_last_declared_fruit :
    let byName : Index := { fields := ["name"] }
    let byColor : Index := { fields := ["color"], name := some "by_color" }
    let steps : List Step := [
      .declare ⟨0, "Fruit"⟩ [.entity { table := "fruit" },
        .field { name := "name", type := some .string }, .index byName],
      .declare ⟨1, "Animal"⟩ [.entity { table := "animal" }, .index byName],
      .declare ⟨0, "Fruit"⟩ [.index byColor, .entity { table := "fruits" },
        .index { byName with unique := true }]]
    ∃ schema, (filled steps).schema ⟨0, "Fruit"⟩ = .ok schema ∧
      schema.indexes.map (·.resolvedName "fruit") = ["fruit_name", "by_color"] ∧
      { byName with unique := true } ∈ schema.indexes ∧ byName ∉ schema.indexes := by
  intro byName byColor steps
  refine ⟨_, rfl, ?_⟩
  obtain ⟨-, -, -, held, names, -⟩ := @indexes_last_declared ⟨0, "Fruit"⟩ steps _ rfl
  refine ⟨names.trans (by decide), (held _).2 ?_, by decide⟩
  exact ⟨[byName, byColor], [], rfl, List.forall_mem_nil _⟩

/-! ## Indexes without names -/

namespace Index

/-- The fields of an index, joined as they are where they stand for its name. -/
def joined (index : Index) : String := "_".intercalate index.fields

/-- An index without a name is known by its table and its joined fields. -/
theorem resolvedName_eq_joined {table : String} {index : Index} (unnamed : index.name = none)
    (nonempty : index.fields ≠ []) : index.resolvedName table = table ++ "_" ++ index.joined := by
  obtain ⟨field, others, fields⟩ := List.exists_cons_of_ne_nil nonempty
  unfold resolvedName joined
  rw [unnamed, fields]
  exact String.intercalate_cons_cons

/-- Fields without underscores can be told from what they join to. -/
theorem fields_eq_of_joined_eq {index other : Index} (nonempty : index.fields ≠ [])
    (others : other.fields ≠ []) (plain : ∀ field ∈ index.fields, '_' ∉ field.toList)
    (plainer : ∀ field ∈ other.fields, '_' ∉ field.toList) (same : index.joined = other.joined) :
    index.fields = other.fields := by
  have own := Text.partsAt_intercalate nonempty plain
  have its := Text.partsAt_intercalate others plainer
  exact own.symm.trans ((congrArg (Text.partsAt '_') same).trans its)

end Index

/-- Among indexes without names the last of a name is the last of those whose fields join to one
text. -/
theorem last_resolvedName_iff {table : String} {indexes : List Index}
    (unnamed : ∀ index ∈ indexes, index.name = none ∧ index.fields ≠ []) {index : Index} :
    Last (·.resolvedName table) indexes index ↔ Last Index.joined indexes index := by
  have named : ∀ index ∈ indexes, index.resolvedName table = table ++ "_" ++ index.joined :=
    fun index mem => Index.resolvedName_eq_joined (unnamed index mem).1 (unnamed index mem).2
  -- the table is one for all, so names are equal just where joined fields are
  constructor
  · intro last
    refine last.of_finer fun other mem same => ?_
    rw [named other mem, named index last.mem, same]
  · intro last
    refine last.of_finer fun other mem same => ?_
    rw [named other mem, named index last.mem] at same
    exact (String.append_right_inj _).1 same

/-- The last index whose fields join to a text is one over the same fields, and the last over
them, if no other fields join to it. -/
theorem exists_last_joined {indexes : List Index} {index : Index} (mem : index ∈ indexes)
    (alone : ∀ other ∈ indexes, other.joined = index.joined → other.fields = index.fields) :
    ∃ kept, Last Index.joined indexes kept ∧ kept.fields = index.fields ∧
      Last Index.fields indexes kept := by
  have lasts : ∃ last, Last Index.joined indexes last ∧ last.joined = index.joined :=
    Keyed.exists_last mem
  obtain ⟨kept, last, same⟩ := lasts
  exact ⟨kept, last, alone kept last.mem same,
    last.of_finer fun _ _ fields => congrArg ("_".intercalate ·) fields⟩

/-- Where all indexes declared for a model are without names, a schema has, of those whose fields
join to one text, the last. So over the fields of each it has the one last declared over them,
unless other fields declared join to the same text; this cannot be where no field has an
underscore. -/
theorem Registry.unnamed_indexes_kept {model : ModelKey} {steps : List Step} {schema : ModelSchema}
    (folded : (filled steps).schema model = .ok schema)
    (unnamed : ∀ index ∈ (Registration.declarations model (registrations steps)).indexes,
      index.name = none ∧ index.fields ≠ []) :
    let declared := (Registration.declarations model (registrations steps)).indexes
    let keeps := fun index : Index => ∃ kept ∈ schema.indexes,
      kept.fields = index.fields ∧ Last Index.fields declared kept
    (∀ index, index ∈ schema.indexes ↔ Last Index.joined declared index) ∧
    (∀ index ∈ declared,
      (∀ other ∈ declared, other.joined = index.joined → other.fields = index.fields) →
        keeps index) ∧
    ((∀ index ∈ declared, ∀ field ∈ index.fields, '_' ∉ field.toList) →
      ∀ index ∈ declared, keeps index) := by
  intro declared keeps
  have held : ∀ index, index ∈ schema.indexes ↔ Last Index.joined declared index := by
    intro index
    rw [(indexes_schema_filled folded).2, ModelSchema.mem_foldIndexes_iff,
      last_resolvedName_iff unnamed]
  have alone : ∀ index ∈ declared,
      (∀ other ∈ declared, other.joined = index.joined → other.fields = index.fields) →
        keeps index := by
    intro index mem different
    obtain ⟨kept, last, covers⟩ := exists_last_joined mem different
    exact ⟨kept, (held kept).2 last, covers⟩
  refine ⟨held, alone, fun plain index mem => alone index mem fun other listed same => ?_⟩
  exact Index.fields_eq_of_joined_eq (unnamed other listed).2 (unnamed index mem).2
    (plain other listed) (plain index mem) same

/-- An index over one field is kept beside one over that field and another, as it was last
declared. -/
theorem Registry.unnamed_indexes_kept_fruit :
    let byName : Index := { fields := ["name"] }
    let byBoth : Index := { fields := ["name", "color"] }
    let steps : List Step := [
      .declare ⟨0, "Fruit"⟩ [.entity { table := "fruit" },
        .field { name := "name", type := some .string },
        .field { name := "color", type := some .string },
        .index byName, .index byBoth, .index { byName with unique := true }]]
    ∃ schema, (filled steps).schema ⟨0, "Fruit"⟩ = .ok schema ∧
      { byName with unique := true } ∈ schema.indexes ∧
      ∃ kept ∈ schema.indexes, kept.fields = byBoth.fields := by
  intro byName byBoth steps
  refine ⟨_, rfl, ?_⟩
  obtain ⟨held, -, each⟩ := @unnamed_indexes_kept ⟨0, "Fruit"⟩ steps _ rfl (by decide)
  refine ⟨(held _).2 ?_, ?_⟩
  · exact ⟨[byName, byBoth], [], rfl, List.forall_mem_nil _⟩
  · obtain ⟨kept, listed, fields, -⟩ := each (by decide) byBoth (by decide)
    exact ⟨kept, listed, fields⟩

/-- An index over a field with an underscore is lost to one over two fields that join to it, also
if it alone is unique. -/
theorem Registry.unnamed_indexes_collide :
    let byOne : Index := { fields := ["a_b"], unique := true }
    let byBoth : Index := { fields := ["a", "b"] }
    let steps : List Step := [
      .declare ⟨0, "A"⟩ [.entity { table := "t" }, .field { name := "a_b", type := some .string },
        .field { name := "a", type := some .string }, .field { name := "b", type := some .string },
        .index byOne, .index byBoth]]
    let declared := (Registration.declarations ⟨0, "A"⟩ (registrations steps)).indexes
    (∀ index ∈ declared, index.name = none ∧ index.fields ≠ [] ∧
      ∀ field ∈ index.fields, Identifier.isKey field.toList) ∧
    byOne ∈ declared ∧
    ∃ schema, (filled steps).schema ⟨0, "A"⟩ = .ok schema ∧
      ¬∃ kept ∈ schema.indexes, kept.fields = byOne.fields := by
  intro byOne byBoth steps declared
  refine ⟨by decide, by decide, _, rfl, by decide⟩

end RecordMapper.Schema
