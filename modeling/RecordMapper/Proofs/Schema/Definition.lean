import RecordMapper.Proofs.Schema.Folding
import RecordMapper.Proofs.Text.Parts

/-!
The text of definitions. From the registrations for a model either comes a text or a failure,
and which it is can be told from what was registered alone: the first thing that is missing
decides (`Undefinable`). The text has one line for the table, one for each field and one for
each name of an index (`Registry.definitionText_laid_out`). That lines can be counted on needs
only that the declared texts have no line breaks of their own, since the wording around them
has none.
-/

namespace RecordMapper

open Text (OneLine)

namespace Schema

/-! ## Declared texts -/

/-- The texts of a rule. -/
def Rule.texts : Option Rule → List String
  | some (.condition text) => [text.text]
  | _ => []

/-- The texts of permissions. -/
def Permissions.texts : Permissions → List String
  | .perAction rules =>
    [rules.select, rules.create, rules.update, rules.delete].flatMap Rule.texts
  | _ => []

/-- The texts of a type. -/
def FieldType.texts : FieldType → List String
  | .record table => [table]
  | .geometry kind => [kind]
  | _ => []

/-- The texts that a table is declared with. -/
def Entity.texts (entity : Entity) : List String :=
  entity.table :: (entity.derivedFrom.toList.map Fragment.text ++
    entity.permissions.toList.flatMap Permissions.texts)

/-- The texts that a field is declared with. -/
def Field.texts (field : Field) : List String :=
  field.name :: (field.type.toList.flatMap FieldType.texts ++
    field.value.toList.map Fragment.text ++ field.assertion.toList.map Fragment.text ++
    field.permissions.toList.flatMap Permissions.texts)

/-- The texts that an index is declared with. -/
def Index.texts (index : Index) : List String := index.name.toList ++ index.fields

/-- The texts of all that goes into definitions. -/
def Declarations.texts (declared : Declarations) : List String :=
  declared.entities.flatMap Entity.texts ++ declared.fields.flatMap Field.texts ++
    declared.indexes.flatMap Index.texts

theorem Rule.oneLine_clause {rule : Option Rule} (each : ∀ text ∈ Rule.texts rule, OneLine text) :
    OneLine (Rule.clause rule) := by
  rcases rule with _ | _ | _ | condition
  · decide
  · decide
  · decide
  · have lead : OneLine "WHERE " := by decide
    exact lead.append (each _ (List.mem_singleton_self _))

theorem Rule.oneLine_forAction {action : String} (named : OneLine action) {rule : Option Rule}
    (each : ∀ text ∈ Rule.texts rule, OneLine text) : OneLine (Rule.forAction action rule) := by
  have lead : OneLine "FOR " := by decide
  have blank : OneLine " " := by decide
  exact ((lead.append named).append blank).append (oneLine_clause each)

theorem Permissions.oneLine_clause {permissions : Permissions}
    (each : ∀ text ∈ permissions.texts, OneLine text) : OneLine permissions.clause := by
  cases permissions with
  | full => decide
  | none => decide
  | perAction rules =>
    have lead : OneLine "PERMISSIONS " := by decide
    refine lead.append (Text.oneLine_intercalate (by decide) ?_)
    have rule : ∀ rule ∈ [rules.select, rules.create, rules.update, rules.delete],
        ∀ text ∈ Rule.texts rule, OneLine text := fun rule mem text inside =>
      each text (List.mem_flatMap.2 ⟨rule, mem, inside⟩)
    simp only [List.forall_mem_cons] at rule ⊢
    obtain ⟨select, create, update, delete, -⟩ := rule
    exact ⟨Rule.oneLine_forAction (by decide) select, Rule.oneLine_forAction (by decide) create,
      Rule.oneLine_forAction (by decide) update, Rule.oneLine_forAction (by decide) delete,
      List.forall_mem_nil _⟩

theorem oneLine_permissionsClause {permissions : Option Permissions}
    (each : ∀ text ∈ permissions.toList.flatMap Permissions.texts, OneLine text) :
    OneLine (permissionsClause permissions) := by
  cases permissions with
  | none => decide
  | some permissions =>
    have blank : OneLine " " := by decide
    refine blank.append (Permissions.oneLine_clause fun text mem => each text ?_)
    simpa using mem

theorem oneLine_optionalClause {lead : String} (led : OneLine lead) {text : Option Fragment}
    (each : ∀ own ∈ text.toList.map Fragment.text, OneLine own) :
    OneLine (optionalClause lead text) := by
  cases text with
  | none =>
    have nothing : OneLine "" := by decide
    exact nothing
  | some text => exact led.append (each _ (List.mem_singleton_self _))

theorem FieldType.oneLine_name {type : FieldType} (each : ∀ text ∈ type.texts, OneLine text) :
    OneLine type.name := by
  have closing : OneLine ")" := by decide
  cases type with
  | record table =>
    have lead : OneLine "record(" := by decide
    exact (lead.append (each table (List.mem_singleton_self _))).append closing
  | geometry kind =>
    have lead : OneLine "geometry(" := by decide
    exact (lead.append (each kind (List.mem_singleton_self _))).append closing
  | _ => decide

/-! ## Definitions -/

/-- The line is a definition that begins with the given words and names a table. -/
def Defines (words table line : String) : Prop := ∃ rest, line = words ++ table ++ " " ++ rest ++ ";"

theorem Defines.ends {words table line : String} (defines : Defines words table line) :
    ∃ body, line = body ++ ";" := by
  obtain ⟨rest, rfl⟩ := defines
  exact ⟨_, rfl⟩

theorem Entity.defines_definition (entity : Entity) :
    Defines "DEFINE TABLE " entity.table entity.definition := by
  refine ⟨(if entity.dropsWrites then "DROP " else "") ++ entity.mode.keyword ++
    optionalClause " AS " entity.derivedFrom ++ permissionsClause entity.permissions, ?_⟩
  unfold definition
  refine String.toList_injective ?_
  cases entity.dropsWrites <;> simp

theorem Entity.oneLine_definition {entity : Entity} (each : ∀ text ∈ entity.texts, OneLine text) :
    OneLine entity.definition := by
  obtain ⟨table, others⟩ := List.forall_mem_cons.1 each
  obtain ⟨derived, permissions⟩ := List.forall_mem_append.1 others
  have drop : OneLine (if entity.dropsWrites then " DROP" else "") := by
    split <;> decide
  have mode : OneLine entity.mode.keyword := by
    cases entity.mode <;> decide
  have lead : OneLine "DEFINE TABLE " := by decide
  have blank : OneLine " " := by decide
  have closing : OneLine ";" := by decide
  exact ((((((lead.append table).append drop).append blank).append mode).append
    (oneLine_optionalClause (by decide) derived)).append
      (oneLine_permissionsClause permissions)).append closing

/-- The field is declared with a type or with a hint. -/
def Field.HasType (field : Field) : Prop := field.type ≠ none ∨ field.hint ≠ none

theorem Field.resolvedType?_eq_none_iff {field : Field} :
    field.resolvedType? = none ↔ ¬field.HasType := by
  rw [resolvedType?, Option.or_eq_none_iff, Option.map_eq_none_iff, HasType, not_or, not_not,
    not_not]

theorem Field.exists_definition_iff {table : String} {field : Field} :
    (∃ line, field.definition table = .ok line) ↔ field.HasType := by
  unfold definition
  cases resolved : field.resolvedType? with
  | none => exact iff_of_false nofun (resolvedType?_eq_none_iff.1 resolved)
  | some type =>
    have has : field.HasType := by
      by_contra lacks
      rw [resolvedType?_eq_none_iff.2 lacks] at resolved
      cases resolved
    exact iff_of_true ⟨_, rfl⟩ has

theorem Field.definition_eq_error_iff {table : String} {field : Field} {cause : Error} :
    field.definition table = .error cause ↔
      ¬field.HasType ∧ cause = .configuration (.unresolvedFieldType table field.name) := by
  rw [← resolvedType?_eq_none_iff]
  unfold definition
  cases field.resolvedType? with
  | none => simp [eq_comm]
  | some type => simp

theorem Field.defines_definition {table line : String} {field : Field}
    (defined : field.definition table = .ok line) :
    Defines ("DEFINE FIELD " ++ field.name ++ " ON TABLE ") table line := by
  unfold definition at defined
  cases resolved : field.resolvedType? with
  | none => rw [resolved] at defined; cases defined
  | some type =>
    rw [resolved] at defined
    cases defined
    exact ⟨"TYPE " ++ type.name ++ optionalClause " VALUE " field.value ++ field.assertionClause ++
      permissionsClause field.permissions, String.toList_injective (by simp)⟩

theorem Field.oneLine_assertionClause {field : Field}
    (each : ∀ text ∈ field.assertion.toList.map Fragment.text, OneLine text) :
    OneLine field.assertionClause := by
  unfold assertionClause
  cases declared : field.assertion with
  | none => cases field.required <;> decide
  | some condition =>
    have own : OneLine condition.text := each _ (by simp [declared])
    have lead : OneLine " ASSERT " := by decide
    have opening : OneLine " ASSERT (" := by decide
    have presence : OneLine ") AND $value != NONE" := by decide
    cases field.required with
    | true => exact (opening.append own).append presence
    | false => exact lead.append own

theorem Field.oneLine_definition {table line : String} {field : Field} (named : OneLine table)
    (each : ∀ text ∈ field.texts, OneLine text) (defined : field.definition table = .ok line) :
    OneLine line := by
  simp only [texts, List.forall_mem_cons, List.forall_mem_append] at each
  obtain ⟨name, ⟨⟨type, value⟩, assertion⟩, permissions⟩ := each
  unfold definition at defined
  cases resolved : field.resolvedType? with
  | none => rw [resolved] at defined; cases defined
  | some own =>
    rw [resolved] at defined
    cases defined
    have typed : OneLine own.name := by
      rcases Option.or_eq_some_iff.1 resolved with declared | ⟨-, hinted⟩
      · exact FieldType.oneLine_name fun text mem => type text (by simp [declared, mem])
      · obtain ⟨hint, -, rfl⟩ := Option.map_eq_some_iff.1 hinted
        cases hint <;> decide
    have lead : OneLine "DEFINE FIELD " := by decide
    have on : OneLine " ON TABLE " := by decide
    have kind : OneLine " TYPE " := by decide
    have closing : OneLine ";" := by decide
    exact ((((((((lead.append name).append on).append named).append kind).append typed).append
      (oneLine_optionalClause (by decide) value)).append (oneLine_assertionClause assertion)).append
        (oneLine_permissionsClause permissions)).append closing

theorem Index.defines_definition (table : String) (index : Index) :
    Defines ("DEFINE INDEX " ++ index.resolvedName table ++ " ON TABLE ") table
      (index.definition table) := by
  refine ⟨"COLUMNS " ++ String.intercalate ", " index.fields ++
    (if index.unique then " UNIQUE" else ""), ?_⟩
  unfold definition
  exact String.toList_injective (by simp)

theorem Index.oneLine_definition {table : String} {index : Index} (named : OneLine table)
    (each : ∀ text ∈ index.texts, OneLine text) : OneLine (index.definition table) := by
  obtain ⟨name, fields⟩ := List.forall_mem_append.1 each
  have resolved : OneLine (index.resolvedName table) := by
    unfold resolvedName
    cases declared : index.name with
    | some own => exact name own (by simp [declared])
    | none => exact Text.oneLine_intercalate (by decide) (List.forall_mem_cons.2 ⟨named, fields⟩)
  have unique : OneLine (if index.unique then " UNIQUE" else "") := by
    split <;> decide
  have lead : OneLine "DEFINE INDEX " := by decide
  have on : OneLine " ON TABLE " := by decide
  have columns : OneLine " COLUMNS " := by decide
  have comma : OneLine ", " := by decide
  have joined := Text.oneLine_intercalate comma fields
  have closing : OneLine ";" := by decide
  unfold definition
  exact ((((((lead.append resolved).append on).append named).append columns).append joined).append
    unique).append closing

/-! ## Text or failure -/

/-- What is missing first of all that a text of definitions needs. -/
inductive Undefinable (model : ModelKey) (declared : Declarations) : Error → Prop
  | missingEntity : declared.entities = [] →
    Undefinable model declared (.configuration (.missingEntity model.name))
  | missingFields : declared.entities ≠ [] → declared.fields = [] →
    Undefinable model declared (.configuration (.missingFields model.name))
  | unresolvedFieldType {entity : Entity} {others : List Entity} {before after : List Field}
    {field : Field} : declared.entities = entity :: others →
    declared.fields = before ++ field :: after → (∀ earlier ∈ before, earlier.HasType) →
    ¬field.HasType →
    Undefinable model declared (.configuration (.unresolvedFieldType entity.table field.name))

end Schema

namespace ModelSchema

open Schema

theorem definitionText_eq_ok_iff {schema : ModelSchema} {text : String} :
    schema.definitionText = .ok text ↔ ∃ fieldLines,
      List.Forall₂ (fun field line => field.definition schema.table = .ok line)
        schema.fields fieldLines ∧
      text = "\n".intercalate (schema.entity.definition ::
        (fieldLines ++ schema.indexes.map (·.definition schema.table))) := by
  simp only [← mapM_eq_ok_iff]
  unfold definitionText definitions
  cases schema.fields.mapM (·.definition schema.table) with
  | error cause => simp [bind, Except.bind]
  | ok fieldLines => simp [bind, Except.bind, pure, Except.pure, eq_comm]

theorem exists_definitionText_iff {schema : ModelSchema} :
    (∃ text, schema.definitionText = .ok text) ↔ ∀ field ∈ schema.fields, field.HasType := by
  simp only [← @Field.exists_definition_iff schema.table, ← exists_mapM_eq_ok_iff,
    mapM_eq_ok_iff, definitionText_eq_ok_iff]
  constructor
  · intro written
    obtain ⟨text, fieldLines, each, -⟩ := written
    exact ⟨fieldLines, each⟩
  · intro typed
    obtain ⟨fieldLines, each⟩ := typed
    exact ⟨_, fieldLines, each, rfl⟩

/-- A text fails at the first field without a type. -/
theorem definitionText_eq_error_iff {schema : ModelSchema} {cause : Error} :
    schema.definitionText = .error cause ↔ ∃ before field after,
      schema.fields = before ++ field :: after ∧ (∀ earlier ∈ before, earlier.HasType) ∧
      ¬field.HasType ∧
      cause = .configuration (.unresolvedFieldType schema.table field.name) := by
  have failing : schema.definitionText = .error cause ↔
      schema.fields.mapM (·.definition schema.table) = .error cause := by
    unfold definitionText definitions
    cases schema.fields.mapM (·.definition schema.table) with
    | error other => simp [bind, Except.bind]
    | ok fieldLines => simp [bind, Except.bind, pure, Except.pure]
  rw [failing, mapM_eq_error_iff]
  simp only [Field.exists_definition_iff, Field.definition_eq_error_iff]

/-- A text is missing for what is missing first. -/
theorem ofDeclarations_definitionText_eq_error_iff {model : ModelKey} {declared : Declarations}
    {cause : Error} : (ofDeclarations model declared >>= definitionText) = .error cause ↔
      Undefinable model declared cause := by
  rw [bind_eq_error_iff, ofDeclarations_eq_error_iff]
  simp only [ofDeclarations_eq_ok_iff, definitionText_eq_error_iff]
  constructor
  · intro failed
    rcases failed with (⟨none, rfl⟩ | ⟨some, none, rfl⟩) |
      ⟨_, ⟨entity, others, first, -, rfl⟩, before, field, after, split, typed, untyped, rfl⟩
    · exact .missingEntity none
    · exact .missingFields some none
    · exact .unresolvedFieldType first split typed untyped
  · intro missing
    cases missing with
    | missingEntity none => exact .inl (.inl ⟨none, rfl⟩)
    | missingFields some none => exact .inl (.inr ⟨some, none, rfl⟩)
    | @unresolvedFieldType entity others before after field first split typed untyped =>
      have some : declared.fields ≠ [] := by simp [split]
      exact .inr ⟨_, ⟨entity, others, first, some, rfl⟩, before, field, after, split, typed, untyped,
        rfl⟩

/-- A text comes of a table and fields of which each has a type. -/
theorem exists_ofDeclarations_definitionText_iff {model : ModelKey} {declared : Declarations} :
    (∃ text, (ofDeclarations model declared >>= definitionText) = .ok text) ↔
      declared.entities ≠ [] ∧ declared.fields ≠ [] ∧ ∀ field ∈ declared.fields, field.HasType := by
  constructor
  · intro defined
    obtain ⟨text, defined⟩ := defined
    obtain ⟨schema, folded, written⟩ := exists_of_bind_eq_ok defined
    obtain ⟨entity, others, first, some, rfl⟩ := ofDeclarations_eq_ok_iff.1 folded
    exact ⟨by simp [first], some, exists_definitionText_iff.1 ⟨text, written⟩⟩
  · intro complete
    obtain ⟨table, some, typed⟩ := complete
    obtain ⟨entity, others, first⟩ := List.exists_cons_of_ne_nil table
    rw [ofDeclarations_eq_ok_iff.2 ⟨entity, others, first, some, rfl⟩]
    exact exists_definitionText_iff.2 typed

end ModelSchema

/-! ## Lines -/

namespace Schema

open ModelSchema (foldIndexes)

/-- The lines define a table, then fields and then indexes of it, in order and one each. -/
def LaidOut (entity : Entity) (fields : List Field) (indexes : List Index)
    (lines : List String) : Prop :=
  ∃ fieldLines indexLines, lines = entity.definition :: (fieldLines ++ indexLines) ∧
    Defines "DEFINE TABLE " entity.table entity.definition ∧
    List.Forall₂ (fun field line => field.definition entity.table = .ok line ∧
      Defines ("DEFINE FIELD " ++ field.name ++ " ON TABLE ") entity.table line)
      fields fieldLines ∧
    List.Forall₂ (fun index line => line = index.definition entity.table ∧
      Defines ("DEFINE INDEX " ++ index.resolvedName entity.table ++ " ON TABLE ")
        entity.table line)
      indexes indexLines

namespace LaidOut

variable {entity : Entity} {fields : List Field} {indexes : List Index} {lines : List String}

/-- A text of definitions is laid out in lines. -/
theorem of_definitionText {schema : ModelSchema} {text : String}
    (written : schema.definitionText = .ok text) : ∃ lines, text = "\n".intercalate lines ∧
      LaidOut schema.entity schema.fields schema.indexes lines := by
  obtain ⟨fieldLines, each, rfl⟩ := ModelSchema.definitionText_eq_ok_iff.1 written
  refine ⟨_, rfl, fieldLines, _, rfl, schema.entity.defines_definition, ?_, ?_⟩
  · exact each.imp fun field line defined => ⟨defined, Field.defines_definition defined⟩
  · exact List.forall₂_map_right_iff.2 (List.forall₂_same.2 fun index _ =>
      ⟨rfl, index.defines_definition schema.table⟩)

theorem ne_nil (laid : LaidOut entity fields indexes lines) : lines ≠ [] := by
  obtain ⟨fieldLines, indexLines, rfl, -⟩ := laid
  exact List.cons_ne_nil _ _

theorem length_eq (laid : LaidOut entity fields indexes lines) :
    lines.length = 1 + fields.length + indexes.length := by
  obtain ⟨fieldLines, indexLines, rfl, -, ofFields, ofIndexes⟩ := laid
  rw [List.length_cons, List.length_append, ofFields.length_eq, ofIndexes.length_eq]
  omega

/-- What holds of every definition holds of every line. -/
theorem forall_mem (laid : LaidOut entity fields indexes lines) {P : String → Prop}
    (table : P entity.definition)
    (ofField : ∀ field ∈ fields, ∀ line, field.definition entity.table = .ok line → P line)
    (ofIndex : ∀ index ∈ indexes, P (index.definition entity.table)) : ∀ line ∈ lines, P line := by
  obtain ⟨fieldLines, indexLines, rfl, -, ofFields, ofIndexes⟩ := laid
  refine List.forall_mem_cons.2 ⟨table, List.forall_mem_append.2 ⟨?_, ?_⟩⟩
  · intro line mem
    obtain ⟨field, listed, defined, -⟩ := exists_mem_of_forall₂ ofFields mem
    exact ofField field listed line defined
  · intro line mem
    obtain ⟨index, listed, rfl, -⟩ := exists_mem_of_forall₂ ofIndexes mem
    exact ofIndex index listed

theorem ends (laid : LaidOut entity fields indexes lines) :
    ∀ line ∈ lines, ∃ body, line = body ++ ";" :=
  laid.forall_mem entity.defines_definition.ends
    (fun _ _ _ defined => (Field.defines_definition defined).ends)
    (fun index _ => (index.defines_definition entity.table).ends)

/-- Where the declared texts have no line breaks, each line is one. -/
theorem oneLine (laid : LaidOut entity fields indexes lines)
    (table : ∀ text ∈ entity.texts, OneLine text)
    (ofField : ∀ field ∈ fields, ∀ text ∈ field.texts, OneLine text)
    (ofIndex : ∀ index ∈ indexes, ∀ text ∈ index.texts, OneLine text) :
    ∀ line ∈ lines, OneLine line := by
  have named : OneLine entity.table := table _ List.mem_cons_self
  exact laid.forall_mem (Entity.oneLine_definition table)
    (fun field mem _ defined => Field.oneLine_definition named (ofField field mem) defined)
    (fun index mem => Index.oneLine_definition named (ofIndex index mem))

end LaidOut

/-- From all that is registered for a model a text of definitions comes, unless a table, a
field or the type of a field is missing, and then what is missing first is the failure. The
text has a line for the first table, a line for each field and a line for each name of an
index, in this order, each closed by a semicolon and about that table; where the declared
texts have no line breaks, these are the lines into which the text is split. -/
theorem Registry.definitionText_laid_out (model : ModelKey) (steps : List Step) :
    let declared := Registration.declarations model (registrations steps)
    let outcome := (filled steps).schema model >>= ModelSchema.definitionText
    (∀ cause, outcome = .error cause ↔ Undefinable model declared cause) ∧
    ((∃ text, outcome = .ok text) ↔
      declared.entities ≠ [] ∧ declared.fields ≠ [] ∧
        ∀ field ∈ declared.fields, field.HasType) ∧
    ∀ text, outcome = .ok text → ∃ entity others lines,
      declared.entities = entity :: others ∧ text = "\n".intercalate lines ∧
      LaidOut entity declared.fields (foldIndexes entity.table declared.indexes) lines ∧
      lines.length = 1 + declared.fields.length +
        (declared.indexes.map (·.resolvedName entity.table)).toFinset.card ∧
      (∀ line ∈ lines, ∃ body, line = body ++ ";") ∧
      ((∀ own ∈ declared.texts, OneLine own) → Text.partsAt '\n' text = lines) := by
  intro declared outcome
  have folded : outcome = ModelSchema.ofDeclarations model declared >>=
      ModelSchema.definitionText := by
    show (filled steps).schema model >>= _ = _
    rw [schema_filled]
  rw [folded]
  refine ⟨fun cause => ModelSchema.ofDeclarations_definitionText_eq_error_iff,
    ModelSchema.exists_ofDeclarations_definitionText_iff, fun text done => ?_⟩
  obtain ⟨schema, folded, written⟩ := exists_of_bind_eq_ok done
  obtain ⟨entity, others, first, -, rfl⟩ := ModelSchema.ofDeclarations_eq_ok_iff.1 folded
  obtain ⟨lines, rfl, laid⟩ := LaidOut.of_definitionText written
  refine ⟨entity, others, lines, first, rfl, laid, ?_, laid.ends, fun plain => ?_⟩
  · rw [laid.length_eq, ModelSchema.length_foldIndexes]
  · rw [Declarations.texts, List.forall_mem_append, List.forall_mem_append] at plain
    obtain ⟨⟨tables, ofFields⟩, ofIndexes⟩ := plain
    have table : ∀ own ∈ entity.texts, OneLine own := fun own mem =>
      tables own (List.mem_flatMap.2 ⟨entity, by simp [first], mem⟩)
    have ofField : ∀ field ∈ declared.fields, ∀ own ∈ field.texts, OneLine own :=
      fun field mem own inside => ofFields own (List.mem_flatMap.2 ⟨field, mem, inside⟩)
    have ofIndex : ∀ index ∈ foldIndexes entity.table declared.indexes,
        ∀ own ∈ index.texts, OneLine own := fun index mem own inside =>
      ofIndexes own (List.mem_flatMap.2
        ⟨index, (ModelSchema.mem_foldIndexes_iff.1 mem).mem, inside⟩)
    exact Text.partsAt_intercalate laid.ne_nil (laid.oneLine table ofField ofIndex)

end Schema

end RecordMapper
