import RecordMapper.Schema.Registry

/-!
Definition statements: the text that makes the database know a table, its fields and its
indexes. Equal schemas have equal text, and the database takes a repeated definition as a
replacement, so the text may be sent again at any time.
-/

namespace RecordMapper.Schema

/-- A clause that is there only if its text is. -/
def optionalClause (lead : String) : Option Fragment → String
  | none => ""
  | some text => lead ++ text.text

/-- The clause of permissions after a blank, if there are any. -/
def permissionsClause : Option Permissions → String
  | none => ""
  | some permissions => " " ++ permissions.clause

/-- The definition of a table. -/
def Entity.definition (entity : Entity) : String :=
  "DEFINE TABLE " ++ entity.table ++ (if entity.dropsWrites then " DROP" else "") ++
    " " ++ entity.mode.keyword ++ optionalClause " AS " entity.derivedFrom ++
    permissionsClause entity.permissions ++ ";"

/-- The condition on values of a field: its own one, and that there is a value if the field
is required. -/
def Field.assertionClause (field : Field) : String :=
  match field.assertion, field.required with
  | some condition, true => " ASSERT (" ++ condition.text ++ ") AND $value != NONE"
  | some condition, false => " ASSERT " ++ condition.text
  | none, true => " ASSERT $value != NONE"
  | none, false => ""

/-- The definition of a field, which has to have a type. -/
def Field.definition (table : String) (field : Field) : Result String :=
  match field.resolvedType? with
  | none => .error (.configuration (.unresolvedFieldType table field.name))
  | some type =>
    .ok ("DEFINE FIELD " ++ field.name ++ " ON TABLE " ++ table ++ " TYPE " ++ type.name ++
      optionalClause " VALUE " field.value ++ field.assertionClause ++
      permissionsClause field.permissions ++ ";")

/-- The definition of an index. -/
def Index.definition (table : String) (index : Index) : String :=
  "DEFINE INDEX " ++ index.resolvedName table ++ " ON TABLE " ++ table ++ " COLUMNS " ++
    String.intercalate ", " index.fields ++ (if index.unique then " UNIQUE" else "") ++ ";"

end RecordMapper.Schema

namespace RecordMapper.ModelSchema

/-- The definitions of the table, its fields and its indexes, in this order. -/
def definitions (schema : ModelSchema) : Result (List String) := do
  let fields ← schema.fields.mapM (·.definition schema.table)
  return schema.entity.definition :: fields ++ schema.indexes.map (·.definition schema.table)

/-- All definitions, one on a line. -/
def definitionText (schema : ModelSchema) : Result String := do
  return String.intercalate "\n" (← schema.definitions)

end RecordMapper.ModelSchema
