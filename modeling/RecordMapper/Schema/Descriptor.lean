import RecordMapper.Schema.Permissions

/-!
What a model declares about itself: its table, its fields, its indexes, and names for
expressions that its rows can be selected with.
-/

namespace RecordMapper.Schema

/-- Whether a table takes only the fields it defines. -/
inductive Mode where
  | enforced
  | flexible
deriving DecidableEq

/-- The keyword of a mode. -/
def Mode.keyword : Mode → String
  | .enforced => "SCHEMAFULL"
  | .flexible => "SCHEMALESS"

/-- A table. -/
structure Entity where
  table : String
  mode : Mode := .flexible
  /-- The query whose result the table holds, for a table that is a view. -/
  derivedFrom : Option Fragment := none
  /-- Whether writes to the table are thrown away. -/
  dropsWrites : Bool := false
  permissions : Option Permissions := none
deriving DecidableEq

/-- The types that the database stores. -/
inductive FieldType where
  | any
  | array
  | bool
  | datetime
  | decimal
  | duration
  | float
  | int
  | number
  | object
  | string
  | record (table : String)
  | geometry (kind : String)
deriving DecidableEq

/-- The name of a type. -/
def FieldType.name : FieldType → String
  | .any => "any"
  | .array => "array"
  | .bool => "bool"
  | .datetime => "datetime"
  | .decimal => "decimal"
  | .duration => "duration"
  | .float => "float"
  | .int => "int"
  | .number => "number"
  | .object => "object"
  | .string => "string"
  | .record table => "record(" ++ table ++ ")"
  | .geometry kind => "geometry(" ++ kind ++ ")"

/-- What the program's own types say about a field. -/
inductive TypeHint where
  | boolean
  | number
  | bigint
  | string
  | any
  | date
deriving DecidableEq

/-- The type in which data of a hint is stored. -/
def TypeHint.fieldType : TypeHint → FieldType
  | .boolean => .bool
  | .number => .number
  | .bigint => .number
  | .string => .string
  | .any => .any
  | .date => .datetime

/-- A field of a table. -/
structure Field where
  name : String
  type : Option FieldType := none
  required : Bool := false
  /-- The expression that computes the value of the field. -/
  value : Option Fragment := none
  /-- The condition that values of the field have to meet. -/
  assertion : Option Fragment := none
  permissions : Option Permissions := none
  hint : Option TypeHint := none
deriving DecidableEq

/-- The type of a field: the declared one, or else the one that its hint suggests. -/
def Field.resolvedType? (field : Field) : Option FieldType :=
  field.type.or (field.hint.map TypeHint.fieldType)

/-- An index over fields of a table. -/
structure Index where
  fields : List String
  name : Option String := none
  unique : Bool := false
deriving DecidableEq

/-- The name of an index: the declared one, or else table and fields joined by underscores. -/
def Index.resolvedName (index : Index) (table : String) : String :=
  match index.name with
  | some name => name
  | none => String.intercalate "_" (table :: index.fields)

/-- A name for an expression. -/
structure Projection where
  name : String
  expression : Fragment
deriving DecidableEq

/-- The kinds of declarations. -/
inductive DescriptorKind where
  | entity
  | field
  | index
  | projection
deriving DecidableEq

/-- One declaration. -/
inductive Descriptor where
  | entity (entity : Entity)
  | field (field : Field)
  | index (index : Index)
  | projection (projection : Projection)
deriving DecidableEq

/-- The kind of a declaration. -/
def Descriptor.kind : Descriptor → DescriptorKind
  | .entity _ => .entity
  | .field _ => .field
  | .index _ => .index
  | .projection _ => .projection

end RecordMapper.Schema
