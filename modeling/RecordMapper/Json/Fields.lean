import RecordMapper.Json.Basic

/-!
Reading structures from JSON. A structure with named fields may be written as an object, in
which unknown members are ignored, or as an array of its fields in the order of their
declaration, in which fields at the end may be left out.
-/

namespace RecordMapper.Json

/-- The members that a value gives for the named fields. -/
def fields? (names : List String) : Json → Option (List (String × Json))
  | .object members => some members
  | .array items => if items.length ≤ names.length then some (names.zip items) else none
  | _ => none

/-- The value of a field, if it is given. -/
def field? (name : String) (fields : List (String × Json)) : Option Json :=
  Members.get? name fields

/-- The text of a field that has to be given. -/
def requiredText? (name : String) (fields : List (String × Json)) : Option String :=
  (field? name fields).bind text?

/-- The text of a field that may be left out or null; the outer option tells whether what is
given fits. -/
def optionalText? (name : String) (fields : List (String × Json)) : Option (Option String) :=
  match field? name fields with
  | none => some none
  | some .null => some none
  | some (.string s) => some (some s)
  | some _ => none

/-- An array of strings. -/
def texts? : Json → Option (List String)
  | .array items => items.mapM text?
  | _ => none

end RecordMapper.Json
