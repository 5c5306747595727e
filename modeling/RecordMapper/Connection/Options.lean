import RecordMapper.Connection.Base64
import RecordMapper.Json.Fields

/-!
Connection options: where a request goes and on whose behalf. Options come in layers; a
field that is unset in one layer falls through to the layer below.
-/

namespace RecordMapper.Connection

/-- Namespace, database and credentials, each of which may be unset. -/
structure Options where
  ns : Option String := none
  db : Option String := none
  user : Option String := none
  pass : Option String := none
  /-- An access token, which counts before user and password. -/
  token : Option String := none
deriving DecidableEq, Inhabited

namespace Options

/-- The options below with every field replaced that the upper layer sets. -/
def merged (below above : Options) : Options where
  ns := above.ns.or below.ns
  db := above.db.or below.db
  user := above.user.or below.user
  pass := above.pass.or below.pass
  token := above.token.or below.token

/-- The credentials in the form of the authorization header: the token if there is one, else
user and password if either is set. -/
def authorization? (options : Options) : Option String :=
  match options.token with
  | some token => some ("Bearer " ++ token)
  | none =>
    if options.user.isNone && options.pass.isNone then none
    else some ("Basic " ++
      Base64.encodeText (options.user.getD "" ++ ":" ++ options.pass.getD ""))

/-- The names of the fields, in order. -/
def fieldNames : List String := ["ns", "db", "user", "pass", "token"]

/-- The options that a JSON value denotes. -/
def ofJson? (json : Json) : Option Options := do
  let fields ← json.fields? fieldNames
  return {
    ns := ← Json.optionalText? "ns" fields
    db := ← Json.optionalText? "db" fields
    user := ← Json.optionalText? "user" fields
    pass := ← Json.optionalText? "pass" fields
    token := ← Json.optionalText? "token" fields }

/-- The JSON value of options, with null for what is unset. -/
def toJson (options : Options) : Json :=
  .object [("db", .ofText? options.db), ("ns", .ofText? options.ns),
    ("pass", .ofText? options.pass), ("token", .ofText? options.token),
    ("user", .ofText? options.user)]

/-- Merging layers may be grouped in any way. -/
theorem merged_assoc (a b c : Options) : (a.merged b).merged c = a.merged (b.merged c) := by
  simp [merged, Option.or_assoc]

@[simp] theorem merged_empty (options : Options) : options.merged {} = options := by
  simp [merged]

@[simp] theorem empty_merged (options : Options) : merged {} options = options := by
  simp [merged]

end Options

/-- What accompanies the body of a request. -/
structure Headers where
  accept : String := "application/json"
  authorization : Option String
  /-- The namespace, empty if none is set. -/
  ns : String
  /-- The database, empty if none is set. -/
  db : String
deriving DecidableEq

namespace Headers

/-- The headers of a request with the given options. -/
def ofOptions (options : Options) : Headers where
  authorization := options.authorization?
  ns := options.ns.getD ""
  db := options.db.getD ""

/-- Names and values in the order of sending; without credentials there is no authorization. -/
def pairs (headers : Headers) : List (String × String) :=
  let authorization := match headers.authorization with
    | none => []
    | some text => [("Authorization", text)]
  ("Accept", headers.accept) :: authorization ++ [("NS", headers.ns), ("DB", headers.db)]

end Headers

end RecordMapper.Connection
