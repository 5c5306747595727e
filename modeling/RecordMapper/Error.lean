import RecordMapper.Binary64.Text
import RecordMapper.Reply.Entry

/-!
What can go wrong, told by cause. Each cause has a code for programs and a message for
people. Causes that are found by others come with the words of those who found them.
-/

namespace RecordMapper

/-- Declarations from which no usable collection comes. -/
inductive ConfigurationError where
  | missingEntity (model : String)
  | missingFields (model : String)
  | unresolvedFieldType (table field : String)
  | modelMismatch (expected found : String)
deriving DecidableEq

/-- The two ends of a relation. -/
inductive Side where
  | source
  | target
deriving DecidableEq

/-- Input of callers that is refused before any request is made. -/
inductive ValidationError where
  | invalidRecordKey (text : String)
  | invalidKey (text : String)
  | tableMismatch (table id : String)
  | invalidEndpoint (side : Side)
  | nonStringId
deriving DecidableEq

/-- Values that have no literal or no JSON form. -/
inductive SerializationError where
  | nonFinite (x : Binary64)
  | yearOutOfRange
  | emptyAssignments
  | keyNotText
  | numberOutOfRange
deriving DecidableEq

/-- Failures that the database reports. -/
inductive RemoteError where
  | statementFailed (entry : Reply.Entry)
  | requestRejected (code payload : Json)

/-- Connection profiles that cannot be loaded or found. -/
inductive ProfileError where
  /-- The file at a path gives no text. -/
  | unreadable (path words : String)
  /-- A text, perhaps that of the file at a path, tells of no profiles. -/
  | malformed (path : Option String) (words : String)
  | profileNotFound (name : String)
  | missingEndpoint (profile : String)
  | noDefaultProfile
deriving DecidableEq

/-- The causes of failure. -/
inductive Error where
  | configuration (cause : ConfigurationError)
  | profile (cause : ProfileError)
  | validation (cause : ValidationError)
  | serialization (cause : SerializationError)
  | remote (cause : RemoteError)
  | transport (message : String)
  | decode (cause : Reply.DecodeError)

namespace ConfigurationError

/-- The code of the cause. -/
def code : ConfigurationError → String
  | .missingEntity _ => "MissingEntity"
  | .missingFields _ => "MissingFields"
  | .unresolvedFieldType .. => "UnresolvedFieldType"
  | .modelMismatch .. => "ModelMismatch"

/-- The wording of the cause. -/
def message : ConfigurationError → String
  | .missingEntity model => "model '" ++ model ++ "' has no entity declaration"
  | .missingFields model => "model '" ++ model ++ "' declares no fields"
  | .unresolvedFieldType table field =>
    "field '" ++ field ++ "' on table '" ++ table ++ "' has no resolvable storage type"
  | .modelMismatch expected found =>
    "schema for '" ++ found ++ "' cannot bind a collection of '" ++ expected ++ "'"

end ConfigurationError

/-- The word for an end of a relation. -/
def Side.word : Side → String
  | .source => "from"
  | .target => "to"

namespace ValidationError

/-- The code of the cause. -/
def code : ValidationError → String
  | .invalidRecordKey _ => "InvalidRecordKey"
  | .invalidKey _ => "InvalidKey"
  | .tableMismatch .. => "TableMismatch"
  | .invalidEndpoint _ => "InvalidEndpoint"
  | .nonStringId => "NonStringId"

/-- The wording of the cause. -/
def message : ValidationError → String
  | .invalidRecordKey text => "invalid record key: " ++ text
  | .invalidKey text => "invalid key: " ++ text
  | .tableMismatch table id =>
    "identifier '" ++ id ++ "' does not belong to table '" ++ table ++ "'"
  | .invalidEndpoint side =>
    "the '" ++ side.word ++ "' argument should be either an ID or an object with an id field"
  | .nonStringId => "record identifier must be a string"

end ValidationError

namespace SerializationError

/-- The code is one for all causes. -/
def code (_ : SerializationError) : String := "Unserializable"

/-- The wording of the cause. -/
def message : SerializationError → String
  | .nonFinite x => "unserializable value: non-finite number " ++ Binary64.text .plain x
  | .yearOutOfRange =>
    "unserializable value: The year component cannot be formatted into the requested format."
  | .emptyAssignments => "unserializable value: assignments must be a non-empty object"
  | .keyNotText => "value could not be converted: key must be a string"
  | .numberOutOfRange => "value could not be converted: number out of range"

end SerializationError

namespace RemoteError

/-- The code of the cause. -/
def code : RemoteError → String
  | .statementFailed _ => "StatementFailed"
  | .requestRejected .. => "RequestRejected"

/-- The wording of the cause. -/
def message : RemoteError → String
  | .statementFailed entry =>
    "statement failed after " ++ entry.time ++ ": " ++ entry.detail.getD "no detail"
  | .requestRejected code payload =>
    "request rejected with code " ++ code.print ++ ": " ++ payload.print

end RemoteError

namespace ProfileError

/-- The name of the cause. -/
def kind : ProfileError → String
  | .unreadable .. => "Read"
  | .malformed .. => "Parse"
  | .profileNotFound _ => "ProfileNotFound"
  | .missingEndpoint _ => "MissingEndpoint"
  | .noDefaultProfile => "NoDefaultProfile"

/-- The wording of the cause. -/
def message : ProfileError → String
  | .unreadable path words => "failed to read client config " ++ path ++ ": " ++ words
  | .malformed path words =>
    "failed to parse client config" ++ (path.map (" " ++ ·)).getD "" ++ ": " ++ words
  | .profileNotFound name => "profile '" ++ name ++ "' not found"
  | .missingEndpoint profile => "profile '" ++ profile ++ "' has no endpoint"
  | .noDefaultProfile => "no profile named and no default_profile configured"

end ProfileError

namespace Error

/-- The code of an error, for programs. -/
def code : Error → String
  | .configuration cause => cause.code
  | .profile _ => "Config"
  | .validation cause => cause.code
  | .serialization cause => cause.code
  | .remote cause => cause.code
  | .transport _ => "Transport"
  | .decode _ => "Decode"

/-- The message of an error, for people. -/
def message : Error → String
  | .configuration cause => "configuration error: " ++ cause.message
  | .profile cause => "client config error: " ++ cause.message
  | .validation cause => "validation error: " ++ cause.message
  | .serialization cause => "serialization error: " ++ cause.message
  | .remote cause => "remote error: " ++ cause.message
  | .transport message => "transport error: " ++ message
  | .decode cause => "decode error: " ++ cause.message

end Error

/-- What a step that can fail gives. -/
abbrev Result (α : Type) := Except Error α

end RecordMapper
