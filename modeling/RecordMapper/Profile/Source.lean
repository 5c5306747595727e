import RecordMapper.Profile.File

/-!
Where profiles come from: a file named by the caller, else one named by the environment,
else the user's own file. A file that is not there says nothing.
-/

namespace RecordMapper

/-- What lies at the path of a file. -/
inductive FileState where
  | content (bytes : ByteArray)
  | directory
  | missing

/-- A path, and what lies there. -/
structure ProfilePlace where
  path : String
  state : FileState

/-- The places of a profile file, in the order in which they count. -/
inductive ProfileSource where
  | explicit
  | environment
  | user
deriving DecidableEq

namespace ProfileBook

/-- The book that a place gives. -/
def read [Wording] (place : ProfilePlace) : Except ProfileError ProfileBook :=
  match place.state with
  | .missing => .ok {}
  | .directory => .error (.unreadable place.path (Wording.file none))
  | .content bytes =>
    match String.fromUTF8? bytes with
    | some text => ofText text place.path
    | none => .error (.unreadable place.path (Wording.file bytes))

/-- The place that counts. Only the first two can be unnamed. -/
def locate (explicit environment : Option ProfilePlace) (user : ProfilePlace) :
    ProfileSource × ProfilePlace :=
  match explicit with
  | some place => (.explicit, place)
  | none =>
    match environment with
    | some place => (.environment, place)
    | none => (.user, user)

/-- The book of the place that counts. -/
def load [Wording] (explicit environment : Option ProfilePlace) (user : ProfilePlace) :
    Except ProfileError (ProfileSource × ProfileBook) := do
  let (source, place) := locate explicit environment user
  return (source, ← read place)

end ProfileBook

end RecordMapper
