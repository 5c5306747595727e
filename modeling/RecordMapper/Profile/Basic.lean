import RecordMapper.Connection.Options
import RecordMapper.Error
import RecordMapper.Text.Blank

/-!
Connection profiles: named servers with their options. A book of profiles is usable as it
stands: each of its profiles has an endpoint, and its default, if it names one, is in it.
-/

namespace RecordMapper

open Connection (Options)

/-- A named server with options. -/
structure Profile where
  name : String
  endpoint : String
  options : Options := {}
deriving DecidableEq

/-- What a file says about a profile. -/
structure ProfileEntry where
  endpoint : Option String := none
  options : Options := {}
deriving DecidableEq

/-- What a file says about profiles. -/
structure ProfileFile where
  defaultName : Option String := none
  profiles : List (String × ProfileEntry) := []

/-- Profiles by name, and the name of the one to use by default. -/
structure ProfileBook where
  defaultName : Option String := none
  profiles : List Profile := []

namespace ProfileEntry

/-- The profile of an entry; an endpoint of nothing but blanks is none. -/
def toProfile (name : String) (entry : ProfileEntry) : Except ProfileError Profile :=
  match entry.endpoint.filter fun endpoint => !Text.isAllBlank endpoint with
  | some endpoint => .ok ⟨name, endpoint, entry.options⟩
  | none => .error (.missingEndpoint name)

end ProfileEntry

namespace ProfileBook

/-- The profile of a name. -/
def find? (book : ProfileBook) (name : String) : Option Profile :=
  book.profiles.find? fun profile => profile.name = name

/-- The profile that is used by default, if the book names one and has it. -/
def default? (book : ProfileBook) : Option Profile := book.defaultName.bind book.find?

/-- The profile to use: the named one, or the default if no name is given. -/
def resolve (book : ProfileBook) (name : Option String) : Except ProfileError Profile :=
  match name.or book.defaultName with
  | none => .error .noDefaultProfile
  | some name =>
    match book.find? name with
    | some profile => .ok profile
    | none => .error (.profileNotFound name)

/-- The book of what a file says. Profiles without endpoint are found before a default that
is not there. -/
def ofFile (file : ProfileFile) : Except ProfileError ProfileBook := do
  let profiles ← file.profiles.mapM fun entry => entry.2.toProfile entry.1
  let book : ProfileBook := ⟨file.defaultName, profiles⟩
  match file.defaultName with
  | none => return book
  | some name =>
    if (book.find? name).isSome then return book else throw (.profileNotFound name)

end ProfileBook

end RecordMapper
