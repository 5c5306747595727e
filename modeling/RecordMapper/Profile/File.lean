import RecordMapper.Profile.Basic
import RecordMapper.Toml.Document
import RecordMapper.Wording

/-!
Profile files. A file is a TOML document with a table `profiles` and perhaps the name of a
default; what else it holds is ignored. A profile is a table of texts, or an array that gives
the six texts in order.
-/

namespace RecordMapper

namespace ProfileFile

/-- A text that may be missing; anything else in its place is refused. -/
def optionalText? (name : String) (entries : List (String × Toml.Value)) :
    Option (Option String) :=
  match Members.get? name entries with
  | none => some none
  | some value => value.text?.map some

/-- The entry that a table gives. -/
def ofTable? (entries : List (String × Toml.Value)) : Option ProfileEntry := do
  let endpoint ← optionalText? "endpoint" entries
  let ns ← optionalText? "ns" entries
  let db ← optionalText? "db" entries
  let user ← optionalText? "user" entries
  let pass ← optionalText? "pass" entries
  let token ← optionalText? "token" entries
  return ⟨endpoint, { ns, db, user, pass, token }⟩

/-- The entry that a value gives. A date or a time is a table of its own kind, in which no
text of a profile is. -/
def ofValue? : Toml.Value → Option ProfileEntry
  | .table entries => ofTable? entries
  | .moment _ => some {}
  | .array (endpoint :: ns :: db :: user :: pass :: token :: _) => do
    let endpoint ← endpoint.text?
    let ns ← ns.text?
    let db ← db.text?
    let user ← user.text?
    let pass ← pass.text?
    let token ← token.text?
    return ⟨some endpoint, ⟨some ns, some db, some user, some pass, some token⟩⟩
  | _ => none

/-- The entries of the table of profiles. -/
def profiles? : Option Toml.Value → Option (List (String × ProfileEntry))
  | none => some []
  | some (.table entries) => entries.mapM fun (name, value) => (ofValue? value).map (name, ·)
  | some _ => none

/-- What a document says about profiles. -/
def ofToml? (entries : List (String × Toml.Value)) : Option ProfileFile := do
  let profiles ← profiles? (Members.get? "profiles" entries)
  let defaultName ← optionalText? "default_profile" entries
  return ⟨defaultName, profiles⟩

end ProfileFile

/-- The book that a text gives, which may be that of the file at a path. -/
def ProfileBook.ofText [Wording] (text : String) (path : Option String := none) :
    Except ProfileError ProfileBook :=
  match (Toml.parse? text).bind ProfileFile.ofToml? with
  | some file => ProfileBook.ofFile file
  | none => .error (.malformed path (Wording.profiles text))

end RecordMapper
