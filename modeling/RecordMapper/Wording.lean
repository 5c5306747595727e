import RecordMapper.Json.Basic

/-!
Words of others. What cannot be read is refused by the readers of JSON and TOML and by the file
system, each in its own words, and errors pass these words on. They are no part of the library,
which works with any of them.
-/

namespace RecordMapper

/-- What is said of things that cannot be read. -/
class Wording where
  /-- Of a payload that is no array. -/
  batch (payload : Json) : String
  /-- Of an item of a payload that does not have the fields of an entry. -/
  entry (item : Json) : String
  /-- Of a row that is not of the named type. -/
  row (type : String) (row : Json) : String
  /-- Of a text that tells of no profiles. -/
  profiles (text : String) : String
  /-- Of a file of bytes that are no text, or of something that is no file. -/
  file (content : Option ByteArray) : String

/-- The wording that says the same of everything. -/
abbrev Wording.terse : Wording where
  batch _ := "cannot be read"
  entry _ := "cannot be read"
  row _ _ := "cannot be read"
  profiles _ := "cannot be read"
  file _ := "cannot be read"

end RecordMapper
