import RecordMapper.Toml.Scalar
import RecordMapper.Toml.Table
import RecordMapper.Toml.Text

/-!
TOML documents: lines that give a key its value or open a table, read from top to bottom.
-/

namespace RecordMapper.Toml

mutual

/-- A value. The first argument bounds the openings of values and lists on the way, the
second tells how many arrays and inline tables the value lies in. -/
def value? : Nat → Nat → Reader Value
  | 0, _, _ => none
  | fuel + 1, depth, text =>
    match text with
    | '[' :: rest =>
      if depth + 1 < nestingLimit then
        match skipGaps false rest with
        | ']' :: rest => some (.array [], rest)
        | rest => (items? fuel (depth + 1) rest).map fun (items, rest) => (.array items, rest)
      else none
    | '\x7b' :: rest =>
      if depth + 1 < nestingLimit then
        match skipBlanks rest with
        | '\x7d' :: rest => some (.table [], rest)
        | rest => do
          let (definitions, rest) ← definitions? fuel (depth + 1) rest
          let table ← ofDefinitions? definitions
          return (table, rest)
      else none
    | 't' :: 'r' :: 'u' :: 'e' :: rest => some (.boolean true, rest)
    | 'f' :: 'a' :: 'l' :: 's' :: 'e' :: rest => some (.boolean false, rest)
    | '"' :: _ => (string? text).map fun (s, rest) => (.string (String.ofList s), rest)
    | '\'' :: _ => (string? text).map fun (s, rest) => (.string (String.ofList s), rest)
    | _ => momentOrNumber? text

/-- The items of an array up to its closing bracket; a comma may follow the last one. -/
def items? : Nat → Nat → Reader (List Value)
  | 0, _, _ => none
  | fuel + 1, depth, text => do
    let (item, rest) ← value? fuel depth text
    match skipGaps false rest with
    | ']' :: rest => some ([item], rest)
    | ',' :: rest =>
      match skipGaps false rest with
      | ']' :: rest => some ([item], rest)
      | rest => (items? fuel depth rest).map fun (items, rest) => (item :: items, rest)
    | _ => none

/-- The definitions in an inline table up to its closing brace, all on one line. -/
def definitions? : Nat → Nat → Reader (List ((List String × String) × Value))
  | 0, _, _ => none
  | fuel + 1, depth, text => do
    let (key, rest) ← key? text
    match rest with
    | '=' :: rest =>
      let (value, rest) ← value? fuel depth (skipBlanks rest)
      match skipBlanks rest with
      | '\x7d' :: rest => some ([(key, value)], rest)
      | ',' :: rest =>
        (definitions? fuel depth rest).map fun (others, rest) => ((key, value) :: others, rest)
      | _ => none
    | _ => none

end

/-- What has been read of a document: all tables, and the path of the open one. -/
structure Progress where
  root : Table := {}
  current : List String := []

/-- A header: brackets around a key, on a line of its own. -/
def header? (opening closing : List Char) (text : List Char) :
    Option ((List String × String) × List Char) :=
  if opening.isPrefixOf text then do
    let (key, rest) ← key? (text.drop opening.length)
    if closing.isPrefixOf rest then do
      let rest ← lineEnd? (rest.drop closing.length)
      return (key, rest)
    else none
  else none

/-- One line of a document, which is not blank. -/
def line? (progress : Progress) (text : List Char) : Option (Progress × List Char) :=
  match text with
  | '[' :: '[' :: _ => do
    let (key, rest) ← header? ['[', '['] [']', ']'] text
    let root ← progress.root.openElement key.1 key.2
    return (⟨root, key.1 ++ [key.2]⟩, rest)
  | '[' :: _ => do
    let (key, rest) ← header? ['['] [']'] text
    let root ← progress.root.openTable key.1 key.2
    return (⟨root, key.1 ++ [key.2]⟩, rest)
  | _ => do
    let (key, rest) ← key? text
    match rest with
    | '=' :: rest =>
      let (value, rest) ← value? (2 * rest.length + 2) 0 (skipBlanks rest)
      let rest ← lineEnd? rest
      let root ← Table.alter false (Table.define key.1 key.2 value) progress.current progress.root
      return ({ progress with root }, rest)
    | _ => none

/-- All lines of a document. Each takes at least one character, so the length of the text
bounds their number. -/
def lines? : Nat → Progress → List Char → Option Table
  | 0, progress, text => if text = [] then some progress.root else none
  | fuel + 1, progress, text =>
    match skipBlanks text with
    | [] => some progress.root
    | '#' :: rest => do
      let rest ← lineEnd? ('#' :: rest)
      lines? fuel progress rest
    | text =>
      match newline? text with
      | some rest => lines? fuel progress rest
      | none => do
        let (progress, rest) ← line? progress text
        lines? fuel progress rest

/-- The top-level entries of a document, which may start with a byte order mark. -/
def parse? (text : String) : Option (List (String × Value)) := do
  let chars := if text.toList.head? = some '\ufeff' then text.toList.drop 1 else text.toList
  let root ← lines? (chars.length + 1) {} chars
  return entriesToValue root.entries

end RecordMapper.Toml
