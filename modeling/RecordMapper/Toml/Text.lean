import RecordMapper.Text.Hex
import RecordMapper.Toml.Basic
import RecordMapper.Toml.Blank

/-!
Strings and keys of TOML. Basic strings have escapes, literal strings have none; the
multi-line form of either starts with three quotes, drops a line end right after them, and
may hold quotes as long as no three of them stand together.
-/

namespace RecordMapper.Toml

/-- The character of a code point, which no surrogate is. -/
def scalar? (code : Nat) : Option Char :=
  if code.isValidChar then some (Char.ofNat code) else none

/-- The character of a code point in hexadecimal digits. -/
def hexScalar? (digits : List Char) : Option Char :=
  (Text.hexNumber? digits).bind scalar?

/-- The character that a backslash and this character stand for. -/
def shortEscape? (c : Char) : Option Char :=
  match c with
  | 'b' => some '\x08'
  | 't' => some '\t'
  | 'n' => some '\n'
  | 'f' => some '\x0c'
  | 'r' => some '\r'
  | '"' => some '"'
  | '\\' => some '\\'
  | _ => none

/-- Puts a character before what a reader has found. -/
def consFound (c : Char) : List Char × List Char → List Char × List Char
  | (content, rest) => (c :: content, rest)

/-- A basic string whose opening quote has been read. -/
def basic? : Reader (List Char)
  | [] => none
  | '"' :: rest => some ([], rest)
  | '\\' :: 'u' :: a :: b :: c :: d :: rest => do
    let meant ← hexScalar? [a, b, c, d]
    (basic? rest).map (consFound meant)
  | '\\' :: 'U' :: a :: b :: c :: d :: e :: f :: g :: h :: rest => do
    let meant ← hexScalar? [a, b, c, d, e, f, g, h]
    (basic? rest).map (consFound meant)
  | '\\' :: c :: rest => do
    let meant ← shortEscape? c
    (basic? rest).map (consFound meant)
  | c :: rest => if isPlain c && c ≠ '\\' then (basic? rest).map (consFound c) else none

/-- A literal string whose opening quote has been read. -/
def literal? : Reader (List Char)
  | [] => none
  | '\'' :: rest => some ([], rest)
  | c :: rest => if isPlain c then (literal? rest).map (consFound c) else none

/-- A multi-line basic string whose opening quotes have been read. The flag tells whether a
backslash at the end of a line has hidden the blanks and line ends that follow it. -/
def multilineBasic? : Bool → Reader (List Char)
  | _, [] => none
  | _, '"' :: '"' :: '"' :: '"' :: '"' :: rest => some (['"', '"'], rest)
  | _, '"' :: '"' :: '"' :: '"' :: rest => some (['"'], rest)
  | _, '"' :: '"' :: '"' :: rest => some ([], rest)
  | trimming, '\n' :: rest =>
    if trimming then multilineBasic? true rest
    else (multilineBasic? false rest).map (consFound '\n')
  | trimming, '\r' :: '\n' :: rest =>
    if trimming then multilineBasic? true rest
    else (multilineBasic? false rest).map (consFound '\n')
  | _, '\\' :: 'u' :: a :: b :: c :: d :: rest => do
    let meant ← hexScalar? [a, b, c, d]
    (multilineBasic? false rest).map (consFound meant)
  | _, '\\' :: 'U' :: a :: b :: c :: d :: e :: f :: g :: h :: rest => do
    let meant ← hexScalar? [a, b, c, d, e, f, g, h]
    (multilineBasic? false rest).map (consFound meant)
  | _, '\\' :: tail@(c :: rest) =>
    if (newline? (skipBlanks tail)).isSome then multilineBasic? true tail
    else do
      let meant ← shortEscape? c
      (multilineBasic? false rest).map (consFound meant)
  | trimming, c :: rest =>
    if trimming && isBlank c then multilineBasic? true rest
    else if isPlain c && c ≠ '\\' then (multilineBasic? false rest).map (consFound c)
    else none

/-- A multi-line literal string whose opening quotes have been read. -/
def multilineLiteral? : Reader (List Char)
  | [] => none
  | '\'' :: '\'' :: '\'' :: '\'' :: '\'' :: rest => some (['\'', '\''], rest)
  | '\'' :: '\'' :: '\'' :: '\'' :: rest => some (['\''], rest)
  | '\'' :: '\'' :: '\'' :: rest => some ([], rest)
  | '\n' :: rest => (multilineLiteral? rest).map (consFound '\n')
  | '\r' :: '\n' :: rest => (multilineLiteral? rest).map (consFound '\n')
  | c :: rest => if isPlain c then (multilineLiteral? rest).map (consFound c) else none

/-- The text after a line end at its start, if there is one. -/
def dropNewline (text : List Char) : List Char := (newline? text).getD text

/-- A string of any form. -/
def string? : Reader (List Char)
  | '"' :: '"' :: '"' :: rest => multilineBasic? false (dropNewline rest)
  | '"' :: rest => basic? rest
  | '\'' :: '\'' :: '\'' :: rest => multilineLiteral? (dropNewline rest)
  | '\'' :: rest => literal? rest
  | _ => none

/-- Characters of keys without quotes. -/
def isBareKeyChar (c : Char) : Bool := c.isAlphanum || c = '-' || c = '_'

/-- One part of a key: bare, or a string of one line. -/
def keyPart? : Reader String
  | '"' :: rest => (basic? rest).map fun (content, rest) => (String.ofList content, rest)
  | '\'' :: rest => (literal? rest).map fun (content, rest) => (String.ofList content, rest)
  | text =>
    let part := text.takeWhile isBareKeyChar
    if part = [] then none else some (String.ofList part, text.dropWhile isBareKeyChar)

/-- The parts of a key between points, with blanks around them; each part takes at least one
character, so the length of the text bounds their number. -/
def keyParts? : Nat → Reader (List String)
  | 0, _ => none
  | fuel + 1, text => do
    let (part, rest) ← keyPart? (skipBlanks text)
    match skipBlanks rest with
    | '.' :: rest => (keyParts? fuel rest).map fun (parts, rest) => (part :: parts, rest)
    | rest => some ([part], rest)

/-- A key: the parts before the last one, and the last one. -/
def key? (text : List Char) : Option ((List String × String) × List Char) := do
  let (parts, rest) ← keyParts? text.length text
  let last ← parts.getLast?
  if parts.length < nestingLimit then some ((parts.dropLast, last), rest) else none

end RecordMapper.Toml
