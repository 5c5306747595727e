import RecordMapper.Proofs.Binary64.Text
import RecordMapper.Proofs.Identifier
import RecordMapper.Proofs.Text.Number
import RecordMapper.Proofs.Text.Reader
import RecordMapper.Proofs.Agreement
import RecordMapper.Proofs.Value.Literal

/-!
Reading literals. `readLiteral` takes one literal from the start of a text: a quoted string,
a list in brackets, the members of an object in braces, or a token, which is a word, a
number or a record identifier. It gives back every value whose literal was written, with a
string in the place of each timestamp (`readLiteral_append`).
-/

namespace RecordMapper.Value

open Text (Reader after? EndsToken)
open Text.Reader

mutual

/-- The value with each timestamp as the string of its text in UTC. -/
def timesAsText : Value → Value
  | .timestamp t =>
    match t.utcText? with
    | some text => .string text
    | none => .timestamp t
  | .array items => .array (itemsTimesAsText items)
  | .object members => .object (membersTimesAsText members)
  | value => value

/-- The items with each timestamp in them as a string. -/
def itemsTimesAsText : List Value → List Value
  | [] => []
  | item :: rest => timesAsText item :: itemsTimesAsText rest

/-- The members with each timestamp in their values as a string. -/
def membersTimesAsText : List (String × Value) → List (String × Value)
  | [] => []
  | (name, value) :: rest => (name, timesAsText value) :: membersTimesAsText rest

end

theorem timesAsText_timestamp {t : Timestamp} {utc : String} (shown : t.utcText? = some utc) :
    timesAsText (.timestamp t) = .string utc := by
  show (match t.utcText? with
    | some text => Value.string text
    | none => .timestamp t) = .string utc
  rw [shown]

/-- The characters of words, numbers and record identifiers. -/
def isTokenChar (c : Char) : Bool := Identifier.isKeyChar c || c = ':' || c = '.' || c = '-'

/-- The value that a number stands for: with a point or an exponent it is a double. -/
def ofNumber? (token : List Char) : Option Value :=
  if '.' ∈ token ∨ 'e' ∈ token then (Binary64.ofText? (String.ofList token)).map .float
  else (Text.integer? token).bind ofInt?

/-- The value that a token stands for. -/
def ofToken? (token : List Char) : Option Value :=
  if token = "null".toList then some .null
  else if token = "true".toList then some (.bool true)
  else if token = "false".toList then some (.bool false)
  else if ':' ∈ token then (RecordId.ofText? (String.ofList token)).map .record
  else if token.all Binary64.isNumberChar then ofNumber? token
  else none

/-- Reads a literal in which lists and objects are nested less deep than the bound. -/
def readNested : Nat → Reader Value
  | 0 => fun _ => none
  | depth + 1 => fun text =>
    match text with
    | '"' :: _ => (quotedText text).map fun (s, rest) => (.string s, rest)
    | '[' :: _ =>
      (bracketed "[" "]" (readNested depth) text).map fun (items, rest) => (.array items, rest)
    | '\x7b' :: _ =>
      (bracketed "\x7b" "\x7d" (pair quotedText ":" (readNested depth)) text).map
        fun (members, rest) => (.object members, rest)
    | _ => token isTokenChar ofToken? text

/-- Reads a literal: no text nests deeper than it is long. -/
def readLiteral : Reader Value := fun text => readNested (text.length + 1) text

/-- The rest of a text after a literal: nothing, or a comma, a closing bracket or brace, a
semicolon or a blank comes first. -/
def EndsLiteral (rest : List Char) : Prop := ∀ c ∈ rest.head?, c ∈ [',', ']', '\x7d', ';', ' ']

/-! ## Tokens -/

theorem endsToken_of_endsLiteral {rest : List Char} (ended : EndsLiteral rest) :
    EndsToken isTokenChar rest := by
  intro c next
  have stop := ended c next
  simp only [List.mem_cons, List.not_mem_nil, or_false] at stop
  rcases stop with rfl | rfl | rfl | rfl | rfl
  all_goals rfl

theorem isTokenChar_of_isNumberChar {c : Char} (number : Binary64.isNumberChar c) :
    isTokenChar c := by
  simp only [Binary64.isNumberChar, Bool.or_eq_true, decide_eq_true_eq] at number
  rcases number with ((digit | rfl) | rfl) | rfl
  · simp [isTokenChar, Identifier.isKeyChar, Char.isAlphanum, digit]
  all_goals rfl

/-- A token of the characters of numbers is no word and no record identifier. -/
theorem ofToken?_number {token : List Char} (all : ∀ c ∈ token, Binary64.isNumberChar c) :
    ofToken? token = ofNumber? token := by
  have without {c : Char} (other : Binary64.isNumberChar c = false) : c ∉ token :=
    Binary64.not_mem_of_isNumberChar all other
  have noWord {word : String} {c : Char} (letter : c ∈ word.toList)
      (other : Binary64.isNumberChar c = false) : token ≠ word.toList := by
    rintro rfl
    exact without other letter
  have noNull : token ≠ "null".toList := noWord (c := 'n') (by decide) rfl
  have noTrue : token ≠ "true".toList := noWord (c := 't') (by decide) rfl
  have noFalse : token ≠ "false".toList := noWord (c := 'f') (by decide) rfl
  have noColon : ':' ∉ token := without rfl
  have number : token.all Binary64.isNumberChar := List.all_eq_true.2 all
  rw [ofToken?, if_neg noNull, if_neg noTrue, if_neg noFalse, if_neg noColon, if_pos number]

theorem isNumberChar_of_mem_int {n : Int} {c : Char} (mem : c ∈ (toString n).toList) :
    Binary64.isNumberChar c := by
  rcases Text.mem_int mem with digit | rfl
  · exact Binary64.isNumberChar_of_isDigit digit
  · rfl

theorem ofToken?_int (n : Int) (range : -9223372036854775808 ≤ n ∧ n < 9223372036854775808) :
    ofToken? (toString n).toList = some (.int n range) := by
  have whole : ¬('.' ∈ (toString n).toList ∨ 'e' ∈ (toString n).toList) := by
    rintro (point | exponent)
    · exact absurd (Text.mem_int point) (by decide)
    · exact absurd (Text.mem_int exponent) (by decide)
  rw [ofToken?_number fun c mem => isNumberChar_of_mem_int mem, ofNumber?, if_neg whole,
    Text.integer?_toString, Option.bind_some, ofInt?, dif_pos range]

theorem ofToken?_float (x : Binary64.Finite) :
    ofToken? (Binary64.Layout.plain.write x).toList = some (.float (.finite x)) := by
  rw [ofToken?_number (Binary64.Layout.plain_write_chars x), ofNumber?,
    if_pos (Binary64.Layout.write_shows_float _ x), String.ofList_toList, Binary64.ofText?_write]
  rfl

theorem mem_colon (id : RecordId) : ':' ∈ id.text.toList := by
  rcases Identifier.isRecordKey_iff.1 id.isRecordKey with ⟨table, key, split, -⟩
  rw [split]
  exact List.mem_append_right _ List.mem_cons_self

theorem ofToken?_record (id : RecordId) : ofToken? id.text.toList = some (.record id) := by
  have colon := mem_colon id
  have noWord {word : String} (plain : ':' ∉ word.toList) : id.text.toList ≠ word.toList := by
    intro same
    rw [same] at colon
    exact plain colon
  rw [ofToken?, if_neg (noWord (by decide)), if_neg (noWord (by decide)),
    if_neg (noWord (by decide)), if_pos colon, String.ofList_toList, RecordId.ofText?_text]
  rfl

theorem isTokenChar_of_mem_recordId {id : RecordId} {c : Char} (mem : c ∈ id.text.toList) :
    isTokenChar c := by
  rcases Identifier.mem_recordKey id.isRecordKey mem with key | rfl
  · simp [isTokenChar, key]
  · rfl

/-! ## Literals -/

/-- What starts with neither a quote nor an opening bracket or brace is a token. -/
theorem readNested_token {c : Char} (plain : c ∉ ['"', '[', '\x7b']) (depth : Nat)
    (rest : List Char) :
    readNested (depth + 1) (c :: rest) = token isTokenChar ofToken? (c :: rest) := by
  simp only [List.mem_cons, List.not_mem_nil, or_false, not_or] at plain
  rcases plain with ⟨noQuote, noBracket, noBrace⟩
  unfold readNested
  split
  · rename_i same
    exact absurd (List.cons.inj same).1 noQuote
  · rename_i same
    exact absurd (List.cons.inj same).1 noBracket
  · rename_i same
    exact absurd (List.cons.inj same).1 noBrace
  · rfl

/-- A closing bracket or brace starts no literal. -/
theorem readNested_closing {closing : Char} (plain : closing ∉ ['"', '[', '\x7b'])
    (outside : isTokenChar closing = false) (depth : Nat) (rest : List Char) :
    readNested depth (closing :: rest) = none := by
  cases depth with
  | zero => rfl
  | succ depth =>
    have empty : ofToken? [] = none := by rfl
    rw [readNested_token plain]
    simp [token, outside, empty]

theorem reads_nested_token {text : String} {value : Value} (nonempty : text.toList ≠ [])
    (inside : ∀ c ∈ text.toList, isTokenChar c) (made : ofToken? text.toList = some value)
    (depth : Nat) : Reads (readNested (depth + 1)) EndsLiteral text value := by
  intro rest ended
  have taken := reads_token inside made rest (endsToken_of_endsLiteral ended)
  rcases List.exists_cons_of_ne_nil nonempty with ⟨c, tail, split⟩
  have tokenChar : isTokenChar c := inside c (split ▸ List.mem_cons_self)
  have plain : c ∉ ['"', '[', '\x7b'] := by
    intro mem
    simp only [List.mem_cons, List.not_mem_nil, or_false] at mem
    rcases mem with rfl | rfl | rfl
    all_goals exact absurd tokenChar (by decide)
  rw [split, List.cons_append] at taken ⊢
  rw [readNested_token plain, taken]

/-- The three words are read. -/
theorem reads_nested_word {text : String} {value : Value} (nonempty : text.toList ≠ [])
    (inside : text.toList.all isTokenChar) (made : ofToken? text.toList = some value)
    (depth : Nat) :
    Reads (readNested (depth + 1)) EndsLiteral text value :=
  reads_nested_token nonempty (List.all_eq_true.1 inside) made depth

theorem reads_nested_string (s : String) (depth : Nat) :
    Reads (readNested (depth + 1)) EndsLiteral (Text.quoted s) (.string s) := by
  intro rest ended
  have taken := reads_quotedText s EndsLiteral rest ended
  rw [Text.quoted_append] at taken ⊢
  simp only [readNested, taken, Option.map_some]

/-- The texts of which a joined text consists are no longer than the whole. -/
theorem length_le_of_mem_intercalate {separator text : String} {texts : List String}
    (mem : text ∈ texts) :
    text.toList.length ≤ (separator.intercalate texts).toList.length := by
  induction texts with
  | nil => cases mem
  | cons first texts ih =>
    cases texts with
    | nil =>
      obtain rfl := List.mem_singleton.1 mem
      rw [String.intercalate_singleton]
    | cons second texts =>
      rw [String.intercalate_cons_cons, String.toList_append, String.toList_append,
        List.length_append, List.length_append]
      rcases List.mem_cons.1 mem with rfl | mem
      · omega
      · have inner := ih mem
        omega

/-- What stands between brackets is shorter than the whole. -/
theorem length_lt_of_mem_bracketed {texts : List String} {opening closing : String} {depth : Nat}
    (nonempty : opening ≠ "")
    (enough : (opening ++ ",".intercalate texts ++ closing).toList.length < depth + 1) :
    ∀ text ∈ texts, text.toList.length < depth := by
  intro text mem
  have inner : text.toList.length ≤ (",".intercalate texts).toList.length :=
    length_le_of_mem_intercalate mem
  have lead : opening.toList.length ≠ 0 := by
    rw [ne_eq, List.length_eq_zero_iff, String.toList_eq_nil_iff]
    exact nonempty
  rw [String.toList_append, String.toList_append, List.length_append,
    List.length_append] at enough
  omega

theorem endsLiteral_cons {c : Char} (stop : c ∈ [',', ']', '\x7d', ';', ' '])
    (rest : List Char) : EndsLiteral (c :: rest) := by
  rintro d next
  rw [List.head?_cons, Option.mem_some_iff] at next
  exact next ▸ stop

theorem reads_nested_array {depth : Nat} {texts : List String} {items : List Value}
    (related : List.Forall₂ (Reads (readNested depth) EndsLiteral) texts items) :
    Reads (readNested (depth + 1)) EndsLiteral ("[" ++ ",".intercalate texts ++ "]")
      (.array items) := by
  intro rest ended
  have refused : ∀ rest, readNested depth ("]".toList ++ rest) = none := fun rest =>
    readNested_closing (by decide) (by rfl) depth rest
  have comma : ∀ rest, EndsLiteral (",".toList ++ rest) := endsLiteral_cons (by decide)
  have close : ∀ rest, EndsLiteral ("]".toList ++ rest) := endsLiteral_cons (by decide)
  have taken : bracketed "[" "]" (readNested depth) _ = some (items, rest) :=
    reads_bracketed related comma close (fun _ => rfl) refused EndsLiteral rest ended
  obtain ⟨tail, split⟩ :
      ∃ tail, ("[" ++ ",".intercalate texts ++ "]").toList ++ rest = '[' :: tail :=
    ⟨(",".intercalate texts).toList ++ ']' :: rest, by simp⟩
  rw [split] at taken ⊢
  simp only [readNested, taken, Option.map_some]

theorem reads_nested_object {depth : Nat} {texts : List String}
    {members : List (String × Value)}
    (related : List.Forall₂ (Reads (pair quotedText ":" (readNested depth)) EndsLiteral)
      texts members) :
    Reads (readNested (depth + 1)) EndsLiteral ("\x7b" ++ ",".intercalate texts ++ "\x7d")
      (.object members) := by
  intro rest ended
  have refused : ∀ rest, pair quotedText ":" (readNested depth) ("\x7d".toList ++ rest) = none :=
    fun _ => rfl
  have comma : ∀ rest, EndsLiteral (",".toList ++ rest) := endsLiteral_cons (by decide)
  have close : ∀ rest, EndsLiteral ("\x7d".toList ++ rest) := endsLiteral_cons (by decide)
  have taken : bracketed "\x7b" "\x7d" (pair quotedText ":" (readNested depth)) _ =
      some (members, rest) :=
    reads_bracketed related comma close (fun _ => rfl) refused EndsLiteral rest ended
  obtain ⟨tail, split⟩ :
      ∃ tail, ("\x7b" ++ ",".intercalate texts ++ "\x7d").toList ++ rest = '\x7b' :: tail :=
    ⟨(",".intercalate texts).toList ++ '\x7d' :: rest, by simp⟩
  rw [split] at taken ⊢
  simp only [readNested, taken, Option.map_some]

mutual

/-- A literal is read back, with a string in the place of each timestamp, if the bound on
the depth exceeds its length. -/
theorem reads_nested : ∀ (value : Value) (text : String) (depth : Nat),
    value.literal = .ok text → text.toList.length < depth →
      Reads (readNested depth) EndsLiteral text value.timesAsText
  | _, _, 0, _, enough => absurd enough (Nat.not_lt_zero _)
  | .null, text, depth + 1, encoded, _ => by
    cases encoded
    exact reads_nested_word (by decide) rfl rfl depth
  | .bool true, text, depth + 1, encoded, _ => by
    cases encoded
    exact reads_nested_word (by decide) rfl rfl depth
  | .bool false, text, depth + 1, encoded, _ => by
    cases encoded
    exact reads_nested_word (by decide) rfl rfl depth
  | .int n range, text, depth + 1, encoded, _ => by
    cases encoded
    exact reads_nested_token (Text.int_ne_nil n)
      (fun c mem => isTokenChar_of_isNumberChar (isNumberChar_of_mem_int mem))
      (ofToken?_int n range) depth
  | .float x, text, depth + 1, encoded, _ => by
    rcases floatLiteral_eq_ok encoded with ⟨x, rfl, rfl⟩
    exact reads_nested_token (Binary64.Layout.write_ne_nil .plain x)
      (fun c mem => isTokenChar_of_isNumberChar (Binary64.Layout.plain_write_chars x c mem))
      (ofToken?_float x) depth
  | .string s, text, depth + 1, encoded, _ => by
    cases encoded
    exact reads_nested_string s depth
  | .timestamp t, text, depth + 1, encoded, _ => by
    rcases timestampLiteral_eq_ok encoded with ⟨utc, shown, rfl⟩
    rw [timesAsText_timestamp shown]
    exact reads_nested_string utc depth
  | .record id, text, depth + 1, encoded, _ => by
    cases encoded
    exact reads_nested_token (List.ne_nil_of_mem (mem_colon id))
      (fun c mem => isTokenChar_of_mem_recordId mem) (ofToken?_record id) depth
  | .array items, text, depth + 1, encoded, enough => by
    obtain ⟨texts, inside, encoded⟩ := exists_of_bind_eq_ok encoded
    cases encoded
    have shorter := length_lt_of_mem_bracketed (by decide) enough
    exact reads_nested_array (reads_nested_items items texts depth inside shorter)
  | .object members, text, depth + 1, encoded, enough => by
    obtain ⟨texts, inside, encoded⟩ := exists_of_bind_eq_ok encoded
    cases encoded
    have shorter := length_lt_of_mem_bracketed (by decide) enough
    exact reads_nested_object (reads_nested_members members texts depth inside shorter)

/-- The literals of items are read back one by one. -/
theorem reads_nested_items : ∀ (items : List Value) (texts : List String) (depth : Nat),
    itemLiterals items = .ok texts → (∀ text ∈ texts, text.toList.length < depth) →
      List.Forall₂ (Reads (readNested depth) EndsLiteral) texts (itemsTimesAsText items)
  | [], texts, depth, encoded, _ => by
    cases encoded
    exact .nil
  | item :: items, texts, depth, encoded, enough => by
    obtain ⟨text, first, encoded⟩ := exists_of_bind_eq_ok encoded
    obtain ⟨others, later, encoded⟩ := exists_of_bind_eq_ok encoded
    cases encoded
    exact .cons (reads_nested item text depth first (enough _ List.mem_cons_self))
      (reads_nested_items items others depth later fun other mem =>
        enough other (List.mem_cons_of_mem _ mem))

/-- The texts of members are read back one by one. -/
theorem reads_nested_members : ∀ (members : List (String × Value)) (texts : List String)
    (depth : Nat), memberLiterals members = .ok texts →
      (∀ text ∈ texts, text.toList.length < depth) →
      List.Forall₂ (Reads (pair quotedText ":" (readNested depth)) EndsLiteral) texts
        (membersTimesAsText members)
  | [], texts, depth, encoded, _ => by
    cases encoded
    exact .nil
  | (name, value) :: members, texts, depth, encoded, enough => by
    obtain ⟨text, first, encoded⟩ := exists_of_bind_eq_ok encoded
    obtain ⟨others, later, encoded⟩ := exists_of_bind_eq_ok encoded
    cases encoded
    have whole := enough _ List.mem_cons_self
    have shorter : text.toList.length < depth := by
      rw [String.toList_append, List.length_append] at whole
      omega
    have named := reads_quotedText name fun _ => True
    exact .cons (reads_pair named (fun _ => trivial) (reads_nested value text depth first shorter))
      (reads_nested_members members others depth later fun other mem =>
        enough other (List.mem_cons_of_mem _ mem))

end

theorem reads_literal {value : Value} {text : String} (encoded : value.literal = .ok text) :
    Reads readLiteral EndsLiteral text value.timesAsText := by
  intro rest ended
  have enough : text.toList.length < (text.toList ++ rest).length + 1 := by
    rw [List.length_append]
    omega
  exact reads_nested value text _ encoded enough rest ended

/-- Reading takes a literal off any text in which it ends, gives its value with a string in
the place of each timestamp, and leaves what follows. Hence values with one literal are
equal up to these strings. -/
theorem readLiteral_append {value : Value} {text : String} (encoded : value.literal = .ok text) :
    (∀ rest, EndsLiteral rest →
      readLiteral (text.toList ++ rest) = some (value.timesAsText, rest)) ∧
    ∀ other : Value, other.literal = .ok text → other.timesAsText = value.timesAsText := by
  refine ⟨reads_literal encoded, fun other same => ?_⟩
  have ended : EndsLiteral [] := by
    intro c next
    cases next
  have first := reads_literal encoded [] ended
  have second := reads_literal same [] ended
  rw [first] at second
  exact (congrArg Prod.fst (Option.some.inj second)).symm

/-- A list with a record identifier that starts like a word, and a string that tries to close
the list. -/
theorem readLiteral_array :
    readLiteral "[-1,null:x,\"\\\"];\"] AND".toList = some
      (.array [.int (-1) (by decide), .record ⟨"null:x", by rfl⟩, .string "\"];"],
        " AND".toList) := by
  let value : Value :=
    .array [.int (-1) (by decide), .record ⟨"null:x", by rfl⟩, .string "\"];"]
  have encoded : value.literal = .ok "[-1,null:x,\"\\\"];\"]" := by rfl
  have ended : EndsLiteral " AND".toList := endsLiteral_cons (by decide) _
  exact (readLiteral_append encoded).1 " AND".toList ended

end RecordMapper.Value
