import RecordMapper.Proofs.Value.Reader

/-!
Record identifiers in literals. They are the only tokens outside string literals that hold a
colon after their first character. `quoteRecords` reads each of them as a string, by putting
quotes around it, and leaves all else as it is; what it makes of a literal is put together
from what it makes of the parts (`Quotes`).
-/

namespace RecordMapper.Value

open Text.Quoted (Scan)

/-- The text of a token as a string, if the token is a record identifier. -/
def quoteToken (token : List Char) : List Char :=
  if Identifier.isRecordKey token then (Text.quoted (String.ofList token)).toList else token

/-- Quotes the record identifiers outside string literals. A token goes on as long as the
characters of keys and, but for its start, colons do; the part of it that has been read
waits until it ends. -/
def quoteFrom : Scan → List Char → List Char → List Char
  | _, token, [] => quoteToken token
  | .outside, token, c :: rest =>
    if Identifier.isKeyChar c ∨ c = ':' ∧ token ≠ [] then quoteFrom .outside (token ++ [c]) rest
    else quoteToken token ++ c :: quoteFrom (Scan.outside.step c) [] rest
  | state, token, c :: rest => c :: quoteFrom (state.step c) token rest

/-- The text with each bare record identifier as a string. -/
def quoteRecords (text : String) : String := String.ofList (quoteFrom .outside [] text.toList)

/-- Quoting the records of the text gives the other one, wherever the text is a literal that
ends. -/
def Quotes (text shown : String) : Prop :=
  ∀ rest, EndsLiteral rest →
    quoteFrom .outside [] (text.toList ++ rest) =
      shown.toList ++ quoteFrom .outside [] rest

/-! ## Tokens -/

/-- A token without a colon is no record identifier. -/
theorem quoteToken_of_no_colon {token : List Char} (noColon : ':' ∉ token) :
    quoteToken token = token := by
  rw [quoteToken, if_neg]
  intro record
  rcases Identifier.isRecordKey_iff.1 record with ⟨table, key, rfl, -⟩
  exact noColon (List.mem_append_right _ List.mem_cons_self)

/-- A character that is part of no token ends the token before it. -/
theorem quoteFrom_cons {c : Char} (other : Identifier.isKeyChar c = false) (noColon : c ≠ ':')
    (noQuote : c ≠ '"') (token rest : List Char) :
    quoteFrom .outside token (c :: rest) =
      quoteToken token ++ c :: quoteFrom .outside [] rest := by
  simp [quoteFrom, other, noColon, noQuote, Scan.step]

/-- Where a literal ends, a token ends. -/
theorem quoteFrom_endsLiteral {rest : List Char} (ended : EndsLiteral rest) (token : List Char) :
    quoteFrom .outside token rest = quoteToken token ++ quoteFrom .outside [] rest := by
  have none : quoteToken [] = [] := quoteToken_of_no_colon List.not_mem_nil
  cases rest with
  | nil =>
    have done (token : List Char) : quoteFrom .outside token [] = quoteToken token := rfl
    rw [done, done, none, List.append_nil]
  | cons c rest =>
    have next (token : List Char) : quoteFrom .outside token (c :: rest) =
        quoteToken token ++ c :: quoteFrom .outside [] rest := by
      have stop := ended c rfl
      simp only [List.mem_cons, List.not_mem_nil, or_false] at stop
      rcases stop with rfl | rfl | rfl | rfl | rfl
      all_goals exact quoteFrom_cons rfl (by decide) (by decide) token rest
    rw [next, next, none, List.nil_append]

/-- The text is read on to the end of the token. -/
theorem quoteFrom_token {token text : List Char}
    (inside : ∀ c ∈ text, Identifier.isKeyChar c ∨ c = ':')
    (start : (token ++ text).head? ≠ some ':') (rest : List Char) :
    quoteFrom .outside token (text ++ rest) = quoteFrom .outside (token ++ text) rest := by
  induction text generalizing token with
  | nil => rw [List.append_nil, List.nil_append]
  | cons c text ih =>
    obtain ⟨first, others⟩ := List.forall_mem_cons.1 inside
    have on : Identifier.isKeyChar c ∨ c = ':' ∧ token ≠ [] := by
      refine first.imp_right fun colon => ⟨colon, ?_⟩
      rintro rfl
      exact start (congrArg some colon)
    have same : token ++ c :: text = token ++ [c] ++ text := by simp
    rw [same] at start ⊢
    rw [List.cons_append, quoteFrom, if_pos on, ih others start]

theorem quotes_record (id : RecordId) : Quotes id.text (Text.quoted id.text) := by
  intro rest ended
  have inside : ∀ c ∈ id.text.toList, Identifier.isKeyChar c ∨ c = ':' := fun c mem =>
    Identifier.mem_recordKey id.isRecordKey mem
  have start : ([] ++ id.text.toList).head? ≠ some ':' := by
    rcases Identifier.isRecordKey_iff.1 id.isRecordKey with ⟨table, key, split, tableKey, -⟩
    rw [split, List.nil_append]
    cases table with
    | nil => cases tableKey
    | cons c table =>
      rintro colon
      obtain rfl := Option.some.inj colon
      exact absurd (Identifier.isKeyChar_of_mem_key tableKey List.mem_cons_self) (by decide)
  rw [quoteFrom_token inside start, List.nil_append, quoteFrom_endsLiteral ended, quoteToken,
    if_pos id.isRecordKey, String.ofList_toList]

/-- The induction is on the text; the token that waits has no colon either, so it is put out
as it is. -/
theorem quoteFrom_plain {token text rest : List Char} (noColon : ':' ∉ token ++ text)
    (noQuote : '"' ∉ text) (ended : EndsLiteral rest) :
    quoteFrom .outside token (text ++ rest) = token ++ text ++ quoteFrom .outside [] rest := by
  induction text generalizing token with
  | nil =>
    rw [List.append_nil] at noColon ⊢
    rw [List.nil_append, quoteFrom_endsLiteral ended, quoteToken_of_no_colon noColon]
  | cons c text ih =>
    obtain ⟨different, later⟩ := not_or.1 (mt List.mem_cons.2 noQuote)
    obtain ⟨before, colon⟩ := not_or.1 (mt List.mem_append.2 noColon)
    obtain ⟨head, tail⟩ := not_or.1 (mt List.mem_cons.2 colon)
    cases key : Identifier.isKeyChar c with
    | true =>
      have same : token ++ c :: text = token ++ [c] ++ text := by simp
      rw [same] at noColon ⊢
      rw [List.cons_append, quoteFrom, if_pos (.inl key), ih noColon later]
    | false =>
      rw [List.cons_append, quoteFrom_cons key (Ne.symm head) (Ne.symm different),
        quoteToken_of_no_colon before, ih tail later]
      simp

/-- A text without colons and quotes, such as a number or a word, stays as it is. -/
theorem quotes_plain {text : String} (noColon : ':' ∉ text.toList) (noQuote : '"' ∉ text.toList) :
    Quotes text text := by
  intro rest ended
  have whole : ':' ∉ [] ++ text.toList := noColon
  exact quoteFrom_plain whole noQuote ended

/-! ## String literals -/

theorem quoteFrom_escape (content rest : List Char) :
    quoteFrom .inside [] (Text.Quoted.escape content ++ rest) =
      Text.Quoted.escape content ++ quoteFrom .inside [] rest := by
  induction content with
  | nil => rfl
  | cons c content ih =>
    by_cases special : Text.Quoted.isSpecial c
    · have quoteOrBackslash : c = '"' ∨ c = '\\' := by
        simpa [Text.Quoted.isSpecial] using special
      simp [Text.Quoted.escape, special, quoteFrom, Scan.step, ih]
    · have notQuote : c ≠ '"' := by rintro rfl; exact special rfl
      have notBackslash : c ≠ '\\' := by rintro rfl; exact special rfl
      simp [Text.Quoted.escape, special, quoteFrom, Scan.step, notQuote, notBackslash, ih]

/-- What stands in a string literal stays as it is. -/
theorem quoteFrom_quoted (s : String) (rest : List Char) :
    quoteFrom .outside [] ((Text.quoted s).toList ++ rest) =
      (Text.quoted s).toList ++ quoteFrom .outside [] rest := by
  have opening (rest : List Char) :
      quoteFrom .outside [] ('"' :: rest) = '"' :: quoteFrom .inside [] rest := rfl
  have closing (rest : List Char) :
      quoteFrom .inside [] ('"' :: rest) = '"' :: quoteFrom .outside [] rest := rfl
  rw [Text.quoted_append, Text.quoted_append, opening, quoteFrom_escape, closing]

theorem quotes_string (s : String) : Quotes (Text.quoted s) (Text.quoted s) :=
  fun rest _ => quoteFrom_quoted s rest

/-! ## Lists and objects -/

/-- The colon after a name is no part of a token. -/
theorem Quotes.member {text shown : String} (quotes : Quotes text shown) (name : String) :
    Quotes (Text.quoted name ++ ":" ++ text) (Text.quoted name ++ ":" ++ shown) := by
  intro rest ended
  have split (text : String) (rest : List Char) : (Text.quoted name ++ ":" ++ text).toList ++ rest =
      (Text.quoted name).toList ++ ':' :: (text.toList ++ rest) := by simp
  have colon (rest : List Char) :
      quoteFrom .outside [] (':' :: rest) = ':' :: quoteFrom .outside [] rest := rfl
  rw [split, split, quoteFrom_quoted, colon, quotes rest ended]

theorem quotes_intercalate {texts shown : List String} (related : List.Forall₂ Quotes texts shown) :
    Quotes (",".intercalate texts) (",".intercalate shown) := by
  induction related with
  | nil => exact fun _ _ => rfl
  | @cons text other texts others first rest ih =>
    cases rest with
    | nil =>
      rw [String.intercalate_singleton, String.intercalate_singleton]
      exact first
    | @cons second _ texts _ _ _ =>
      intro tail ended
      rw [String.intercalate_cons_cons, String.intercalate_cons_cons]
      have split (text texts : String) (tail : List Char) : (text ++ "," ++ texts).toList ++ tail =
          text.toList ++ ',' :: (texts.toList ++ tail) := by simp
      have comma (rest : List Char) :
          quoteFrom .outside [] (',' :: rest) = ',' :: quoteFrom .outside [] rest := rfl
      rw [split, split, first _ (endsLiteral_cons (by decide) _), comma, ih tail ended]

theorem quotes_bracketed {opening closing text shown : String} (opens : opening ∈ ["[", "\x7b"])
    (closes : closing ∈ ["]", "\x7d"]) (quotes : Quotes text shown) :
    Quotes (opening ++ text ++ closing) (opening ++ shown ++ closing) := by
  intro rest _
  simp only [List.mem_cons, List.not_mem_nil, or_false] at opens closes
  have opened (rest : List Char) : quoteFrom .outside [] (opening.toList ++ rest) =
      opening.toList ++ quoteFrom .outside [] rest := by
    rcases opens with rfl | rfl <;> rfl
  have closed : quoteFrom .outside [] (closing.toList ++ rest) =
      closing.toList ++ quoteFrom .outside [] rest := by
    rcases closes with rfl | rfl <;> rfl
  have ended : EndsLiteral (closing.toList ++ rest) := by
    rcases closes with rfl | rfl
    all_goals exact endsLiteral_cons (by decide) rest
  simp only [String.toList_append, List.append_assoc]
  rw [opened, quotes _ ended, closed]

/-- What stands alone has its records quoted as it has in front of anything else. -/
theorem Quotes.quoteRecords_eq {text shown : String} (quotes : Quotes text shown) :
    quoteRecords text = shown := by
  have ended : EndsLiteral [] := by simp [EndsLiteral]
  have none : quoteFrom .outside [] [] = [] := quoteToken_of_no_colon List.not_mem_nil
  have whole := quotes [] ended
  rw [List.append_nil, none, List.append_nil] at whole
  rw [quoteRecords, whole, String.ofList_toList]

end RecordMapper.Value
