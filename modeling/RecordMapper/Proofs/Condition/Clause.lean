import RecordMapper.Proofs.Condition.Reader
import RecordMapper.Proofs.Statement.Operation

/-!
What the conditions of a filter mean. The clause of a filter reads as a condition in which
the equations are factors of the first alternative of the filter's own condition, and of no
other (`reads_equations`). So it says that all equations and the condition are true just as far
as every later alternative entails the equations (`Operation.clause_holds_iff`): a condition with
an `OR` outside parentheses can let a record pass that violates an equation.
-/

namespace RecordMapper

open Text.Quoted (Scan)

/-! ## Words of equations -/

namespace Condition

theorem not_isSeparator_of_isBareChar {c : Char} (bare : Value.isBareChar c) :
    ¬isSeparator c := by
  intro separator
  simp only [isSeparator, Char.isWhitespace, Bool.or_eq_true, decide_eq_true_eq] at separator
  rcases separator with ((((rfl | rfl) | rfl) | rfl) | rfl) | rfl
  all_goals exact absurd bare (by decide)

theorem isWord_fieldPath {text : List Char} (valid : Identifier.isFieldPath text) :
    IsWord text := by
  apply isWord_of_plain
  · rintro rfl
    exact absurd valid (by decide)
  · intro c mem
    have bare : Value.isBareChar c := by
      rcases Identifier.mem_fieldPath valid mem with key | rfl
      · exact Value.isBareChar_of_isKeyChar key
      · rfl
    exact ⟨Value.ne_quote_of_isBareChar bare, not_isSeparator_of_isBareChar bare⟩

theorem foreign_of_isDigit {c : Char} (digit : c.isDigit) : c.toUpper ∉ "ANDOR".toList := by
  have small := (Char.isDigit_iff_toNat.1 digit).2
  have same : c.toUpper = c := by
    refine dif_neg fun lower => absurd (UInt32.le_iff_toNat_le.1 lower.1) (Nat.not_le.2 ?_)
    exact Nat.lt_of_le_of_lt small (by decide)
  rw [same]
  intro mem
  have letters : "ANDOR".toList.all fun d => !d.isDigit := by decide
  have letter := List.all_eq_true.1 letters c mem
  rw [digit] at letter
  cases letter

/-- Some character of a literal stands in no connective. -/
theorem exists_foreign_of_literal {value : Value} {text : String}
    (written : value.literal = .ok text) : ∃ c ∈ text.toList, c.toUpper ∉ "ANDOR".toList := by
  cases value with
  | null =>
    cases written
    exact ⟨'u', by decide, by decide⟩
  | bool b =>
    cases written
    cases b with
    | true => exact ⟨'u', by decide, by decide⟩
    | false => exact ⟨'s', by decide, by decide⟩
  | int n _ =>
    cases written
    obtain ⟨c, mem⟩ := List.exists_mem_of_ne_nil _ (Text.int_ne_nil n)
    refine ⟨c, mem, ?_⟩
    rcases Text.mem_int mem with digit | rfl
    · exact foreign_of_isDigit digit
    · decide
  | float x =>
    obtain ⟨y, -, rfl⟩ := Value.floatLiteral_eq_ok written
    rcases Binary64.Layout.plain.write_shows_float y with point | exponent
    · exact ⟨'.', point, by decide⟩
    · exact ⟨'e', exponent, by decide⟩
  | string s =>
    cases written
    exact ⟨'"', by simp [Text.quoted], by decide⟩
  | timestamp t =>
    obtain ⟨utc, -, rfl⟩ := Value.timestampLiteral_eq_ok written
    exact ⟨'"', by simp [Text.quoted], by decide⟩
  | array items =>
    obtain ⟨texts, -, written⟩ := exists_of_bind_eq_ok written
    cases written
    exact ⟨'[', by simp, by decide⟩
  | object members =>
    obtain ⟨texts, -, written⟩ := exists_of_bind_eq_ok written
    cases written
    exact ⟨'\x7b', by simp, by decide⟩
  | record id =>
    cases written
    obtain ⟨table, key, split, -⟩ := Identifier.isRecordKey_iff.1 id.isRecordKey
    exact ⟨':', by rw [split]; simp, by decide⟩

theorem isWord_literal {value : Value} {text : String} (written : value.literal = .ok text) :
    IsWord text.toList := by
  have shape := value.literal_self fun _ => not_isSeparator_of_isBareChar
  rw [written] at shape
  obtain ⟨c, mem, -⟩ := exists_foreign_of_literal written
  refine ⟨List.ne_nil_of_mem mem, shape.closed_left, fun d shown => ?_⟩
  rcases shape.bare d shown with rfl | foreign
  · decide
  · exact foreign

/-- The text is that of a condition that is true. -/
def IsTrue (truth : Truth) (text : String) : Prop :=
  ∃ c, ofText? text = some c ∧ c.holds truth

theorem isTrue_iff {truth : Truth} {text : String} {c : Condition}
    (read : ofText? text = some c) : IsTrue truth text ↔ c.holds truth := by
  unfold IsTrue
  rw [read]
  simp

end Condition

namespace Request

open Condition

/-- An equation is three words, of which the last is no connective. -/
theorem equation_eq_words {entry : String × Value} {text : String}
    (written : equation entry = .ok text) :
    ∃ name literal, text.toList = name ++ ' ' :: (['='] ++ ' ' :: literal) ∧
      IsWord name ∧ IsWord literal ∧ Connective.ofWord? literal = none := by
  obtain ⟨field, checked, written⟩ := exists_of_bind_eq_ok written
  obtain ⟨literal, encoded, written⟩ := exists_of_bind_eq_ok written
  cases written
  obtain ⟨rfl, valid⟩ := Validation.fieldPath_eq_ok checked
  obtain ⟨c, mem, foreign⟩ := exists_foreign_of_literal encoded
  refine ⟨entry.1.toList, literal.toList, by simp, isWord_fieldPath valid,
    isWord_literal encoded, ?_⟩
  exact Connective.ofWord?_eq_none mem foreign

/-- An equation is an atomic condition, and one that becomes a factor of the first alternative
of whatever condition it is joined to. -/
theorem reads_equation_and {entry : String × Value} {text : String}
    (written : equation entry = .ok text) :
    ∃ atom, ofText? text = some (.single (.single (.atom atom))) ∧
      ∀ tail, ofText? (text ++ " AND " ++ tail) =
        (ofText? tail).map fun c => c.restrict (.single (.atom atom)) := by
  obtain ⟨name, literal, spelled, nameWord, literalWord, foreign⟩ := equation_eq_words written
  have equals : IsWord ['='] := isWord_of_plain (by simp) (by simp [isSeparator])
  have conj : IsWord "AND".toList := isWord_of_plain (by simp) (by simp [isSeparator])
  have plain : ∀ word ∈ [['='], literal], Connective.ofWord? word = none :=
    List.forall_mem_cons.2 ⟨by decide, List.forall_mem_singleton.2 foreign⟩
  have closed : Scan.run .outside text.toList = .outside := by
    rw [spelled, Scan.run_append, nameWord.closed]
    exact literalWord.closed
  refine ⟨[name, ['='], literal].map Token.word, ?_, fun tail => ?_⟩
  · rw [ofText?_of_closed closed, spelled, tokens_word_blank nameWord, tokens_word_blank equals,
      tokens_word literalWord]
    exact ofTokens?_words plain
  · have joined : (text ++ " AND " ++ tail).toList = name ++ ' ' :: (['='] ++ ' ' ::
        (literal ++ ' ' :: ("AND".toList ++ ' ' :: tail.toList))) := by simp [spelled]
    have through : Scan.run .outside (text ++ " AND " ++ tail).toList =
        Scan.run .outside tail.toList := by
      rw [String.toList_append, String.toList_append, Scan.run_append, Scan.run_append, closed]
      rfl
    by_cases whole : Scan.run .outside tail.toList = .outside
    · rw [ofText?_of_closed (through.trans whole), ofText?_of_closed whole, joined,
        tokens_word_blank nameWord, tokens_word_blank equals, tokens_word_blank literalWord,
        tokens_word_blank conj]
      exact ofTokens?_and plain _
    · rw [ofText?_of_open (through ▸ whole), ofText?_of_open whole]
      rfl

/-- Equations before a text become factors of the first alternative of its condition. -/
theorem reads_equations {entries : List (String × Value)} {texts : List String}
    (written : List.Forall₂ (fun entry text => equation entry = .ok text) entries texts)
    {tail : String} {c : Condition} (read : ofText? tail = some c) :
    ∃ whole, ofText? (" AND ".intercalate (texts ++ [tail])) = some whole ∧
      whole.laterAlternatives = c.laterAlternatives ∧
      ∀ truth, whole.firstAlternative.holds truth ↔
        (∀ text ∈ texts, IsTrue truth text) ∧ c.firstAlternative.holds truth := by
  induction written with
  | nil => exact ⟨c, by simpa using read, rfl, fun truth => by simp⟩
  | @cons entry text entries texts first _ ih =>
    obtain ⟨inner, readInner, later, holds⟩ := ih
    obtain ⟨atom, readText, joins⟩ := reads_equation_and first
    refine ⟨inner.restrict (.single (.atom atom)), ?_, ?_, fun truth => ?_⟩
    · obtain ⟨second, others, split⟩ := List.exists_cons_of_ne_nil
        (List.append_ne_nil_of_right_ne_nil texts (List.cons_ne_nil tail []))
      rw [List.cons_append, split, String.intercalate_cons_cons, ← split, joins, readInner]
      rfl
    · rw [laterAlternatives_restrict, later]
    · rw [firstAlternative_restrict, Conjunction.holds_restrict, holds, List.forall_mem_cons,
        isTrue_iff readText, and_assoc]
      rfl

/-! ## Filters -/

namespace Filter

/-- All equations of the filter are true. -/
def Matched (filter : Filter) (truth : Truth) : Prop :=
  ∀ entry ∈ filter.matching, ∃ text, equation entry = .ok text ∧ IsTrue truth text

/-- All equations of the filter and its own condition are true. -/
def Met (filter : Filter) (truth : Truth) : Prop :=
  filter.Matched truth ∧ ∀ fragment ∈ filter.condition, IsTrue truth fragment.text

/-- The alternatives of the filter's own condition after the first one. -/
def laterAlternatives (filter : Filter) : List Conjunction :=
  match filter.condition.bind fun fragment => ofText? fragment.text with
  | some c => c.laterAlternatives
  | none => []

variable {filter : Filter}

theorem clause_eq_ok (equations : filter.matching ≠ []) {clause : String}
    (done : filter.clause = .ok clause) :
    ∃ texts, List.Forall₂ (fun entry text => equation entry = .ok text) filter.matching texts ∧
      clause = " WHERE " ++
        " AND ".intercalate (texts ++ filter.condition.toList.map Fragment.text) := by
  have filled : filter.isEmpty = false := by
    rw [isEmpty, List.isEmpty_eq_false_iff.2 equations, Bool.false_and]
  obtain ⟨conditions, written, done⟩ := exists_of_bind_eq_ok done
  obtain ⟨texts, encoded, written⟩ := exists_of_bind_eq_ok written
  rw [filled] at done
  cases done
  cases written
  exact ⟨texts, mapM_eq_ok_iff.1 encoded, rfl⟩

theorem matched_iff {texts : List String} {truth : Truth}
    (written : List.Forall₂ (fun entry text => equation entry = .ok text) filter.matching texts) :
    filter.Matched truth ↔ ∀ text ∈ texts, IsTrue truth text := by
  unfold Matched
  generalize filter.matching = entries at written
  induction written with
  | nil => simp
  | cons first _ ih =>
    rw [List.forall_mem_cons, List.forall_mem_cons, ih, first]
    simp

/-- A condition that begins with the equations means that the filter is met, as far as the
later alternatives of the filter's own condition entail the equations. -/
theorem holds_iff_met {own whole : Condition} {truth : Truth}
    (met : filter.Met truth ↔ filter.Matched truth ∧ own.holds truth)
    (later : whole.laterAlternatives = own.laterAlternatives)
    (first : whole.firstAlternative.holds truth ↔
      filter.Matched truth ∧ own.firstAlternative.holds truth) :
    (whole.holds truth ↔ filter.Met truth) ↔
      ∀ d ∈ own.laterAlternatives, d.holds truth → filter.Matched truth := by
  have entailed : (∀ d ∈ own.laterAlternatives, d.holds truth → filter.Matched truth) ↔
      ((∃ d ∈ own.laterAlternatives, d.holds truth) → filter.Matched truth) := by
    simp only [forall_exists_index, and_imp]
  rw [entailed, met, whole.holds_iff, own.holds_iff, first, later]
  -- Where the equations are true both sides agree; elsewhere only later alternatives count.
  by_cases matched : filter.Matched truth
  · simp [matched]
  · simp [matched]

/-- The clause of a filter with equations reads as a condition, and it means that the filter is
met as far as the later alternatives of the filter's own condition entail the equations. -/
theorem reads_clause (equations : filter.matching ≠ [])
    (wellFormed : ∀ fragment ∈ filter.condition, ∃ c, ofText? fragment.text = some c)
    {clause : String} (done : filter.clause = .ok clause) :
    ∃ text whole, clause = " WHERE " ++ text ∧ ofText? text = some whole ∧
      ∀ truth, (whole.holds truth ↔ filter.Met truth) ↔
        ∀ d ∈ filter.laterAlternatives, d.holds truth → filter.Matched truth := by
  obtain ⟨texts, written, rfl⟩ := clause_eq_ok equations done
  cases own : filter.condition with
  | some fragment =>
    obtain ⟨c, read⟩ := wellFormed fragment own
    obtain ⟨whole, readWhole, later, first⟩ := reads_equations written read
    refine ⟨_, whole, rfl, readWhole, fun truth => ?_⟩
    have alternatives : filter.laterAlternatives = c.laterAlternatives := by
      simp [laterAlternatives, own, read]
    rw [alternatives]
    apply holds_iff_met _ later
    · rw [matched_iff written, first]
    · simp [Met, own, isTrue_iff read]
  | none =>
    -- The last equation takes the place of a condition behind the others.
    obtain rfl | ⟨before, last, rfl⟩ := texts.eq_nil_or_concat'
    · exact absurd (List.forall₂_nil_right_iff.1 written) equations
    obtain ⟨entry, entries, encoded, -⟩ :=
      List.forall₂_cons_right_iff.1 (List.forall₂_drop_append _ _ _ written)
    obtain ⟨atom, read, -⟩ := reads_equation_and encoded
    obtain ⟨whole, readWhole, later, first⟩ :=
      reads_equations (List.forall₂_take_append _ _ _ written) read
    refine ⟨_, whole, rfl, by simpa using readWhole, fun truth => ?_⟩
    have alternatives : filter.laterAlternatives = [] := by
      simp [laterAlternatives, own]
    rw [alternatives]
    have matched : filter.Matched truth ↔
        (∀ text ∈ before, IsTrue truth text) ∧ truth atom := by
      rw [matched_iff written, List.forall_mem_append, List.forall_mem_singleton, isTrue_iff read]
      rfl
    have included : filter.Matched truth ↔ filter.Matched truth ∧ truth atom := by
      rw [matched, and_assoc, and_self]
    apply holds_iff_met _ later
    · exact (first truth).trans (matched.symm.trans included)
    · have met : filter.Met truth ↔ filter.Matched truth := by simp [Met, own]
      exact met.trans included

end Filter

/-! ## Statements -/

namespace Operation

/-- The filter of an operation on the rows that meet one. -/
def filter? : Operation → Option Filter
  | .findMany request => some request.filter
  | .update request => some request.filter
  | .assign request => some request.filter
  | .delete request => some request.filter
  | _ => none

/-- The operation with another filter in place of its own. -/
def withFilter (filter : Filter) : Operation → Operation
  | .findMany request => .findMany { request with filter }
  | .update request => .update { request with filter }
  | .assign request => .assign { request with filter }
  | .delete request => .delete { request with filter }
  | operation => operation

/-- The filter has no part in the statement but its clause, and that clause has one place. -/
theorem query_of_filter {schema : ModelSchema} {operation : Operation} {filter : Filter}
    (filtered : operation.filter? = some filter) {query : Query}
    (done : operation.query schema = .ok query) :
    ∃ before clause after, filter.clause = .ok clause ∧
      query.statement = before ++ clause ++ after ∧
      ∀ other text, other.clause = .ok text → (operation.withFilter other).query schema =
        .ok { query with statement := before ++ text ++ after } := by
  cases operation with
  | create request => cases filtered
  | findById id request => cases filtered
  | relate source edge target data => cases filtered
  | findMany request =>
    cases filtered
    obtain ⟨selection, selected, done⟩ := exists_of_bind_eq_ok done
    obtain ⟨clause, conditions, done⟩ := exists_of_bind_eq_ok done
    obtain ⟨order, ordered, done⟩ := exists_of_bind_eq_ok done
    obtain ⟨fetch, fetched, done⟩ := exists_of_bind_eq_ok done
    cases done
    refine ⟨"SELECT " ++ selection ++ " FROM " ++ schema.table, clause,
      listClause "ORDER BY" order ++ numberClause "LIMIT" request.limit ++
        numberClause "START" request.start ++ listClause "FETCH" fetch, conditions, ?_, ?_⟩
    · simp only [String.append_assoc]
    · intro other text written
      unfold withFilter Operation.query FindMany.query
      simp only [selected, written, ordered, fetched, String.append_assoc]
      rfl
  | update request =>
    cases filtered
    obtain ⟨clause, conditions, done⟩ := exists_of_bind_eq_ok done
    cases done
    refine ⟨_, clause, " RETURN AFTER", conditions, rfl, fun other text written => ?_⟩
    unfold withFilter Operation.query Update.query
    simp only [written]
    rfl
  | assign request =>
    cases filtered
    rcases request with ⟨filter, assignments, options⟩
    cases assignments with
    | object members =>
      cases members with
      | nil => cases done
      | cons entry rest =>
        obtain ⟨texts, assigned, done⟩ := exists_of_bind_eq_ok done
        obtain ⟨clause, conditions, done⟩ := exists_of_bind_eq_ok done
        cases done
        refine ⟨_, clause, " RETURN AFTER", conditions, rfl, fun other text written => ?_⟩
        unfold withFilter Operation.query Assign.query
        simp only [assigned, written]
        rfl
    | _ => cases done
  | delete request =>
    cases filtered
    obtain ⟨clause, conditions, done⟩ := exists_of_bind_eq_ok done
    cases done
    refine ⟨"DELETE " ++ schema.table, clause, " RETURN BEFORE", conditions, rfl, ?_⟩
    intro other text written
    unfold withFilter Operation.query Delete.query
    simp only [written]
    rfl

/-- An operation on the rows of a filter with equations is the operation on all rows with a
clause put in. The clause reads as a condition, and what it says of a row is that the filter is
met, unless a later alternative of the filter's own condition holds there without the
equations. -/
theorem clause_holds_iff {schema : ModelSchema} {operation : Operation} {filter : Filter}
    (filtered : operation.filter? = some filter) (equations : filter.matching ≠ [])
    (wellFormed : ∀ fragment ∈ filter.condition, ∃ c, ofText? fragment.text = some c)
    {query : Query} (done : operation.query schema = .ok query) :
    ∃ before text after whole, query.statement = before ++ (" WHERE " ++ text) ++ after ∧
      (operation.withFilter {}).query schema =
        .ok { query with statement := before ++ after } ∧
      ofText? text = some whole ∧
      ∀ truth, (whole.holds truth ↔ filter.Met truth) ↔
        ∀ d ∈ filter.laterAlternatives, d.holds truth → filter.Matched truth := by
  obtain ⟨before, clause, after, conditions, stated, replaced⟩ := query_of_filter filtered done
  obtain ⟨text, whole, rfl, read, meant⟩ := Filter.reads_clause equations wellFormed conditions
  have all := replaced {} "" rfl
  rw [String.append_empty] at all
  exact ⟨before, text, after, whole, stated, all, read, meant⟩

/-- Fruits are deleted that have one value in a field, and another value in one of two. -/
theorem clause_holds_iff_delete :
    let filter : Filter := {
      matching := [("a", .int 1 (by decide))], condition := some ⟨"b = 2 OR c = 3"⟩ }
    ∃ before text after whole,
      "DELETE fruit WHERE a = 1 AND b = 2 OR c = 3 RETURN BEFORE" =
        before ++ (" WHERE " ++ text) ++ after ∧
      ofText? text = some whole ∧
      ∀ truth, (whole.holds truth ↔ filter.Met truth) ↔
        ∀ d ∈ filter.laterAlternatives, d.holds truth → filter.Matched truth := by
  intro filter
  have done : (delete { filter }).query (.ofTable "fruit") =
      .ok ⟨"DELETE fruit WHERE a = 1 AND b = 2 OR c = 3 RETURN BEFORE", .empty⟩ := rfl
  have wellFormed : ∀ fragment ∈ filter.condition, ∃ c, ofText? fragment.text = some c := by
    intro fragment own
    obtain rfl : ⟨"b = 2 OR c = 3"⟩ = fragment := Option.some.inj own
    exact Option.isSome_iff_exists.1 (by decide +kernel)
  obtain ⟨before, text, after, whole, stated, -, meant⟩ :=
    clause_holds_iff rfl (List.cons_ne_nil _ _) wellFormed done
  exact ⟨before, text, after, whole, stated, meant⟩

end Operation

/-- A row that has the third value is deleted without having the first one. -/
theorem Delete.query_alternatives :
    let filter : Filter := {
      matching := [("a", .int 1 (by decide))], condition := some ⟨"b = 2 OR c = 3"⟩ }
    let truth : Truth := fun atom => atom = ["c", "=", "3"].map fun word => .word word.toList
    (Delete.query (.ofTable "fruit") { filter }).map Query.statement =
      .ok "DELETE fruit WHERE a = 1 AND b = 2 OR c = 3 RETURN BEFORE" ∧
    IsTrue truth "a = 1 AND b = 2 OR c = 3" ∧ IsTrue truth "b = 2 OR c = 3" ∧
    ¬filter.Matched truth := by
  intro filter truth
  have shown (text : String) (value : Bool)
      (read : (ofText? text).map (·.holds truth) = some value) :
      IsTrue truth text ↔ value = true := by
    obtain ⟨c, found, rfl⟩ := Option.map_eq_some_iff.1 read
    exact isTrue_iff found
  refine ⟨rfl, (shown _ true (by decide +kernel)).2 rfl, (shown _ true (by decide +kernel)).2 rfl, fun matched => ?_⟩
  obtain ⟨text, written, isTrue⟩ := matched _ List.mem_cons_self
  cases written
  exact absurd ((shown _ false (by decide +kernel)).1 isTrue) Bool.false_ne_true

end Request

end RecordMapper
