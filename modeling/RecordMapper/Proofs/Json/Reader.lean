import Mathlib.Data.List.DropRight
import RecordMapper.Json.Parser
import RecordMapper.Proofs.Binary64.Text
import RecordMapper.Proofs.Members
import RecordMapper.Proofs.Text.Control
import RecordMapper.Proofs.Text.Reader

/-!
Laws of the strict JSON reader. `Spells text json` says that the reader takes exactly the
text, and gives the value, wherever it stands. The laws build such texts: words, strings in
quotes, numbers, and lists and objects whose parts are joined by commas, without blanks. The
whole numbers of 64 bits are read as whole (`number?_toString`), and the text of a finite
double as that double (`number?_write`).
-/

namespace RecordMapper.Json.Parser

open Text (NoControl NoLeadingZero)
open Text.Reader (Reads)
open Binary64 (pointed signed)

/-! ## Strings -/

theorem literalBody?_escape (content rest : List Char) :
    literalBody? (Text.Quoted.escape content ++ '"' :: rest) =
      some (Text.Quoted.escape content, rest) := by
  induction content with
  | nil => rfl
  | cons c content ih =>
    by_cases special : Text.Quoted.isSpecial c
    · simp [Text.Quoted.escape, special, literalBody?, ih]
    · have notQuote : c ≠ '"' := by rintro rfl; exact special rfl
      have notBackslash : c ≠ '\\' := by rintro rfl; exact special rfl
      simp only [Text.Quoted.escape, special, Bool.false_eq_true, if_false, List.cons_append]
      rw [literalBody?.eq_def]
      split <;> simp_all

/-- Of the escapes that JSON knows, only those of the quote and the backslash are written. -/
theorem unescape?_escape {content : List Char} (plain : NoControl content) :
    unescape? (Text.Quoted.escape content) = some content := by
  induction content with
  | nil => rfl
  | cons c content ih =>
    obtain ⟨printable, others⟩ := List.forall_mem_cons.1 plain
    have later := ih others
    by_cases special : Text.Quoted.isSpecial c
    · have quoteOrBackslash : c = '"' ∨ c = '\\' := by
        simpa [Text.Quoted.isSpecial] using special
      rcases quoteOrBackslash with rfl | rfl
      all_goals simp [Text.Quoted.escape, special, unescape?, shortEscape?, later]
    · have notBackslash : c ≠ '\\' := by rintro rfl; exact special rfl
      simp only [Text.Quoted.escape, special, Bool.false_eq_true, if_false]
      rw [unescape?.eq_def]
      split <;> simp_all

theorem string?_quoted {s : String} (plain : NoControl s.toList) (rest : List Char) :
    string? (Text.Quoted.escape s.toList ++ '"' :: rest) = some (s, rest) := by
  unfold string?
  simp [literalBody?_escape, unescape?_escape plain]

/-! ## Numbers -/

/-- Only a minus sign starts with a minus. -/
theorem head?_signed (negative : Bool) {first : Char} (digit : first.isDigit) (rest : List Char) :
    (signed negative ++ first :: rest).head? = some '-' ↔ negative := by
  have notMinus : first ≠ '-' := Binary64.digit_ne digit rfl
  cases negative <;> simp [signed, notMinus]

/-- Behind the sign stands the rest. -/
theorem drop_signed (negative : Bool) (rest : List Char) :
    (if negative then (signed negative ++ rest).drop 1 else signed negative ++ rest) = rest := by
  cases negative <;> rfl

/-- A text without zeros in front starts with the single digit zero or with another digit. -/
theorem not_leading_zero {first : Char} {others rest : List Char}
    (digits : ∀ c ∈ others, c.isDigit) (lead : NoLeadingZero (first :: others ++ rest)) :
    ¬(first :: others = [] ∨
      (first :: others).head? = some '0' ∧ 1 < (first :: others).length) := by
  rintro (none | ⟨zero, long⟩)
  · cases none
  · obtain rfl := Option.some.inj zero
    cases others with
    | nil => exact Nat.lt_irrefl 1 long
    | cons second others =>
      have stop := lead second (others ++ rest) rfl
      rw [digits second List.mem_cons_self] at stop
      cases stop

/-- A sign, digits and a fraction or an exponent spell a double. -/
theorem number?_double {negative : Bool} {whole fraction tail : List Char} {exponent : Int}
    (nonempty : whole ≠ []) (wholeDigits : ∀ c ∈ whole, c.isDigit)
    (fractionDigits : ∀ c ∈ fraction, c.isDigit) (stop : ∀ c ∈ tail.head?, c = 'e')
    (read : Binary64.readExponent? tail = some exponent) (shown : fraction ≠ [] ∨ tail ≠ [])
    (lead : NoLeadingZero (whole ++ (pointed fraction ++ tail))) :
    number? (signed negative ++ (whole ++ (pointed fraction ++ tail))) =
      finite? (Binary64.ofParts negative whole fraction exponent) := by
  rcases List.exists_cons_of_ne_nil nonempty with ⟨first, others, rfl⟩
  obtain ⟨digit, othersDigits⟩ := List.forall_mem_cons.1 wholeDigits
  have tailStop : ∀ c ∈ tail.head?, c.isDigit = false := fun c mem => stop c mem ▸ rfl
  have restStop : ∀ c ∈ (pointed fraction ++ tail).head?, c.isDigit = false := by
    intro c mem
    cases fraction with
    | nil => exact tailStop c mem
    | cons d fraction => cases mem; rfl
  rcases Binary64.takeWhile_digits wholeDigits restStop with ⟨wholeRead, restRead⟩
  rcases Binary64.takeWhile_digits fractionDigits tailStop with ⟨fractionRead, tailRead⟩
  have spelled : pointed fraction ++ tail ≠ [] := by
    cases fraction with
    | nil => exact shown.resolve_left (not_not_intro rfl)
    | cons d fraction => exact List.cons_ne_nil _ _
  have sign := head?_signed negative digit (others ++ (pointed fraction ++ tail))
  rw [← List.cons_append] at sign
  unfold number?
  simp only [drop_signed, wholeRead, restRead, if_neg (not_leading_zero othersDigits lead),
    if_neg spelled, sign, Bool.decide_eq_true]
  cases fraction with
  | nil =>
    have noPoint : (pointed [] ++ tail).head? ≠ some '.' := by
      intro point
      exact absurd (stop '.' point) (by decide)
    have rest : pointed [] ++ tail = tail := rfl
    rw [rest] at noPoint
    simp only [rest, noPoint, if_false, false_and, read]
    rfl
  | cons d fraction =>
    have point : (pointed (d :: fraction) ++ tail).head? = some '.' := rfl
    have behind : (pointed (d :: fraction) ++ tail).drop 1 = d :: fraction ++ tail := rfl
    simp only [point, behind, if_true, List.cons_ne_nil, and_false, if_false, fractionRead,
      tailRead, read]
    rfl

/-- The text of a finite double is a number that reads back as it. -/
theorem number?_write (x : Binary64.Finite) :
    number? (Binary64.Layout.plain.write x).toList = some (.double x) := by
  rcases Binary64.Layout.plain.spells_magnitude x.rank_lt with
    ⟨whole, fraction, tail, exponent, spells⟩
  have lead := Binary64.Layout.plain.noLeadingZero_magnitude x.rank_lt
  rw [spells.text_eq] at lead
  rw [Binary64.Layout.write, String.toList_ofList, spells.text_eq]
  refine (number?_double spells.nonempty spells.wholeDigits spells.fractionDigits spells.stop
    spells.read spells.shown lead).trans ?_
  rw [Binary64.ofParts, Binary64.ofDecimal, spells.value_eq, Binary64.ofRank, dif_pos x.rank_lt]
  rfl

/-- Digits alone, after a sign, spell a whole number if it fits and is no negative zero. -/
theorem number?_digits (negative : Bool) (size : Nat) {n : Int}
    (value : n = if negative then -(size : Int) else size) (nonzero : ¬(negative ∧ n = 0))
    (range : -9223372036854775808 ≤ n ∧ n < 18446744073709551616) :
    number? (signed negative ++ Nat.toDigits 10 size) = some (.whole n range) := by
  have digits : ∀ c ∈ Nat.toDigits 10 size, c.isDigit := fun c mem =>
    Nat.isDigit_of_mem_toDigits (by decide) (by decide) mem
  have sizeRead : Binary64.digitsValue (Nat.toDigits 10 size) = size :=
    Nat.ofDigitChars_ten_toDigits
  have lead := Text.noLeadingZero_toDigits size
  obtain ⟨first, others, spelled⟩ :=
    List.exists_cons_of_ne_nil (Nat.toDigits_ne_nil (n := size) (b := 10))
  rw [spelled] at digits sizeRead lead ⊢
  obtain ⟨digit, othersDigits⟩ := List.forall_mem_cons.1 digits
  have stop : ∀ c ∈ ([] : List Char).head?, c.isDigit = false := by simp
  rcases Binary64.takeWhile_digits digits stop with ⟨wholeRead, restRead⟩
  rw [List.append_nil] at wholeRead restRead
  rw [← List.append_nil (first :: others)] at lead
  have sign := head?_signed negative digit others
  unfold number?
  simp only [drop_signed, wholeRead, restRead, if_neg (not_leading_zero othersDigits lead), if_true,
    sign, sizeRead, ← value]
  rw [if_neg nonzero, Number.ofInt?, dif_pos range]

/-- A whole number of 64 bits is spelled as a whole number. -/
theorem number?_toString (n : Int) (range : -9223372036854775808 ≤ n ∧ n < 18446744073709551616) :
    number? (toString n).toList = some (.whole n range) := by
  cases n with
  | ofNat size =>
    have digits : (toString (Int.ofNat size)).toList = signed false ++ Nat.toDigits 10 size := by
      show (toString size).toList = _
      simp [signed]
    rw [digits]
    exact number?_digits false size rfl (fun zero => Bool.false_ne_true zero.1) range
  | negSucc size =>
    have digits : (toString (Int.negSucc size)).toList =
        signed true ++ Nat.toDigits 10 (size + 1) := by
      show ("-" ++ toString (size + 1)).toList = _
      simp [signed]
    rw [digits]
    exact number?_digits true (size + 1) rfl (fun zero => Int.negSucc_ne_zero size zero.2) range

/-! ## Values -/

/-- The text spells the value: the reader takes it wherever no number goes on, and as many
openings as it is long are enough. -/
def Spells (text : String) (json : Json) : Prop :=
  ∀ fuel, text.toList.length ≤ fuel →
    Reads (value? fuel) (Text.EndsToken isNumberChar) text json

theorem skipBlanks_skipBlanks (text : List Char) :
    skipBlanks (skipBlanks text) = skipBlanks text :=
  List.dropWhile_idempotent _ _

theorem value?_skipBlanks (fuel : Nat) (text : List Char) :
    value? fuel (skipBlanks text) = value? fuel text := by
  cases fuel with
  | zero => rfl
  | succ fuel => simp only [value?, skipBlanks_skipBlanks]

theorem items?_skipBlanks (fuel : Nat) (text : List Char) :
    items? fuel (skipBlanks text) = items? fuel text := by
  cases fuel with
  | zero => rfl
  | succ fuel => simp only [items?, value?_skipBlanks]

theorem members?_skipBlanks (fuel : Nat) (text : List Char) :
    members? fuel (skipBlanks text) = members? fuel text := by
  cases fuel with
  | zero => rfl
  | succ fuel => simp only [members?, skipBlanks_skipBlanks]

/-- A closing bracket starts no value. -/
theorem items?_closing (fuel : Nat) (rest : List Char) : items? fuel (']' :: rest) = none := by
  rcases fuel with _ | _ | fuel <;> rfl

/-- A closing brace starts no member. -/
theorem members?_closing (fuel : Nat) (rest : List Char) :
    members? fuel ('\x7d' :: rest) = none := by
  cases fuel <;> rfl

/-- The number that a token spells, as a value. -/
def ofToken? (token : List Char) : Option Json := (number? token).map .number

/-- What starts like a number is a token. -/
theorem value?_token {c : Char} (start : isNumberChar c) (fuel : Nat) (rest : List Char) :
    value? (fuel + 1) (c :: rest) = Text.Reader.token isNumberChar ofToken? (c :: rest) := by
  have other {d : Char} (outside : isNumberChar d = false) : c ≠ d := by
    rintro rfl
    rw [start] at outside
    cases outside
  have notBlank : isBlank c = false := by
    simp [isBlank, other (d := ' ') rfl, other (d := '\t') rfl, other (d := '\n') rfl,
      other (d := '\r') rfl]
  have stays : skipBlanks (c :: rest) = c :: rest := by simp [skipBlanks, notBlank]
  simp only [value?, stays]
  split
  case h_7 =>
    rw [Text.Reader.token, ofToken?, Option.map_map]
    rfl
  all_goals
    rename_i same
    exact absurd (List.cons.inj same).1 (other rfl)

theorem exists_succ_of_ne_nil {text : String} {fuel : Nat} (nonempty : text.toList ≠ [])
    (enough : text.toList.length ≤ fuel) : ∃ k, fuel = k + 1 := by
  have pos := List.length_pos_iff.2 nonempty
  exact ⟨fuel - 1, by omega⟩

/-- Numbers are read up to where their characters end. -/
theorem spells_number {text : String} {n : Number} (nonempty : text.toList ≠ [])
    (inside : ∀ c ∈ text.toList, isNumberChar c) (read : number? text.toList = some n) :
    Spells text (.number n) := by
  intro fuel enough rest ended
  obtain ⟨fuel, rfl⟩ := exists_succ_of_ne_nil nonempty enough
  have made : ofToken? text.toList = some (.number n) := by rw [ofToken?, read]; rfl
  have taken := Text.Reader.reads_token inside made rest ended
  obtain ⟨c, others, split⟩ := List.exists_cons_of_ne_nil nonempty
  have start := inside c (split ▸ List.mem_cons_self)
  rw [split, List.cons_append] at taken ⊢
  rw [value?_token start, taken]

theorem spells_null : Spells "null" .null := by
  intro fuel enough rest _
  obtain ⟨fuel, rfl⟩ := exists_succ_of_ne_nil (by decide) enough
  rfl

theorem spells_bool (b : Bool) : Spells (if b then "true" else "false") (.bool b) := by
  intro fuel enough rest _
  cases b
  all_goals
    obtain ⟨fuel, rfl⟩ := exists_succ_of_ne_nil (by decide) enough
    rfl

theorem spells_string {s : String} (plain : NoControl s.toList) :
    Spells (Text.quoted s) (.string s) := by
  intro fuel enough rest _
  obtain ⟨fuel, rfl⟩ := exists_succ_of_ne_nil (by simp [Text.quoted]) enough
  have quote (rest : List Char) : skipBlanks ('"' :: rest) = '"' :: rest := rfl
  rw [Text.quoted_append]
  simp only [value?, quote, string?_quoted plain, Option.map_some]

/-! ## Lists and objects -/

theorem endsNumber_cons {c : Char} (other : isNumberChar c = false) (rest : List Char) :
    Text.EndsToken isNumberChar (c :: rest) := by
  rintro d next
  rw [List.head?_cons, Option.mem_some_iff] at next
  exact next ▸ other

/-- Texts that are joined by commas are read one after the other by a reader of lists that
takes each of them, and then ends or goes on. Going on takes one opening, and the comma makes
up for it. -/
theorem reads_joined {α : Type} {list : Nat → Text.Reader (List α)} {closing : Char}
    {R : String → α → Prop}
    (last : ∀ text a, R text a → ∀ fuel, text.toList.length ≤ fuel → ∀ rest,
      list (fuel + 1) (text.toList ++ closing :: rest) = some ([a], rest))
    (next : ∀ text a, R text a → ∀ fuel, text.toList.length ≤ fuel → ∀ rest,
      list (fuel + 1) (text.toList ++ ',' :: rest) =
        (list fuel rest).map fun (others, rest) => (a :: others, rest))
    {texts : List String} {values : List α} (related : List.Forall₂ R texts values)
    (some : texts ≠ []) {fuel : Nat} (enough : (",".intercalate texts).toList.length < fuel)
    (rest : List Char) :
    list fuel ((",".intercalate texts).toList ++ closing :: rest) = .some (values, rest) := by
  induction related generalizing fuel with
  | nil => exact absurd rfl some
  | @cons text a texts values first others ih =>
    obtain ⟨fuel, rfl⟩ : ∃ k, fuel = k + 1 := ⟨fuel - 1, by omega⟩
    cases others with
    | nil =>
      rw [String.intercalate_singleton] at enough ⊢
      exact last text a first fuel (Nat.le_of_lt_succ enough) rest
    | @cons second _ texts _ _ _ =>
      have split : (",".intercalate (text :: second :: texts)).toList =
          text.toList ++ ',' :: (",".intercalate (second :: texts)).toList := by
        simp [String.intercalate_cons_cons]
      rw [split, List.length_append, List.length_cons] at enough
      have later : list fuel _ = _ := ih (List.cons_ne_nil _ _) (by omega)
      rw [split, List.append_assoc, List.cons_append, next text a first fuel (by omega), later]
      rfl

theorem items?_last (text : String) (item : Json) (spelled : Spells text item) (fuel : Nat)
    (enough : text.toList.length ≤ fuel) (rest : List Char) :
    items? (fuel + 1) (text.toList ++ ']' :: rest) = some ([item], rest) := by
  have head := spelled fuel enough (']' :: rest) (endsNumber_cons rfl rest)
  simp only [items?, head, Option.bind_eq_bind, Option.bind_some]
  rfl

theorem items?_next (text : String) (item : Json) (spelled : Spells text item) (fuel : Nat)
    (enough : text.toList.length ≤ fuel) (rest : List Char) :
    items? (fuel + 1) (text.toList ++ ',' :: rest) =
      (items? fuel rest).map fun (items, rest) => (item :: items, rest) := by
  have head := spelled fuel enough (',' :: rest) (endsNumber_cons rfl rest)
  simp only [items?, head, Option.bind_eq_bind, Option.bind_some]
  rfl

theorem spells_array {texts : List String} {items : List Json}
    (related : List.Forall₂ Spells texts items) :
    Spells ("[" ++ ",".intercalate texts ++ "]") (.array items) := by
  intro fuel enough rest _
  have split : ("[" ++ ",".intercalate texts ++ "]").toList =
      '[' :: ((",".intercalate texts).toList ++ [']']) := by simp
  rw [split] at enough ⊢
  rw [List.length_cons, List.length_append, List.length_singleton] at enough
  obtain ⟨fuel, rfl⟩ : ∃ k, fuel = k + 1 := ⟨fuel - 1, by omega⟩
  have open' (rest : List Char) : skipBlanks ('[' :: rest) = '[' :: rest := rfl
  rw [List.cons_append, List.append_assoc]
  simp only [value?, open', List.singleton_append]
  by_cases some : texts = []
  · subst some
    cases related
    rfl
  · have taken := reads_joined items?_last items?_next related some
      (Nat.lt_of_succ_lt_succ enough) rest
    rw [← items?_skipBlanks] at taken
    split
    · rename_i early
      -- the first item would start with the closing bracket
      rw [early, items?_closing] at taken
      cases taken
    · rw [taken]
      rfl

/-- The text spells the member of an object: its name, quoted, a colon, and its value. -/
inductive SpellsMember : String → String × Json → Prop
  | mk {name text : String} {value : Json} (plain : NoControl name.toList)
      (spelled : Spells text value) : SpellsMember (Text.quoted name ++ ":" ++ text) (name, value)

theorem member_append (name text : String) (rest : List Char) :
    (Text.quoted name ++ ":" ++ text).toList ++ rest =
      '"' :: (Text.Quoted.escape name.toList ++ '"' :: ':' :: (text.toList ++ rest)) := by
  rw [← Text.quoted_append]
  simp

theorem members?_last (text : String) (member : String × Json) (spelled : SpellsMember text member)
    (fuel : Nat) (enough : text.toList.length ≤ fuel) (rest : List Char) :
    members? (fuel + 1) (text.toList ++ '\x7d' :: rest) = some ([member], rest) := by
  cases spelled with
  | @mk name text value plain spelled =>
  have quote (rest : List Char) : skipBlanks ('"' :: rest) = '"' :: rest := rfl
  have colon (rest : List Char) : skipBlanks (':' :: rest) = ':' :: rest := rfl
  rw [String.toList_append, List.length_append] at enough
  have head := spelled fuel (by omega) ('\x7d' :: rest) (endsNumber_cons rfl rest)
  rw [member_append]
  simp only [members?, quote, string?_quoted plain, colon, head, Option.bind_eq_bind,
    Option.bind_some]
  rfl

theorem members?_next (text : String) (member : String × Json) (spelled : SpellsMember text member)
    (fuel : Nat) (enough : text.toList.length ≤ fuel) (rest : List Char) :
    members? (fuel + 1) (text.toList ++ ',' :: rest) =
      (members? fuel rest).map fun (members, rest) => (member :: members, rest) := by
  cases spelled with
  | @mk name text value plain spelled =>
  have quote (rest : List Char) : skipBlanks ('"' :: rest) = '"' :: rest := rfl
  have colon (rest : List Char) : skipBlanks (':' :: rest) = ':' :: rest := rfl
  rw [String.toList_append, List.length_append] at enough
  have head := spelled fuel (by omega) (',' :: rest) (endsNumber_cons rfl rest)
  rw [member_append]
  simp only [members?, quote, string?_quoted plain, colon, head, Option.bind_eq_bind,
    Option.bind_some]
  rfl

/-- Members in order are kept as they stand. -/
theorem spells_object {texts : List String} {members : List (String × Json)}
    (related : List.Forall₂ SpellsMember texts members) (ordered : Members.Ordered members) :
    Spells ("\x7b" ++ ",".intercalate texts ++ "\x7d") (.object members) := by
  intro fuel enough rest _
  have split : ("\x7b" ++ ",".intercalate texts ++ "\x7d").toList =
      '\x7b' :: ((",".intercalate texts).toList ++ ['\x7d']) := by simp
  rw [split] at enough ⊢
  rw [List.length_cons, List.length_append, List.length_singleton] at enough
  obtain ⟨fuel, rfl⟩ : ∃ k, fuel = k + 1 := ⟨fuel - 1, by omega⟩
  have open' (rest : List Char) : skipBlanks ('\x7b' :: rest) = '\x7b' :: rest := rfl
  rw [List.cons_append, List.append_assoc]
  simp only [value?, open', List.singleton_append]
  by_cases some : texts = []
  · subst some
    cases related
    rfl
  · have taken := reads_joined members?_last members?_next related some
      (Nat.lt_of_succ_lt_succ enough) rest
    rw [← members?_skipBlanks] at taken
    split
    · rename_i early
      -- the first member would start with the closing brace
      rw [early, members?_closing] at taken
      cases taken
    · rw [taken, Option.map_some, ofMembers, Members.ofList_of_ordered ordered]

theorem parse?_of_spells {text : String} {json : Json} (spelled : Spells text json) :
    parse? text = some json := by
  have ended : Text.EndsToken isNumberChar [] := by simp [Text.EndsToken]
  have taken := spelled (2 * text.toList.length + 2) (by omega) [] ended
  rw [List.append_nil] at taken
  simp only [parse?, taken]
  rfl

end RecordMapper.Json.Parser
