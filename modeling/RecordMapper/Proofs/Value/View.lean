import RecordMapper.Proofs.Json.Reader
import RecordMapper.Proofs.Value.BareRecords
import RecordMapper.Value.Json

/-!
Literals as JSON. The literal of a value and the JSON view of the value come from two walks.
Quoting the record identifiers of the literal makes it a text of JSON (`Shown`), and reading
that text gives the view (`parse?_literal`), provided that the members of objects stand in
order and no string holds a control character: literals leave those as they are, and strict
JSON refuses them. The reader would keep whole numbers above 63 bits whole as well, but no
literal shows one.
-/

namespace RecordMapper

open Text (NoControl)

namespace Value

open Json.Parser (Spells SpellsMember)

mutual

/-- Every part of the value that holds no other values is as wanted, and every name too. -/
def All (leaf : Value → Prop) (named : String → Prop) : Value → Prop
  | .array items => ItemsAll leaf named items
  | .object members => MembersAll leaf named members
  | value => leaf value

/-- The same for the items of an array. -/
def ItemsAll (leaf : Value → Prop) (named : String → Prop) : List Value → Prop
  | [] => True
  | item :: rest => All leaf named item ∧ ItemsAll leaf named rest

/-- The same for the members of an object. -/
def MembersAll (leaf : Value → Prop) (named : String → Prop) : List (String × Value) → Prop
  | [] => True
  | (name, value) :: rest => named name ∧ All leaf named value ∧ MembersAll leaf named rest

end

theorem itemsAll_iff {leaf : Value → Prop} {named : String → Prop} {items : List Value} :
    ItemsAll leaf named items ↔ ∀ item ∈ items, item.All leaf named := by
  induction items with
  | nil => simp [ItemsAll]
  | cons item rest ih => rw [ItemsAll, ih, List.forall_mem_cons]

theorem membersAll_iff {leaf : Value → Prop} {named : String → Prop}
    {members : List (String × Value)} : MembersAll leaf named members ↔
      ∀ member ∈ members, named member.1 ∧ member.2.All leaf named := by
  induction members with
  | nil => simp [MembersAll]
  | cons member rest ih => rw [MembersAll, ih, List.forall_mem_cons, and_assoc]

/-- A string without control characters, or no string. -/
def PrintableLeaf : Value → Prop
  | .string s => NoControl s.toList
  | _ => True

/-- No record identifier. -/
def RecordFreeLeaf : Value → Prop
  | .record _ => False
  | _ => True

/-- No string and no name in the value holds a control character. -/
def Printable (value : Value) : Prop := value.All PrintableLeaf fun name => NoControl name.toList

/-- The value holds no record identifier. -/
def RecordFree (value : Value) : Prop := value.All RecordFreeLeaf fun _ => True

/-- What the literal of a value becomes when its record identifiers are quoted: a text of
JSON that spells the JSON view of the value. Without record identifiers it is the literal. -/
structure Shown (value : Value) (text shown : String) : Prop where
  quotes : Quotes text shown
  same : value.RecordFree → shown = text
  spells : value.Ordered → value.Printable → Spells shown value.toJson

/-- A token of the characters of words and numbers stands as it is. -/
theorem Shown.of_plain {value : Value} {text : String} (noColon : ':' ∉ text.toList)
    (noQuote : '"' ∉ text.toList) (spells : Spells text value.toJson) : Shown value text text :=
  ⟨quotes_plain noColon noQuote, fun _ => rfl, fun _ _ => spells⟩

theorem isNumberChar_of_statement {c : Char} (number : Binary64.isNumberChar c) :
    Json.Parser.isNumberChar c := by
  simp only [Binary64.isNumberChar, Bool.or_eq_true, decide_eq_true_eq] at number
  rcases number with ((digit | rfl) | rfl) | rfl
  · simp [Json.Parser.isNumberChar, digit]
  all_goals rfl

theorem shown_number {value : Value} {text : String} {n : Json.Number}
    (nonempty : text.toList ≠ []) (inside : ∀ c ∈ text.toList, Binary64.isNumberChar c)
    (read : Json.Parser.number? text.toList = some n) (view : value.toJson = .number n) :
    Shown value text text := by
  refine .of_plain (Binary64.not_mem_of_isNumberChar inside rfl)
    (Binary64.not_mem_of_isNumberChar inside rfl) ?_
  rw [view]
  exact Json.Parser.spells_number nonempty
    (fun c mem => isNumberChar_of_statement (inside c mem)) read

theorem shown_string {value : Value} {s : String} (view : value.toJson = .string s)
    (plain : value.Printable → NoControl s.toList) :
    Shown value (Text.quoted s) (Text.quoted s) where
  quotes := quotes_string s
  same _ := rfl
  spells _ printable := view ▸ Json.Parser.spells_string (plain printable)

theorem toJson_timestamp {t : Timestamp} {utc : String} (shown : t.utcText? = some utc) :
    (Value.timestamp t).toJson = .string utc := by
  show Json.string (t.utcText?.getD t.longText) = _
  rw [shown]
  rfl

theorem ordered_toJsonMembers {members : List (String × Value)}
    (ordered : Members.Ordered members) : Members.Ordered (toJsonMembers members) := by
  have names : (members.map Prod.fst).Pairwise Text.Before := List.pairwise_map.2 ordered
  rw [← map_fst_toJsonMembers] at names
  exact List.pairwise_map.1 names

mutual

/-- A literal becomes JSON when its records are quoted. The induction is on the value, with
one case for each kind. -/
theorem exists_shown : ∀ (value : Value) (text : String), value.literal = .ok text →
    ∃ shown, Shown value text shown
  | .null, _, encoded => by
    cases encoded
    exact ⟨_, .of_plain (by decide) (by decide) Json.Parser.spells_null⟩
  | .bool b, _, encoded => by
    cases encoded
    have spelled := Json.Parser.spells_bool b
    cases b
    all_goals exact ⟨_, .of_plain (by decide) (by decide) spelled⟩
  | .int n range, _, encoded => by
    cases encoded
    exact ⟨_, shown_number (Text.int_ne_nil n) (fun c mem => isNumberChar_of_mem_int mem)
      (Json.Parser.number?_toString n _) rfl⟩
  | .float x, _, encoded => by
    rcases floatLiteral_eq_ok encoded with ⟨x, rfl, rfl⟩
    exact ⟨_, shown_number (Binary64.Layout.write_ne_nil .plain x)
      (Binary64.Layout.plain_write_chars x)
      (Json.Parser.number?_write x) rfl⟩
  | .string s, _, encoded => by
    cases encoded
    exact ⟨_, shown_string rfl id⟩
  | .timestamp t, _, encoded => by
    rcases timestampLiteral_eq_ok encoded with ⟨utc, told, rfl⟩
    exact ⟨_, shown_string (toJson_timestamp told) fun _ => Timestamp.noControl_rfc3339 told⟩
  | .record id, _, encoded => by
    cases encoded
    refine ⟨_, quotes_record id, fun free => free.elim, fun _ _ => ?_⟩
    exact Json.Parser.spells_string id.noControl_text
  | .array items, _, encoded => by
    obtain ⟨texts, inside, encoded⟩ := exists_of_bind_eq_ok encoded
    cases encoded
    obtain ⟨shown, quotes, same, spells⟩ := exists_shown_items items texts inside
    refine ⟨"[" ++ ",".intercalate shown ++ "]", ?_, fun free => ?_, fun ordered printable => ?_⟩
    · exact quotes_bracketed (by decide) (by decide) (quotes_intercalate quotes)
    · rw [same free]
    · exact Json.Parser.spells_array (spells ordered printable)
  | .object members, _, encoded => by
    obtain ⟨texts, inside, encoded⟩ := exists_of_bind_eq_ok encoded
    cases encoded
    obtain ⟨shown, quotes, same, spells⟩ := exists_shown_members members texts inside
    refine ⟨"\x7b" ++ ",".intercalate shown ++ "\x7d", ?_, fun free => ?_,
      fun ordered printable => ?_⟩
    · exact quotes_bracketed (by decide) (by decide) (quotes_intercalate quotes)
    · rw [same free]
    · exact Json.Parser.spells_object (spells ordered.2 printable)
        (ordered_toJsonMembers ordered.1)

/-- The literals of items become JSON one by one. -/
theorem exists_shown_items : ∀ (items : List Value) (texts : List String),
    itemLiterals items = .ok texts → ∃ shown, List.Forall₂ Quotes texts shown ∧
      (ItemsAll RecordFreeLeaf (fun _ => True) items → shown = texts) ∧
      (AllOrdered items → ItemsAll PrintableLeaf (fun name => NoControl name.toList) items →
        List.Forall₂ Spells shown (toJsonItems items))
  | [], _, encoded => by
    cases encoded
    exact ⟨[], .nil, fun _ => rfl, fun _ _ => .nil⟩
  | item :: items, _, encoded => by
    obtain ⟨text, first, encoded⟩ := exists_of_bind_eq_ok encoded
    obtain ⟨others, later, encoded⟩ := exists_of_bind_eq_ok encoded
    cases encoded
    obtain ⟨shown, head⟩ := exists_shown item text first
    obtain ⟨rest, quotes, same, spells⟩ := exists_shown_items items others later
    refine ⟨shown :: rest, .cons head.quotes quotes, fun free => ?_, fun ordered printable => ?_⟩
    · rw [head.same free.1, same free.2]
    · exact .cons (head.spells ordered.1 printable.1) (spells ordered.2 printable.2)

/-- The texts of members become JSON one by one. -/
theorem exists_shown_members : ∀ (members : List (String × Value)) (texts : List String),
    memberLiterals members = .ok texts → ∃ shown, List.Forall₂ Quotes texts shown ∧
      (MembersAll RecordFreeLeaf (fun _ => True) members → shown = texts) ∧
      (MembersOrdered members →
        MembersAll PrintableLeaf (fun name => NoControl name.toList) members →
        List.Forall₂ SpellsMember shown (toJsonMembers members))
  | [], _, encoded => by
    cases encoded
    exact ⟨[], .nil, fun _ => rfl, fun _ _ => .nil⟩
  | (name, value) :: members, _, encoded => by
    obtain ⟨text, first, encoded⟩ := exists_of_bind_eq_ok encoded
    obtain ⟨others, later, encoded⟩ := exists_of_bind_eq_ok encoded
    cases encoded
    obtain ⟨shown, head⟩ := exists_shown value text first
    obtain ⟨rest, quotes, same, spells⟩ := exists_shown_members members others later
    refine ⟨(Text.quoted name ++ ":" ++ shown) :: rest, .cons (head.quotes.member name) quotes,
      fun free => ?_, fun ordered printable => ?_⟩
    · rw [head.same free.2.1, same free.2.2]
    · exact .cons (.mk printable.1 (head.spells ordered.1 printable.2.1))
        (spells ordered.2 printable.2.2)

end

/-- A literal is JSON that spells the view of its value, once its records are quoted. -/
theorem parse?_literal {value : Value} {text : String} (encoded : value.literal = .ok text)
    (ordered : value.Ordered) (printable : value.Printable) :
    Json.parse? (quoteRecords text) = some value.toJson ∧
      (value.RecordFree → Json.parse? text = some value.toJson) := by
  obtain ⟨shown, quotes, same, spells⟩ := exists_shown value text encoded
  have view := Json.Parser.parse?_of_spells (spells ordered printable)
  exact ⟨quotes.quoteRecords_eq ▸ view, fun free => same free ▸ view⟩

end Value

end RecordMapper
