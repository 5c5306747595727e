import RecordMapper.Proofs.Agreement
import RecordMapper.Proofs.Binary64.Text
import RecordMapper.Proofs.Identifier
import RecordMapper.Proofs.Text.Number
import RecordMapper.Proofs.Text.Skeleton
import RecordMapper.Proofs.Value.Literal

/-!
Values without the contents of their strings. `Value.masked` empties every string of a value
and keeps all else. A value and its masked form have literals of one shape, or fail with one
error (`Value.literal_masked`). Outside the literals of strings a literal shows only the
characters of `isBareChar`.
-/

namespace RecordMapper.Value

open Text.Quoted (SameShape)

mutual

/-- The value with every string in it emptied. -/
def masked : Value → Value
  | .string _ => .string ""
  | .array items => .array (maskedItems items)
  | .object members => .object (maskedMembers members)
  | value => value

/-- The items of an array with every string in them emptied. -/
def maskedItems : List Value → List Value
  | [] => []
  | item :: rest => masked item :: maskedItems rest

/-- The members of an object with every string in their values emptied. -/
def maskedMembers : List (String × Value) → List (String × Value)
  | [] => []
  | (name, value) :: rest => (name, masked value) :: maskedMembers rest

end

/-- The characters that literals show outside quotes. -/
def isBareChar (c : Char) : Bool :=
  Identifier.isKeyChar c || c = ':' || c = '.' || c = ',' || c = '-' || c = '[' || c = ']' ||
    c = '\x7b' || c = '\x7d'

/-! ## Characters of tokens -/

theorem isBareChar_of_isKeyChar {c : Char} (key : Identifier.isKeyChar c) : isBareChar c := by
  simp [isBareChar, key]

theorem isBareChar_of_isDigit {c : Char} (digit : c.isDigit) : isBareChar c :=
  isBareChar_of_isKeyChar (by simp [Identifier.isKeyChar, Char.isAlphanum, digit])

theorem isBareChar_of_isNumberChar {c : Char} (number : Binary64.isNumberChar c) :
    isBareChar c := by
  simp only [Binary64.isNumberChar, Bool.or_eq_true, decide_eq_true_eq] at number
  rcases number with ((digit | rfl) | rfl) | rfl
  · exact isBareChar_of_isDigit digit
  all_goals rfl

theorem isBareChar_of_mem_int {n : Int} {c : Char} (mem : c ∈ (toString n).toList) :
    isBareChar c := by
  rcases Text.mem_int mem with digit | rfl
  · exact isBareChar_of_isDigit digit
  · rfl

theorem isBareChar_of_mem_recordId {id : RecordId} {c : Char} (mem : c ∈ id.text.toList) :
    isBareChar c := by
  rcases Identifier.mem_recordKey id.isRecordKey mem with key | rfl
  · exact isBareChar_of_isKeyChar key
  · rfl

theorem ne_quote_of_isBareChar {c : Char} (bare : isBareChar c) : c ≠ '"' := by
  rintro rfl
  exact absurd bare (by decide)

/-! ## Literals of masked values -/

variable {allowed : Char → Prop}

/-- A text of bare characters has its own shape. -/
theorem sameShape_of_bare (bare : ∀ c, isBareChar c → allowed c) {text : String}
    (all : ∀ c ∈ text.toList, isBareChar c) : SameShape allowed text text := by
  refine .of_plain fun c mem => ?_
  have shown := all c mem
  exact ⟨ne_quote_of_isBareChar shown, bare c shown⟩

/-- A fixed text of bare characters has its own shape. -/
theorem sameShape_word (bare : ∀ c, isBareChar c → allowed c) {text : String}
    (all : text.toList.all isBareChar) : SameShape allowed text text :=
  sameShape_of_bare bare (List.all_eq_true.1 all)

/-- The literal of a finite double has its own shape. -/
theorem floatLiteral_self (bare : ∀ c, isBareChar c → allowed c) (x : Binary64) :
    Agree (SameShape allowed) (floatLiteral x) (floatLiteral x) := by
  refine .of_ok fun text written => ?_
  rcases floatLiteral_eq_ok written with ⟨y, rfl, rfl⟩
  exact sameShape_of_bare bare fun c mem =>
    isBareChar_of_isNumberChar (Binary64.Layout.plain_write_chars y c mem)

/-- Brackets around literals that are joined by commas keep the shape. -/
theorem sameShape_bracketed (bare : ∀ c, isBareChar c → allowed c) {opening closing : String}
    (first : SameShape allowed opening opening) (last : SameShape allowed closing closing)
    {texts others : List String} (inside : List.Forall₂ (SameShape allowed) texts others) :
    SameShape allowed (opening ++ String.intercalate "," texts ++ closing)
      (opening ++ String.intercalate "," others ++ closing) := by
  have comma : SameShape allowed "," "," := sameShape_word bare rfl
  exact (first.append (.intercalate comma inside)).append last

mutual

/-- The literals of a value and of its masked form have one shape. -/
theorem literal_masked (bare : ∀ c, isBareChar c → allowed c) :
    ∀ value : Value, Agree (SameShape allowed) value.literal value.masked.literal
  | .null => sameShape_word bare rfl
  | .bool true => sameShape_word bare rfl
  | .bool false => sameShape_word bare rfl
  | .int n _ => sameShape_of_bare bare fun _ mem => isBareChar_of_mem_int mem
  | .float x => floatLiteral_self bare x
  | .string s => SameShape.quoted s ""
  | .timestamp t => by
    refine .of_ok fun text written => ?_
    rcases timestampLiteral_eq_ok written with ⟨utc, -, rfl⟩
    exact .quoted utc utc
  | .array items => by
    refine (itemLiterals_masked bare items).bind fun _ _ inside => .pure ?_
    exact sameShape_bracketed bare (sameShape_word bare rfl) (sameShape_word bare rfl) inside
  | .object members => by
    refine (memberLiterals_masked bare members).bind fun _ _ inside => .pure ?_
    exact sameShape_bracketed bare (sameShape_word bare rfl) (sameShape_word bare rfl) inside
  | .record id => sameShape_of_bare bare fun _ mem => isBareChar_of_mem_recordId mem

/-- The literals of items and of their masked forms have one shape each. -/
theorem itemLiterals_masked (bare : ∀ c, isBareChar c → allowed c) :
    ∀ items : List Value, Agree (List.Forall₂ (SameShape allowed)) (itemLiterals items)
      (itemLiterals (maskedItems items))
  | [] => .nil
  | item :: rest => by
    refine (literal_masked bare item).bind fun _ _ first => ?_
    refine (itemLiterals_masked bare rest).bind fun _ _ others => ?_
    exact .pure (.cons first others)

/-- The texts of members and of their masked forms have one shape each. -/
theorem memberLiterals_masked (bare : ∀ c, isBareChar c → allowed c) :
    ∀ members : List (String × Value), Agree (List.Forall₂ (SameShape allowed))
      (memberLiterals members) (memberLiterals (maskedMembers members))
  | [] => .nil
  | (name, value) :: rest => by
    have named : SameShape allowed (Text.quoted name) (Text.quoted name) := .quoted name name
    have colon : SameShape allowed ":" ":" := sameShape_word bare rfl
    refine (literal_masked bare value).bind fun _ _ first => ?_
    refine (memberLiterals_masked bare rest).bind fun _ _ others => ?_
    exact .pure (.cons ((named.append colon).append first) others)

end

/-- The literal of a value has its own shape. -/
theorem literal_self (bare : ∀ c, isBareChar c → allowed c) (value : Value) :
    Agree (SameShape allowed) value.literal value.literal := by
  have forth := literal_masked bare value
  have back := forth.symm fun _ _ same => same.symm
  exact forth.trans (fun _ _ _ first second => first.trans second) back

end RecordMapper.Value
