import Mathlib.Data.List.Forall2
import RecordMapper.Text.Quoted

/-!
Readers. A reader takes a value from the start of a text and gives back what follows. The
few readers here are put together from smaller ones, and for each a law says which text it
takes: `Reads read stop text value` means that `read` takes exactly `text`, and gives
`value`, wherever a rest follows at which it has to stop.
-/

namespace RecordMapper.Text

/-- A way to take a value from the start of a text. -/
abbrev Reader (α : Type) := List Char → Option (α × List Char)

/-- What follows a text at the start of another one. -/
def after? (lead : String) (text : List Char) : Option (List Char) :=
  text.dropPrefix? lead.toList

/-- The rest ends a token: none of the characters of tokens is next. -/
def EndsToken (isTokenChar : Char → Bool) (rest : List Char) : Prop :=
  ∀ c ∈ rest.head?, isTokenChar c = false

namespace Reader

variable {α β : Type}

/-- The longest token of given characters, and what it stands for. -/
def token (isTokenChar : Char → Bool) (make : List Char → Option α) : Reader α := fun text =>
  (make (text.takeWhile isTokenChar)).map fun value => (value, text.dropWhile isTokenChar)

/-- The string of a quoted text. -/
def quotedText : Reader String := fun text => do
  let rest ← after? "\"" text
  let (content, rest) ← Quoted.unescape? rest
  return (String.ofList content, rest)

/-- Two values with a text between them. -/
def pair (first : Reader α) (middle : String) (second : Reader β) : Reader (α × β) := fun text => do
  let (a, rest) ← first text
  let rest ← after? middle rest
  let (b, rest) ← second rest
  return ((a, b), rest)

/-- One to `n` values with a separator between any two. -/
def separatedUpTo (separator : String) (read : Reader α) : Nat → Reader (List α)
  | 0 => fun _ => none
  | n + 1 => fun text => do
    let (first, rest) ← read text
    match after? separator rest with
    | none => return ([first], rest)
    | some rest =>
      let (others, rest) ← separatedUpTo separator read n rest
      return (first :: others, rest)

/-- Values with a separator between any two, of which there is at least one. -/
def separated (separator : String) (read : Reader α) : Reader (List α) := fun text =>
  separatedUpTo separator read (text.length + 1) text

/-- Values between brackets with commas between any two. -/
def bracketed (opening closing : String) (read : Reader α) : Reader (List α) := fun text => do
  let inner ← after? opening text
  match after? closing inner with
  | some rest => return ([], rest)
  | none =>
    let (items, rest) ← separated "," read inner
    let rest ← after? closing rest
    return (items, rest)

/-- What is read after a lead; a text that does not start with the lead stays as it is. -/
def led (lead : String) (absent : α) (read : Reader α) : Reader α := fun text =>
  match after? lead text with
  | none => some (absent, text)
  | some rest => read rest

/-- What is read after a lead that has to be there. -/
def behind (lead : String) (read : Reader α) : Reader α := fun text => (after? lead text).bind read

/-- The reader takes the text and stops before the rest, whatever the rest after a stop. -/
def Reads (read : Reader α) (stop : List Char → Prop) (text : String) (value : α) : Prop :=
  ∀ rest, stop rest → read (text.toList ++ rest) = some (value, rest)

end Reader

/-! ## Leads -/

theorem after?_append (lead : String) (rest : List Char) :
    after? lead (lead.toList ++ rest) = some rest :=
  List.dropPrefix?_append_of_beq rest (beq_self_eq_true _)

theorem append_of_after? {lead : String} {text rest : List Char}
    (found : after? lead text = some rest) : text = lead.toList ++ rest := by
  rcases List.dropPrefix?_eq_some_iff.1 found with ⟨before, split, same⟩
  rw [split, eq_of_beq same]

/-! ## Laws -/

namespace Reader

variable {α β γ : Type} {read : Reader α} {stop : List Char → Prop} {text : String} {value : α}

theorem reads_token {isTokenChar : Char → Bool} {make : List Char → Option α}
    (inside : ∀ c ∈ text.toList, isTokenChar c) (made : make text.toList = some value) :
    Reads (token isTokenChar make) (EndsToken isTokenChar) text value := by
  intro rest ended
  have stopped : rest.takeWhile isTokenChar = [] ∧ rest.dropWhile isTokenChar = rest := by
    cases rest with
    | nil => exact ⟨rfl, rfl⟩
    | cons c rest =>
      have next : isTokenChar c = false := ended c rfl
      simp [next]
  unfold token
  rw [List.takeWhile_append_of_pos inside, List.dropWhile_append_of_pos inside, stopped.1,
    stopped.2, List.append_nil, made]
  rfl

theorem reads_quotedText (s : String) (stop : List Char → Prop) :
    Reads quotedText stop (Text.quoted s) s := by
  intro rest _
  have split : (Text.quoted s).toList ++ rest =
      "\"".toList ++ (Quoted.escape s.toList ++ '"' :: rest) := by
    simp [Text.quoted, Text.escape]
  unfold quotedText
  rw [split, after?_append]
  simp [Quoted.unescape?_escape]

theorem reads_pair {second : Reader β} {after : List Char → Prop} {next : String} {b : β}
    (reads : Reads read stop text value) {middle : String}
    (ended : ∀ rest, stop (middle.toList ++ rest)) (later : Reads second after next b) :
    Reads (pair read middle second) after (text ++ middle ++ next) (value, b) := by
  intro rest done
  have split : (text ++ middle ++ next).toList ++ rest =
      text.toList ++ (middle.toList ++ (next.toList ++ rest)) := by simp
  have first := reads (middle.toList ++ (next.toList ++ rest)) (ended _)
  have between := after?_append middle (next.toList ++ rest)
  have last := later rest done
  unfold pair
  rw [split]
  simp only [first, between, last, Option.bind_eq_bind, Option.bind_some]
  rfl

/-- Texts that are joined by the separator are read one after the other. The induction is on
the texts, and the limit has to cover them. -/
theorem separatedUpTo_intercalate {separator : String}
    (ended : ∀ rest, stop (separator.toList ++ rest)) {rest : List Char} (stopped : stop rest)
    (last : after? separator rest = none) {texts : List String} {values : List α}
    (related : List.Forall₂ (Reads read stop) texts values) (some : texts ≠ []) {n : Nat}
    (enough : texts.length ≤ n) :
    separatedUpTo separator read n ((separator.intercalate texts).toList ++ rest) =
      .some (values, rest) := by
  induction related generalizing n with
  | nil => exact absurd rfl some
  | @cons text value texts values first others ih =>
    obtain ⟨n, rfl⟩ : ∃ m, n = m + 1 := ⟨n - 1, by rw [List.length_cons] at enough; omega⟩
    unfold separatedUpTo
    cases others with
    | nil =>
      have head := first rest stopped
      rw [String.intercalate_singleton]
      simp only [head, last, Option.bind_eq_bind, Option.bind_some]
      rfl
    | @cons second _ texts _ _ _ =>
      have split : (separator.intercalate (text :: second :: texts)).toList ++ rest =
          text.toList ++ (separator.toList ++
            ((separator.intercalate (second :: texts)).toList ++ rest)) := by
        simp [String.intercalate_cons_cons]
      have head := first _
        (ended ((separator.intercalate (second :: texts)).toList ++ rest))
      have between := after?_append separator
        ((separator.intercalate (second :: texts)).toList ++ rest)
      have later := ih (List.cons_ne_nil _ _) (Nat.le_of_succ_le_succ enough)
      rw [split]
      simp only [head, between, later, Option.bind_eq_bind, Option.bind_some]
      rfl

theorem length_le_length_intercalate {separator : String} (nonempty : separator ≠ "")
    (texts : List String) :
    texts.length ≤ (separator.intercalate texts).toList.length + 1 := by
  have one : 1 ≤ separator.toList.length := by
    rw [Nat.one_le_iff_ne_zero, ne_eq, List.length_eq_zero_iff, String.toList_eq_nil_iff]
    exact nonempty
  induction texts with
  | nil => simp
  | cons text texts ih =>
    cases texts with
    | nil => simp
    | cons second texts =>
      rw [String.intercalate_cons_cons, String.toList_append, String.toList_append,
        List.length_append, List.length_append, List.length_cons]
      omega

theorem reads_separated {separator : String} (nonempty : separator ≠ "")
    (ended : ∀ rest, stop (separator.toList ++ rest)) {texts : List String} {values : List α}
    (related : List.Forall₂ (Reads read stop) texts values) (some : texts ≠ []) :
    Reads (separated separator read) (fun rest => stop rest ∧ after? separator rest = none)
      (separator.intercalate texts) values := by
  rintro rest ⟨stopped, last⟩
  have enough := length_le_length_intercalate nonempty texts
  refine separatedUpTo_intercalate ended stopped last related some ?_
  rw [List.length_append]
  omega

/-- A list in brackets is read if no item can be taken for the closing bracket. -/
theorem reads_bracketed {opening closing : String} {texts : List String} {values : List α}
    (related : List.Forall₂ (Reads read stop) texts values)
    (comma : ∀ rest, stop (",".toList ++ rest)) (close : ∀ rest, stop (closing.toList ++ rest))
    (distinct : ∀ rest, after? "," (closing.toList ++ rest) = none)
    (refused : ∀ rest, read (closing.toList ++ rest) = none) (after : List Char → Prop) :
    Reads (bracketed opening closing read) after
      (opening ++ ",".intercalate texts ++ closing) values := by
  intro rest _
  have split : (opening ++ ",".intercalate texts ++ closing).toList ++ rest =
      opening.toList ++ ((",".intercalate texts).toList ++ (closing.toList ++ rest)) := by simp
  unfold bracketed
  rw [split, after?_append]
  simp only [Option.bind_eq_bind, Option.bind_some]
  by_cases some : texts = []
  · subst some
    cases related
    rw [String.intercalate_nil, String.toList_empty, List.nil_append, after?_append]
    rfl
  · have items := reads_separated (by decide) comma related some (closing.toList ++ rest)
      ⟨close rest, distinct rest⟩
    have open' : after? closing ((",".intercalate texts).toList ++ (closing.toList ++ rest)) =
        none := by
      cases found : after? closing ((",".intercalate texts).toList ++ (closing.toList ++ rest)) with
      | none => rfl
      | some early =>
        -- the first item would have been read from the closing bracket
        rw [append_of_after? found] at items
        simp only [separated, separatedUpTo, refused] at items
        cases items
    simp only [open', items, after?_append, Option.bind_some]
    rfl

theorem reads_led (lead : String) (absent : α) (reads : Reads read stop text value) :
    Reads (led lead absent read) stop (lead ++ text) value := by
  intro rest stopped
  have taken := reads rest stopped
  unfold led
  rw [String.toList_append, List.append_assoc, after?_append]
  exact taken

theorem reads_behind (lead : String) (reads : Reads read stop text value) :
    Reads (behind lead read) stop (lead ++ text) value := by
  intro rest stopped
  have taken := reads rest stopped
  unfold behind
  rw [String.toList_append, List.append_assoc, after?_append]
  exact taken

theorem reads_led_absent (lead : String) (absent : α) (read : Reader α) :
    Reads (led lead absent read) (fun rest => after? lead rest = none) "" absent := by
  intro rest missing
  have missing' : after? lead ("".toList ++ rest) = none := missing
  unfold led
  rw [missing']
  rfl

end Reader

end RecordMapper.Text
