import RecordMapper.Proofs.Text.Skeleton

/-!
Conditions, as the query language reads them: atomic conditions are combined by `AND` and
`OR`, of which `AND` binds tighter, and parentheses group. `Condition.ofText?` reads the text of
a condition, and `Condition.holds` says when it is true, given which atomic conditions are.

* `State.step_restrict`, `State.run_restrict`: what has been read of a condition does not look
  back at the factors that stand before it.
* `ofTokens?_and`: so an operand that is joined by `AND` to the left of a condition becomes a
  factor of its first alternative (`Condition.restrict`), and of no other.
-/

namespace RecordMapper

open Text.Quoted (Scan skeleton isBalanced)

namespace Condition

/-! ## Tokens -/

/-- The tokens of a condition. Double-quoted literals belong to words. -/
inductive Token where
  | opening
  | closing
  | word (text : List Char)
deriving DecidableEq

/-- The characters that end a word, outside literals. -/
def isSeparator (c : Char) : Bool := c.isWhitespace || c = '(' || c = ')'

/-- The token, if any, that a separator stands for. -/
def Token.ofSeparator : Char → List Token
  | '(' => [.opening]
  | ')' => [.closing]
  | _ => []

/-- The word whose characters have been read, if there are any. -/
def Token.ofWord (read : List Char) : List Token := if read = [] then [] else [.word read]

/-- The tokens of a text, of whose first word some characters have been read. -/
def tokens : Scan → List Char → List Char → List Token
  | _, read, [] => Token.ofWord read
  | state, read, c :: rest =>
    if state = .outside ∧ isSeparator c then
      Token.ofWord read ++ Token.ofSeparator c ++ tokens .outside [] rest
    else tokens (state.step c) (read ++ [c]) rest

/-- The text is a single word. -/
structure IsWord (text : List Char) : Prop where
  nonempty : text ≠ []
  closed : Scan.run .outside text = .outside
  whole : ∀ c ∈ skeleton .outside text, ¬isSeparator c

theorem isWord_of_plain {text : List Char} (nonempty : text ≠ [])
    (plain : ∀ c ∈ text, c ≠ '"' ∧ ¬isSeparator c) : IsWord text := by
  have noQuote : '"' ∉ text := fun mem => (plain _ mem).1 rfl
  obtain ⟨closed, shown⟩ := Text.Quoted.run_of_no_quote noQuote
  refine ⟨nonempty, closed, ?_⟩
  rw [shown]
  exact fun c mem => (plain c mem).2

/-- A part of a text without separators outside literals belongs to one word with what
follows it. -/
theorem tokens_append {state : Scan} {text : List Char}
    (whole : ∀ c ∈ skeleton state text, ¬isSeparator c) (read tail : List Char) :
    tokens state read (text ++ tail) = tokens (state.run text) (read ++ text) tail := by
  induction text generalizing state read with
  | nil => simp
  | cons c text ih =>
    have joined : ¬(state = .outside ∧ isSeparator c) := by
      rintro ⟨rfl, separator⟩
      exact whole c (by simp [skeleton]) separator
    have later : ∀ d ∈ skeleton (state.step c) text, ¬isSeparator d :=
      fun d mem => whole d (Text.Quoted.mem_skeleton_cons mem)
    rw [List.cons_append, tokens, if_neg joined, ih later, Scan.run_cons, List.append_assoc,
      List.singleton_append]

theorem tokens_word {text : List Char} (word : IsWord text) :
    tokens .outside [] text = [.word text] := by
  have read := tokens_append word.whole [] []
  rw [List.append_nil, word.closed] at read
  rw [read, tokens, Token.ofWord, List.nil_append, if_neg word.nonempty]

/-- Before a separator outside literals a text has its own tokens. -/
theorem tokens_append_separator {state : Scan} {text : List Char}
    (closed : state.run text = .outside) {c : Char} (separator : isSeparator c)
    (read tail : List Char) :
    tokens state read (text ++ c :: tail) =
      tokens state read text ++ Token.ofSeparator c ++ tokens .outside [] tail := by
  induction text generalizing state read with
  | nil =>
    cases closed
    have cut : tokens (Scan.run .outside []) read (c :: tail) =
        Token.ofWord read ++ Token.ofSeparator c ++ tokens .outside [] tail :=
      if_pos ⟨rfl, separator⟩
    exact cut
  | cons d text ih =>
    rw [Scan.run_cons] at closed
    rw [List.cons_append, tokens, tokens]
    by_cases ending : state = .outside ∧ isSeparator d
    · have stays : state.step d = .outside := by
        obtain ⟨rfl, here⟩ := ending
        have notQuote : d ≠ '"' := by
          rintro rfl
          exact absurd here (by decide)
        exact if_neg notQuote
      rw [stays] at closed
      rw [if_pos ending, if_pos ending, ih closed]
      simp only [List.append_assoc]
    · rw [if_neg ending, if_neg ending, ih closed]

theorem tokens_word_blank {text : List Char} (word : IsWord text) (tail : List Char) :
    tokens .outside [] (text ++ ' ' :: tail) = .word text :: tokens .outside [] tail := by
  rw [tokens_append_separator word.closed rfl, tokens_word word]
  rfl

/-! ## Connectives -/

inductive Connective where
  | and
  | or
deriving DecidableEq

/-- The connective that a word is, in capital or small letters. -/
def Connective.ofWord? (word : List Char) : Option Connective :=
  if word.map Char.toUpper = "AND".toList then some .and
  else if word.map Char.toUpper = "OR".toList then some .or
  else none

def Connective.token : Connective → Token
  | .and => .word "AND".toList
  | .or => .word "OR".toList

/-- A word with any character that connectives lack is none. -/
theorem Connective.ofWord?_eq_none {word : List Char} {c : Char} (mem : c ∈ word)
    (foreign : c.toUpper ∉ "ANDOR".toList) : ofWord? word = none := by
  have shown : c.toUpper ∈ word.map Char.toUpper := List.mem_map_of_mem mem
  have notAnd : word.map Char.toUpper ≠ "AND".toList := by
    intro same
    rw [same] at shown
    exact foreign (List.mem_append_left "OR".toList shown)
  have notOr : word.map Char.toUpper ≠ "OR".toList := by
    intro same
    rw [same] at shown
    exact foreign (List.mem_append_right "AND".toList shown)
  rw [ofWord?, if_neg notAnd, if_neg notOr]

end Condition

/-! ## Conditions -/

mutual

/-- What connectives combine: an atomic condition, or a condition in parentheses. -/
inductive Operand where
  | atom (text : List Condition.Token)
  | group (inner : Condition)
deriving DecidableEq

/-- One or more operands, all of which have to be true. -/
inductive Conjunction where
  | single (operand : Operand)
  | and (left : Conjunction) (right : Operand)
deriving DecidableEq

/-- One or more alternatives, of which one has to be true. -/
inductive Condition where
  | single (alternative : Conjunction)
  | or (left : Condition) (right : Conjunction)
deriving DecidableEq

end

/-- Which atomic conditions are true. -/
abbrev Condition.Truth := List Condition.Token → Bool

mutual

def Operand.holds (truth : Condition.Truth) : Operand → Bool
  | .atom text => truth text
  | .group inner => inner.holds truth

def Conjunction.holds (truth : Condition.Truth) : Conjunction → Bool
  | .single operand => operand.holds truth
  | .and left right => left.holds truth && right.holds truth

def Condition.holds (truth : Condition.Truth) : Condition → Bool
  | .single alternative => alternative.holds truth
  | .or left right => left.holds truth || right.holds truth

end

mutual

def Operand.text : Operand → List Condition.Token
  | .atom text => text
  | .group inner => .opening :: inner.text ++ [.closing]

def Conjunction.text : Conjunction → List Condition.Token
  | .single operand => operand.text
  | .and left right => left.text ++ Condition.Connective.and.token :: right.text

def Condition.text : Condition → List Condition.Token
  | .single alternative => alternative.text
  | .or left right => left.text ++ Condition.Connective.or.token :: right.text

end

/-- The conjunction with more factors before its own. -/
def Conjunction.restrict : Conjunction → Conjunction → Conjunction
  | .single operand, factors => .and factors operand
  | .and left right, factors => .and (left.restrict factors) right

namespace Condition

/-- The condition with more factors before those of its first alternative. -/
def restrict : Condition → Conjunction → Condition
  | .single alternative, factors => .single (alternative.restrict factors)
  | .or left right, factors => .or (left.restrict factors) right

def firstAlternative : Condition → Conjunction
  | .single alternative => alternative
  | .or left _ => left.firstAlternative

/-- The alternatives after the first one. -/
def laterAlternatives : Condition → List Conjunction
  | .single _ => []
  | .or left right => left.laterAlternatives ++ [right]

end Condition

section Truth

variable (truth : Condition.Truth)

theorem Conjunction.holds_restrict : ∀ c factors : Conjunction,
    (c.restrict factors).holds truth ↔ factors.holds truth ∧ c.holds truth
  | .single operand, factors => by
    simp only [restrict, holds, Bool.and_eq_true]
  | .and left right, factors => by
    simp only [restrict, holds, Bool.and_eq_true, left.holds_restrict factors, and_assoc]

namespace Condition

theorem holds_iff : ∀ c : Condition,
    c.holds truth ↔
      c.firstAlternative.holds truth ∨ ∃ d ∈ c.laterAlternatives, d.holds truth
  | .single alternative => by simp [holds, firstAlternative, laterAlternatives]
  | .or left right => by
    simp only [holds, firstAlternative, laterAlternatives, Bool.or_eq_true, left.holds_iff,
      List.mem_append, List.mem_singleton, or_and_right, exists_or, exists_eq_left, or_assoc]

theorem firstAlternative_restrict (factors : Conjunction) : ∀ c : Condition,
    (c.restrict factors).firstAlternative = c.firstAlternative.restrict factors
  | .single _ => rfl
  | .or left _ => left.firstAlternative_restrict factors

theorem laterAlternatives_restrict (factors : Conjunction) : ∀ c : Condition,
    (c.restrict factors).laterAlternatives = c.laterAlternatives
  | .single _ => rfl
  | .or left right => congrArg (· ++ [right]) (left.laterAlternatives_restrict factors)

end Condition

end Truth

/-! ## Reading -/

namespace Condition

/-- What has been read inside one pair of parentheses, up to the last connective: the
alternatives that are complete, and the factors of the one that is not. -/
structure Level where
  alternatives : Option Condition := none
  factors : Option Conjunction := none

namespace Level

/-- The factors with the last one. -/
def conjoin (level : Level) (operand : Operand) : Conjunction :=
  match level.factors with
  | none => .single operand
  | some factors => .and factors operand

/-- The condition that ends with an operand. -/
def close (level : Level) (operand : Operand) : Condition :=
  match level.alternatives with
  | none => .single (level.conjoin operand)
  | some alternatives => .or alternatives (level.conjoin operand)

/-- The level after an operand and a connective. -/
def join (level : Level) (operand : Operand) : Connective → Level
  | .and => { level with factors := some (level.conjoin operand) }
  | .or => { alternatives := some (level.close operand) }

/-- The level with more factors at its start. -/
def restrict (level : Level) (factors : Conjunction) : Level :=
  match level.alternatives with
  | some alternatives => { level with alternatives := some (alternatives.restrict factors) }
  | none => { factors := some (level.factors.elim factors fun own => own.restrict factors) }

theorem close_restrict (level : Level) (factors : Conjunction) (operand : Operand) :
    (level.restrict factors).close operand = (level.close operand).restrict factors := by
  rcases level with ⟨_ | alternatives, _ | own⟩ <;> rfl

theorem join_restrict (level : Level) (factors : Conjunction) (operand : Operand)
    (connective : Connective) :
    (level.restrict factors).join operand connective =
      (level.join operand connective).restrict factors := by
  cases connective with
  | and => rcases level with ⟨_ | alternatives, _ | own⟩ <;> rfl
  | or =>
    unfold join
    rw [close_restrict]
    rfl

end Level

/-- Where the reading of an operand stands. -/
inductive Phase where
  /-- An operand has to begin. -/
  | start
  /-- The operand may be complete. -/
  | operand (read : Operand)
  /-- Inside one and more parentheses that belong to an atomic condition. -/
  | nested (depth : Nat) (read : List Token)

/-- The levels around the next token, and the operand it may belong to. -/
structure State where
  bottom : Level := {}
  /-- The levels of open parentheses, the innermost first. -/
  inner : List Level := []
  phase : Phase := .start

namespace State

/-- An operand and a connective after it have been read. -/
def join (s : State) (operand : Operand) (connective : Connective) : State :=
  match s.inner with
  | [] => { s with bottom := s.bottom.join operand connective, phase := .start }
  | level :: outer => { s with inner := level.join operand connective :: outer, phase := .start }

/-- An operand and the parenthesis that closes its level have been read. -/
def close? (s : State) (operand : Operand) : Option State :=
  match s.inner with
  | [] => none
  | level :: outer =>
    some { s with inner := outer, phase := .operand (.group (level.close operand)) }

/-- One token. Where an operand has to begin, a parenthesis opens a group, and a connective is
a word like others; after a group, what is neither a connective nor the end makes it the
beginning of an atomic condition. -/
def step (s : State) (token : Token) : Option State :=
  match s.phase, token with
  | .start, .opening => some { s with inner := {} :: s.inner }
  | .start, .closing => none
  | .start, .word _ => some { s with phase := .operand (.atom [token]) }
  | .operand read, .opening => some { s with phase := .nested 0 (read.text ++ [token]) }
  | .operand read, .closing => s.close? read
  | .operand read, .word text =>
    match Connective.ofWord? text with
    | some connective => some (s.join read connective)
    | none => some { s with phase := .operand (.atom (read.text ++ [token])) }
  | .nested depth read, .opening => some { s with phase := .nested (depth + 1) (read ++ [token]) }
  | .nested 0 read, .closing => some { s with phase := .operand (.atom (read ++ [token])) }
  | .nested (depth + 1) read, .closing => some { s with phase := .nested depth (read ++ [token]) }
  | .nested depth read, .word _ => some { s with phase := .nested depth (read ++ [token]) }

/-- Token by token. -/
def run (s : State) : List Token → Option State
  | [] => some s
  | token :: rest => (s.step token).bind fun s => s.run rest

/-- The condition that has been read, if it may end here. -/
def finish? (s : State) : Option Condition :=
  match s.inner, s.phase with
  | [], .operand read => some (s.bottom.close read)
  | _, _ => none

/-- The state as it is when more factors stand at the start of the condition. -/
def restrict (s : State) (factors : Conjunction) : State :=
  { s with bottom := s.bottom.restrict factors }

theorem join_restrict (s : State) (factors : Conjunction) (operand : Operand)
    (connective : Connective) :
    (s.restrict factors).join operand connective =
      (s.join operand connective).restrict factors := by
  rcases s with ⟨bottom, _ | ⟨level, outer⟩, phase⟩
  · exact congrArg (State.mk · [] .start) (bottom.join_restrict factors operand connective)
  · rfl

theorem close?_restrict (s : State) (factors : Conjunction) (operand : Operand) :
    (s.restrict factors).close? operand =
      (s.close? operand).map fun s => s.restrict factors := by
  rcases s with ⟨bottom, _ | ⟨level, outer⟩, phase⟩ <;> rfl

/-- One token does to a state the same whatever factors stand at the start. -/
theorem step_restrict (s : State) (factors : Conjunction) (token : Token) :
    (s.restrict factors).step token = (s.step token).map fun s => s.restrict factors := by
  rcases s with ⟨bottom, inner, phase⟩
  cases phase with
  | start => cases token <;> rfl
  | operand read =>
    cases token with
    | opening => rfl
    | closing => exact close?_restrict _ factors read
    | word text =>
      unfold step
      dsimp only [restrict]
      cases Connective.ofWord? text with
      | none => rfl
      | some connective =>
        exact congrArg some (join_restrict ⟨bottom, inner, _⟩ factors read connective)
  | nested depth read =>
    cases token with
    | opening => rfl
    | closing => cases depth <;> rfl
    | word text => cases depth <;> rfl

theorem run_restrict (s : State) (factors : Conjunction) (rest : List Token) :
    (s.restrict factors).run rest = (s.run rest).map fun s => s.restrict factors := by
  induction rest generalizing s with
  | nil => rfl
  | cons token rest ih =>
    rw [run, run, step_restrict]
    cases s.step token with
    | none => rfl
    | some next => exact ih next

theorem finish?_restrict (s : State) (factors : Conjunction) :
    (s.restrict factors).finish? = s.finish?.map fun c => c.restrict factors := by
  rcases s with ⟨bottom, _ | ⟨level, outer⟩, phase⟩
  · cases phase with
    | operand read => exact congrArg some (bottom.close_restrict factors read)
    | start => rfl
    | nested depth read => rfl
  · rfl

/-- The state inside a pair of parentheses that was opened in another state. -/
def below (s outer : State) : State :=
  { bottom := outer.bottom, inner := s.inner ++ s.bottom :: outer.inner, phase := s.phase }

/-- One token does to a state the same inside parentheses. -/
theorem step_below {s next : State} {token : Token} (stepped : s.step token = some next)
    (outer : State) : (s.below outer).step token = some (next.below outer) := by
  rcases s with ⟨bottom, inner, phase⟩
  cases phase with
  | start =>
    cases token with
    | opening => cases stepped; rfl
    | closing => cases stepped
    | word text => cases stepped; rfl
  | operand read =>
    cases token with
    | opening => cases stepped; rfl
    | closing =>
      cases inner with
      | nil => cases stepped
      | cons level others => cases stepped; rfl
    | word text =>
      unfold step at stepped ⊢
      dsimp only [below] at stepped ⊢
      cases known : Connective.ofWord? text with
      | none =>
        rw [known] at stepped
        cases stepped
        rfl
      | some connective =>
        rw [known] at stepped
        cases inner <;> cases stepped <;> rfl
  | nested depth read =>
    cases token with
    | opening => cases stepped; rfl
    | closing => cases depth <;> cases stepped <;> rfl
    | word text => cases depth <;> cases stepped <;> rfl

theorem run_below {s last : State} {text : List Token} (done : s.run text = some last)
    (outer : State) (rest : List Token) :
    (s.below outer).run (text ++ rest) = (last.below outer).run rest := by
  induction text generalizing s with
  | nil =>
    cases done
    rfl
  | cons token text ih =>
    obtain ⟨next, stepped, done⟩ := Option.bind_eq_some_iff.1 done
    rw [List.cons_append, run, step_below stepped, Option.bind_some, ih done]

end State

/-- The condition that tokens form. -/
def ofTokens? (text : List Token) : Option Condition := (State.run {} text).bind State.finish?

/-- The condition that a text shows. Every literal has to be closed in it. -/
def ofText? (text : String) : Option Condition :=
  if isBalanced text.toList then ofTokens? (tokens .outside [] text.toList) else none

theorem ofText?_of_closed {text : String} (closed : Scan.run .outside text.toList = .outside) :
    ofText? text = ofTokens? (tokens .outside [] text.toList) := by
  have balanced : isBalanced text.toList := decide_eq_true closed
  rw [ofText?, if_pos balanced]

theorem ofText?_of_open {text : String} (unclosed : Scan.run .outside text.toList ≠ .outside) :
    ofText? text = none := by
  have unbalanced : ¬isBalanced text.toList := fun balanced => unclosed (of_decide_eq_true balanced)
  rw [ofText?, if_neg unbalanced]

theorem ofText?_eq_some {text : String} {c : Condition} (read : ofText? text = some c) :
    Scan.run .outside text.toList = .outside ∧
      ofTokens? (tokens .outside [] text.toList) = some c := by
  by_cases closed : Scan.run .outside text.toList = .outside
  · exact ⟨closed, ofText?_of_closed closed ▸ read⟩
  · rw [ofText?_of_open closed] at read
    cases read

/-- A condition in parentheses is one operand. -/
theorem State.run_group {text : List Token} {c : Condition} (read : ofTokens? text = some c)
    {s : State} (start : s.phase = .start) (rest : List Token) :
    s.run (.opening :: (text ++ .closing :: rest)) =
      { s with phase := .operand (.group c) }.run rest := by
  obtain ⟨last, done, finished⟩ := Option.bind_eq_some_iff.1 read
  have opened : s.step .opening = some (State.below {} s) := by
    rcases s with ⟨bottom, inner, phase⟩
    cases start
    rfl
  have closed : (last.below s).step .closing = some { s with phase := .operand (.group c) } := by
    rcases last with ⟨bottom, inner, phase⟩
    cases inner with
    | cons level outer => cases finished
    | nil =>
      cases phase with
      | start => cases finished
      | nested depth read => cases finished
      | operand read => cases finished; rfl
  rw [run, opened, Option.bind_some, run_below done, run, closed, Option.bind_some]

/-- Words of which none but the first is a connective are read as one atomic condition. -/
theorem State.run_words {others : List (List Char)}
    (plain : ∀ text ∈ others, Connective.ofWord? text = none) (s : State) (read : List Token)
    (rest : List Token) :
    { s with phase := .operand (.atom read) : State }.run (others.map Token.word ++ rest) =
      { s with phase := .operand (.atom (read ++ others.map Token.word)) : State }.run rest := by
  induction others generalizing read with
  | nil => simp
  | cons text others ih =>
    obtain ⟨here, later⟩ := List.forall_mem_cons.1 plain
    have stepped : { s with phase := .operand (.atom read) : State }.step (.word text) =
        some { s with phase := .operand (.atom (read ++ [.word text])) } := by
      unfold step
      dsimp only
      rw [here]
      rfl
    rw [List.map_cons, List.cons_append, run, stepped, Option.bind_some, ih later,
      List.append_assoc, List.singleton_append]

/-- An atomic condition of such words, joined to the left of a condition by a connective, becomes
a factor of its first alternative. -/
theorem ofTokens?_and {first : List Char} {others : List (List Char)}
    (plain : ∀ text ∈ others, Connective.ofWord? text = none) (rest : List Token) :
    ofTokens? ((first :: others).map Token.word ++ Connective.and.token :: rest) =
      (ofTokens? rest).map fun c =>
        c.restrict (.single (.atom ((first :: others).map Token.word))) := by
  let atom : Operand := .atom ((first :: others).map Token.word)
  have joined : State.run {} ((first :: others).map Token.word ++ Connective.and.token :: rest) =
      (State.restrict {} (.single atom)).run rest := by
    exact State.run_words plain {} [.word first] (Connective.and.token :: rest)
  unfold ofTokens?
  rw [joined, State.run_restrict]
  cases State.run {} rest with
  | none => rfl
  | some s => exact s.finish?_restrict (.single atom)

/-- The equation of `a` counts for one alternative only, unless parentheses hold the two together;
a connective in a literal is none. -/
example :
    let equation (name value : String) : Operand :=
      .atom ([name, "=", value].map fun word => .word word.toList)
    ofText? "a = 1 AND b = \" OR \" OR c = 3" =
      some (.or (.single (.and (.single (equation "a" "1")) (equation "b" "\" OR \"")))
        (.single (equation "c" "3"))) ∧
    ofText? "a = 1 AND (b = 2 OR c = 3)" =
      some (.single (.and (.single (equation "a" "1"))
        (.group (.or (.single (.single (equation "b" "2"))) (.single (equation "c" "3")))))) := by
  decide +kernel

/-- Words of which none but the first is a connective form an atomic condition. -/
theorem ofTokens?_words {first : List Char} {others : List (List Char)}
    (plain : ∀ text ∈ others, Connective.ofWord? text = none) :
    ofTokens? ((first :: others).map Token.word) =
      some (.single (.single (.atom ((first :: others).map Token.word)))) := by
  have read := State.run_words plain {} [.word first] []
  rw [List.append_nil] at read
  exact congrArg (Option.bind · State.finish?) read

end Condition

end RecordMapper
