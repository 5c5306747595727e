import RecordMapper.Proofs.Condition.Reader
import RecordMapper.Schema.Definition

/-!
What the assertion of a required field means: the condition that is declared for its values
stands in parentheses, so it is joined as a whole to the condition that there is a value,
whatever connectives it has (`Field.assertionClause_holds_iff`).
-/

namespace RecordMapper

open Text.Quoted (Scan)

namespace Condition

/-- A condition in parentheses is a factor as a whole. -/
theorem ofTokens?_group_and {text : List Token} {c : Condition} (read : ofTokens? text = some c)
    {first : List Char} {others : List (List Char)}
    (plain : ∀ text ∈ others, Connective.ofWord? text = none) :
    ofTokens? (.opening :: (text ++ .closing :: Connective.and.token ::
        (first :: others).map Token.word)) =
      some (.single (.and (.single (.group c)) (.atom ((first :: others).map Token.word)))) := by
  have words := State.run_words plain { bottom := { factors := some (.single (.group c)) } }
    [.word first] []
  rw [List.append_nil] at words
  have joined : State.run { phase := .operand (.group c) }
      (Connective.and.token :: (first :: others).map Token.word) = _ := words
  rw [ofTokens?, State.run_group read rfl, joined]
  rfl

/-- The condition that there is a value. -/
def presence : List Token := ["$value", "!=", "NONE"].map fun word => .word word.toList

theorem ofText?_group_presence {text : String} {c : Condition} (read : ofText? text = some c) :
    ofText? ("(" ++ text ++ ") AND $value != NONE") =
      some (.single (.and (.single (.group c)) (.atom presence))) := by
  obtain ⟨closed, read⟩ := ofText?_eq_some read
  have plain : ∀ word ∈ ["!=".toList, "NONE".toList], Connective.ofWord? word = none := by decide
  have spelled : ("(" ++ text ++ ") AND $value != NONE").toList =
      '(' :: (text.toList ++ ')' :: " AND $value != NONE".toList) := by simp
  have opening (rest : List Char) :
      tokens .outside [] ('(' :: rest) = .opening :: tokens .outside [] rest := rfl
  have trailing : tokens .outside [] " AND $value != NONE".toList =
      Connective.and.token :: presence := by decide
  have balanced : Scan.run .outside ("(" ++ text ++ ") AND $value != NONE").toList = .outside := by
    rw [spelled, Scan.run_cons, Scan.run_append]
    exact congrArg (Scan.run · _) closed
  rw [ofText?_of_closed balanced, spelled, opening, tokens_append_separator closed rfl, trailing,
    List.append_assoc]
  exact ofTokens?_group_and read plain

end Condition

namespace Schema

open Condition

/-- The assertion of a required field for which a condition is declared reads as a condition
that is true just when the declared one is and there is a value. -/
theorem Field.assertionClause_holds_iff {field : Field} {condition : Fragment}
    (declared : field.assertion = some condition) (required : field.required) {c : Condition}
    (read : ofText? condition.text = some c) :
    ∃ text whole, field.assertionClause = " ASSERT " ++ text ∧ ofText? text = some whole ∧
      ∀ truth, whole.holds truth ↔ c.holds truth ∧ truth presence := by
  refine ⟨_, _, ?_, ofText?_group_presence read, fun truth => Bool.and_eq_true_iff⟩
  rw [assertionClause, declared, required]
  simp only [String.append_assoc]
  rfl

end Schema

end RecordMapper
