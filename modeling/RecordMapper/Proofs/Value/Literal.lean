import RecordMapper.Value.Literal

/-!
Literals that exist. Only doubles and timestamps can lack a literal by themselves; a double
that has one is finite, and a timestamp that has one has a text in UTC.
-/

namespace RecordMapper.Value

theorem floatLiteral_eq_ok {x : Binary64} {text : String} (written : floatLiteral x = .ok text) :
    ∃ y, x = .finite y ∧ text = Binary64.Layout.plain.write y := by
  cases x with
  | finite y =>
    cases written
    exact ⟨y, rfl, rfl⟩
  | nan => cases written
  | infinite negative => cases written

theorem timestampLiteral_eq_ok {t : Timestamp} {text : String}
    (written : timestampLiteral t = .ok text) :
    ∃ utc, t.utcText? = some utc ∧ text = Text.quoted utc := by
  unfold timestampLiteral at written
  split at written
  · rename_i utc shown
    cases written
    exact ⟨utc, shown, rfl⟩
  · cases written

end RecordMapper.Value
