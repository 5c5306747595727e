/-!
Texts that are joined by a separator. If it does not occur in the texts themselves, splitting
the whole finds them again (`partsAt_intercalate`), so that different texts are never joined to
the same. With line breaks as the separator these are texts on one line, and such texts are
closed under putting them together.
-/

namespace RecordMapper.Text

/-- The parts of a text between the occurrences of a separator. -/
def partsAt (separator : Char) (text : String) : List String :=
  (text.split separator).toList.map fun part => part.copy

theorem partsAt_intercalate {separator : Char} {texts : List String} (nonempty : texts ≠ [])
    (each : ∀ text ∈ texts, separator ∉ text.toList) :
    partsAt separator ((String.singleton separator).intercalate texts) = texts := by
  have found := String.toList_split_intercalate each
  rwa [if_neg nonempty] at found

/-! ## Texts on one line -/

/-- The text has no line break. -/
def OneLine (text : String) : Prop := '\n' ∉ text.toList

instance (text : String) : Decidable (OneLine text) :=
  inferInstanceAs (Decidable ('\n' ∉ text.toList))

theorem OneLine.append {a b : String} (first : OneLine a) (second : OneLine b) :
    OneLine (a ++ b) := by
  rw [OneLine, String.toList_append, List.mem_append]
  exact not_or.2 ⟨first, second⟩

theorem oneLine_intercalate {separator : String} (apart : OneLine separator) {texts : List String}
    (each : ∀ text ∈ texts, OneLine text) : OneLine (separator.intercalate texts) := by
  induction texts with
  | nil => rw [String.intercalate_nil]; decide
  | cons first texts ih =>
    obtain ⟨head, others⟩ := List.forall_mem_cons.1 each
    cases texts with
    | nil => rwa [String.intercalate_singleton]
    | cons second texts =>
      rw [String.intercalate_cons_cons]
      exact (head.append apart).append (ih others)

end RecordMapper.Text
