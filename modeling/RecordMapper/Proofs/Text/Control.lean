import RecordMapper.Proofs.Binary64.Text
import RecordMapper.Proofs.Identifier
import RecordMapper.Timestamp.Text

/-!
Texts without control characters, the characters below the blank. Strings of JSON do not hold
these as they are. Record identifiers have none, and neither have the texts of timestamps.
-/

namespace RecordMapper

namespace Text

/-- No character of the text is a control character. -/
def NoControl (text : List Char) : Prop := ∀ c ∈ text, 0x20 ≤ c.toNat

theorem NoControl.append {a b : List Char} (first : NoControl a) (second : NoControl b) :
    NoControl (a ++ b) :=
  List.forall_mem_append.2 ⟨first, second⟩

theorem NoControl.cons {c : Char} {text : List Char} (others : NoControl text)
    (first : 0x20 ≤ c.toNat) : NoControl (c :: text) :=
  List.forall_mem_cons.2 ⟨first, others⟩

end Text

open Text (NoControl)

/-- No character of a key is a control character. -/
theorem Identifier.printable_of_isKeyChar {c : Char} (key : isKeyChar c) : 0x20 ≤ c.toNat := by
  by_contra control
  have none : ∀ n < 0x20, isKeyChar (Char.ofNat n) = false := by decide
  have no := none c.toNat (Nat.lt_of_not_le control)
  rw [Char.ofNat_toNat, key] at no
  cases no

theorem RecordId.noControl_text (id : RecordId) : NoControl id.text.toList := by
  intro c mem
  rcases Identifier.mem_recordKey id.isRecordKey mem with key | rfl
  · exact Identifier.printable_of_isKeyChar key
  · decide

namespace Timestamp

theorem noControl_padded (width n : Nat) : NoControl (padded width n) := by
  intro c mem
  have digit : c.isDigit := by
    rcases List.mem_append.1 mem with zero | digit
    · exact Binary64.isDigit_of_mem_zeros zero
    · exact Nat.isDigit_of_mem_toDigits (by decide) (by decide) digit
  have large := (Char.isDigit_iff_toNat.1 digit).1
  exact Nat.le_trans (by decide) large

theorem noControl_fractionDigits (nanosecond : Nat) : NoControl (fractionDigits nanosecond) := by
  intro c mem
  have inside := List.mem_reverse.1 ((List.dropWhile_sublist _).subset (List.mem_reverse.1 mem))
  exact noControl_padded 9 nanosecond c inside

theorem noControl_offsetText (offset : Int) : NoControl (offsetText offset) := by
  have none : NoControl [] := List.forall_mem_nil _
  have sign : 0x20 ≤ (offsetSign offset).toNat := by
    unfold offsetSign
    split <;> decide
  unfold offsetText
  split
  · exact none.cons (by decide)
  · exact ((noControl_padded _ _).cons sign).append ((noControl_padded _ _).cons (by decide))

/-- The texts of timestamps consist of digits, letters and punctuation. -/
theorem noControl_rfc3339 {t : Timestamp} {text : String} (shown : t.rfc3339? = some text) :
    NoControl text.toList := by
  unfold rfc3339? at shown
  simp only at shown
  split at shown
  · cases shown
  obtain rfl := Option.some.inj shown
  have year := noControl_padded 4 t.reading.date.year.toNat
  have day : NoControl (monthAndDay t.reading.date) :=
    ((noControl_padded _ _).cons (by decide)).append ((noControl_padded _ _).cons (by decide))
  have hour : NoControl ('T' :: padded 2 t.reading.hour) :=
    (noControl_padded _ _).cons (by decide)
  have second : NoControl (minuteAndSecond t.reading) :=
    ((noControl_padded _ _).cons (by decide)).append ((noControl_padded _ _).cons (by decide))
  have fraction : NoControl
      (if t.nanosecond = 0 then [] else '.' :: fractionDigits t.nanosecond) := by
    split
    · exact List.forall_mem_nil _
    · exact (noControl_fractionDigits _).cons (by decide)
  rw [String.toList_ofList]
  exact ((((year.append day).append hour).append second).append fraction).append
    (noControl_offsetText _)

end Timestamp

end RecordMapper
