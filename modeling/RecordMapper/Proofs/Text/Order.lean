import Mathlib.Tactic.SplitIfs
import RecordMapper.Text.Order

/-!
The order of texts by code points is that of their bytes in UTF-8 (`before_iff_bytes`). A lower
code point has a lower encoding, whatever follows it: a longer encoding begins with a higher byte,
and in encodings of one length the bytes hold the code point from its highest bits on.
-/

namespace RecordMapper.Text

/-- The bytes of a text in UTF-8. -/
def bytes (s : String) : List UInt8 := s.toUTF8.data.toList

theorem bytes_ofList (text : List Char) :
    bytes (String.ofList text) = text.flatMap String.utf8EncodeChar := by
  rw [bytes, String.toUTF8_eq_toByteArray, String.toByteArray_ofList]
  simp [List.utf8Encode]

theorem bytes_append (a b : String) : bytes (a ++ b) = bytes a ++ bytes b := by
  simp [bytes, String.toByteArray_append]

/-- Texts of the same bytes are the same. -/
theorem bytes_inj {a b : String} : bytes a = bytes b ↔ a = b := by
  rw [bytes, bytes, Array.toList_inj, ← ByteArray.ext_iff, String.toUTF8_eq_toByteArray,
    String.toUTF8_eq_toByteArray, String.toByteArray_inj]

/-- A character beyond ASCII begins with a byte that is no ASCII code. -/
theorem exists_first_byte {c : Char} (beyond : 0x7F < c.toNat) :
    ∃ first rest, String.utf8EncodeChar c = first :: rest ∧ 0x80 ≤ first.toNat := by
  replace beyond : ¬c.val.toNat ≤ 0x7F := Nat.not_le.2 beyond
  unfold String.utf8EncodeChar
  simp only [beyond, if_false]
  split_ifs
  all_goals
    refine ⟨_, _, rfl, ?_⟩
    rw [UInt8.toNat_ofNat']
    omega

/-- Bytes are compared from the first one on. -/
theorem ofNat_cons_lt_iff {a b : Nat} (a_lt : a < 256) (b_lt : b < 256) {r s : List UInt8} :
    UInt8.ofNat a :: r < UInt8.ofNat b :: s ↔ a < b ∨ a = b ∧ r < s := by
  rw [List.cons_lt_cons_iff, UInt8.lt_iff_toNat_lt, ← UInt8.toNat_inj,
    UInt8.toNat_ofNat_of_lt' a_lt, UInt8.toNat_ofNat_of_lt' b_lt]

theorem utf8EncodeChar_append_lt {c d : Char} (lower : c.toNat < d.toNat) (r s : List UInt8) :
    String.utf8EncodeChar c ++ r < String.utf8EncodeChar d ++ s := by
  have d_lt : d.val.toNat < 0x110000 := by have := d.valid; omega
  replace lower : c.val.toNat < d.val.toNat := lower
  unfold String.utf8EncodeChar
  generalize c.val.toNat = v at *
  generalize d.val.toNat = w at *
  simp only
  -- a case for each pair of lengths, where the lengths are told by the code points
  split_ifs <;>
    simp (disch := omega) only [List.cons_append, List.nil_append, ofNat_cons_lt_iff,
      Nat.mod_eq_of_lt] <;>
    omega

theorem flatMap_utf8EncodeChar_lt {a b : List Char} (before : precedes a b) :
    a.flatMap String.utf8EncodeChar < b.flatMap String.utf8EncodeChar := by
  induction a generalizing b with
  | nil =>
    cases b with
    | nil => cases before
    | cons d b =>
      rw [List.flatMap_nil, List.flatMap_cons]
      cases encoded : String.utf8EncodeChar d with
      | nil => exact (String.utf8EncodeChar_ne_nil encoded).elim
      | cons byte rest => exact List.nil_lt_cons _ _
  | cons c a ih =>
    cases b with
    | nil => cases before
    | cons d b =>
      rw [List.flatMap_cons, List.flatMap_cons]
      simp only [precedes, Bool.or_eq_true, Bool.and_eq_true, decide_eq_true_eq] at before
      rcases before with lower | ⟨rfl, before⟩
      · exact utf8EncodeChar_append_lt lower _ _
      · exact List.append_left_lt (ih before)

/-- The first text comes before the second where its bytes do. -/
theorem before_iff_bytes {a b : String} : Before a b ↔ bytes a < bytes b := by
  have lt {a b : String} (before : Before a b) : bytes a < bytes b := by
    rw [← String.ofList_toList (s := a), ← String.ofList_toList (s := b), bytes_ofList,
      bytes_ofList]
    exact flatMap_utf8EncodeChar_lt before
  refine ⟨lt, fun less => ?_⟩
  by_cases before : Before a b
  · exact before
  · by_cases after : Before b a
    · exact absurd (lt after) (List.lt_asymm less)
    · cases eq_of_not_before before after
      exact absurd less (List.lt_irrefl _)

end RecordMapper.Text
