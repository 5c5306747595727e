/-!
Whole numbers as decimal text, and reading them back: `natural?_toString` and
`integer?_toString`. Their text has no zeros in front (`noLeadingZero_toDigits`).
-/

namespace RecordMapper.Text

/-- The natural number that decimal digits show. -/
def natural? (digits : List Char) : Option Nat :=
  if digits ≠ [] ∧ digits.all Char.isDigit then some (Nat.ofDigitChars 10 digits 0) else none

/-- The whole number that decimal digits show, with a minus before them if it is negative. -/
def integer? : List Char → Option Int
  | '-' :: digits => (natural? digits).map fun n : Nat => -(n : Int)
  | digits => (natural? digits).map fun n : Nat => (n : Int)

theorem isDigit_of_mem_nat {n : Nat} {c : Char} (mem : c ∈ (toString n).toList) : c.isDigit := by
  have digits : c ∈ Nat.toDigits 10 n := by simpa using mem
  exact Nat.isDigit_of_mem_toDigits (by decide) (by decide) digits

/-- The first digit of a number is not zero. The induction takes the last digit off. -/
theorem head?_toDigits {n : Nat} (pos : 0 < n) : (Nat.toDigits 10 n).head? ≠ some '0' := by
  induction n using Nat.strongRecOn with
  | ind n ih =>
    rw [Nat.toDigits_eq_if (by decide)]
    split
    · rename_i small
      have nonzero : ∀ d < 10, 0 < d → [Nat.digitChar d].head? ≠ some '0' := by decide
      exact nonzero n small pos
    · rename_i large
      have fewer := ih (n / 10) (by omega) (by omega)
      obtain ⟨first, others, shown⟩ :=
        List.exists_cons_of_ne_nil (Nat.toDigits_ne_nil (n := n / 10) (b := 10))
      rw [shown] at fewer ⊢
      exact fewer

/-- A zero at the start of the text is followed by no other digit. -/
def NoLeadingZero (text : List Char) : Prop :=
  ∀ c rest, text = '0' :: c :: rest → c.isDigit = false

theorem noLeadingZero_of_head? {text : List Char} (head : text.head? ≠ some '0') :
    NoLeadingZero text := by
  rintro c rest rfl
  exact absurd rfl head

theorem noLeadingZero_toDigits (n : Nat) : NoLeadingZero (Nat.toDigits 10 n) := by
  rcases Nat.eq_zero_or_pos n with rfl | pos
  · intro c rest spelled
    cases spelled
  · exact noLeadingZero_of_head? (head?_toDigits pos)

theorem mem_int {n : Int} {c : Char} (mem : c ∈ (toString n).toList) : c.isDigit ∨ c = '-' := by
  cases n with
  | ofNat k => exact .inl (isDigit_of_mem_nat (show c ∈ (toString k).toList from mem))
  | negSucc k =>
    have signed : (toString (Int.negSucc k)).toList = '-' :: (toString (k + 1)).toList :=
      String.toList_append
    rw [signed] at mem
    rcases List.mem_cons.1 mem with minus | mem
    · exact .inr minus
    · exact .inl (isDigit_of_mem_nat mem)

theorem natural?_toString (n : Nat) : natural? (toString n).toList = some n := by
  have digits : (toString n).toList = Nat.toDigits 10 n := by simp
  have all : (toString n).toList.all Char.isDigit :=
    List.all_eq_true.2 fun c mem => isDigit_of_mem_nat mem
  have nonempty : (toString n).toList ≠ [] := by
    rw [digits]
    exact Nat.toDigits_ne_nil
  rw [natural?, if_pos ⟨nonempty, all⟩, digits, Nat.ofDigitChars_ten_toDigits]

theorem integer?_toString (n : Int) : integer? (toString n).toList = some n := by
  cases n with
  | ofNat k =>
    have same : toString (Int.ofNat k) = toString k := rfl
    rw [same]
    unfold integer?
    split
    · rename_i digits split
      have minus : '-' ∈ (toString k).toList := by
        rw [split]
        exact List.mem_cons_self
      exact absurd (isDigit_of_mem_nat minus) (by decide)
    · rw [natural?_toString]
      rfl
  | negSucc k =>
    have signed : (toString (Int.negSucc k)).toList = '-' :: (toString (k + 1)).toList :=
      String.toList_append
    rw [signed, integer?, natural?_toString]
    rfl

theorem int_ne_nil (n : Int) : (toString n).toList ≠ [] := by
  intro empty
  have read := integer?_toString n
  rw [empty] at read
  cases read

end RecordMapper.Text
