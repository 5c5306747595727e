import Mathlib.Data.List.TakeWhile
import RecordMapper.Binary64.Text
import RecordMapper.Proofs.Binary64.Decimal
import RecordMapper.Proofs.Text.Number

/-!
Text of doubles reads back. A text that any layout writes is a sign, digits, a fraction and
an exponent, some of which may be missing; `ofText?_number` reads such a text, and
`ofText?_write` says that reading gives the double that was written. `Layout.plain_write_chars`
tells which characters occur, and `Layout.write_shows_float` that a point or an exponent
always does, so the text never reads as a whole number. A zero stands in front only before
the point (`Layout.noLeadingZero_magnitude`).
-/

namespace RecordMapper.Binary64

/-! ## Digits of a decimal -/

theorem digit_ne {c : Char} (digit : c.isDigit) {d : Char} (other : d.isDigit = false) : c ≠ d := by
  rintro rfl
  rw [other] at digit
  exact Bool.false_ne_true digit

namespace Decimal

/-- Digits lose only zeros at their end. -/
theorem dropTrailingZeros_append (digits : List Char) :
    ∃ k, digits = dropTrailingZeros digits ++ List.replicate k '0' := by
  have zeros : (digits.reverse.takeWhile (· = '0')) =
      List.replicate (digits.reverse.takeWhile (· = '0')).length '0' :=
    List.eq_replicate_iff.2 ⟨rfl, fun c mem => by simpa using List.mem_takeWhile_imp mem⟩
  refine ⟨(digits.reverse.takeWhile (· = '0')).length, ?_⟩
  rw [dropTrailingZeros, ← List.reverse_replicate, ← zeros, ← List.reverse_append,
    List.takeWhile_append_dropWhile, List.reverse_reverse]

variable {d : Decimal}

/-- The digits of a decimal, followed by zeros, are those of its coefficient. -/
theorem exists_zeros (d : Decimal) :
    ∃ k, Nat.toDigits 10 d.coefficient = d.digits ++ List.replicate k '0' :=
  dropTrailingZeros_append _

theorem isDigit_of_mem_digits {c : Char} (mem : c ∈ d.digits) : c.isDigit := by
  rcases d.exists_zeros with ⟨k, all⟩
  exact Nat.isDigit_of_mem_toDigits (by decide) (by decide)
    (all ▸ List.mem_append_left _ mem : c ∈ Nat.toDigits 10 d.coefficient)

/-- The digits of a nonzero decimal hold its value, less the zeros that were dropped. -/
theorem coefficient_eq (d : Decimal) : ∃ k, d.coefficient = digitsValue d.digits * 10 ^ k ∧
    decimalLength d.coefficient = d.digits.length + k := by
  rcases d.exists_zeros with ⟨k, all⟩
  refine ⟨k, ?_, ?_⟩
  · calc d.coefficient
        = Nat.ofDigitChars 10 (Nat.toDigits 10 d.coefficient) 0 :=
          Nat.ofDigitChars_ten_toDigits.symm
      _ = digitsValue d.digits * 10 ^ k := by
          rw [all, Nat.ofDigitChars_append, Nat.ofDigitChars_replicate_zero, Nat.mul_comm]
          rfl
  · rw [decimalLength, all, List.length_append, List.length_replicate]

theorem digits_ne_nil (nonzero : d.coefficient ≠ 0) : d.digits ≠ [] := by
  intro none
  rcases d.coefficient_eq with ⟨k, value, -⟩
  rw [none] at value
  exact nonzero (value.trans (Nat.zero_mul _))

/-- The digits of a magnitude other than zero are those of a number other than zero. -/
theorem coefficient_shortest_ne_zero (tie : Tie) {rank : Nat} (nonzero : rank ≠ 0)
    (finite : rank < rankBound) : (shortest tie rank).coefficient ≠ 0 := by
  intro none
  have read := rank_shortest tie nonzero finite
  rw [Decimal.rank, rankOfDecimal, if_pos none] at read
  exact nonzero read.symm

/-- What the written digits round to, given the power of ten of the first of them. -/
theorem rankOfDecimal_digits (d : Decimal) :
    rankOfDecimal (digitsValue d.digits) (d.leadingPower + 1 - d.digits.length) = d.rank := by
  rcases d.coefficient_eq with ⟨k, value, length⟩
  have power : d.leadingPower + 1 - d.digits.length = d.exponent + k := by
    rw [leadingPower, length]; push_cast; ring
  rw [power, ← rankOfDecimal_shift, ← value, rank]

end Decimal

/-! ## Reading a number -/

/-- A fraction with its point; no point without a fraction. -/
def pointed (fraction : List Char) : List Char :=
  if fraction.isEmpty then [] else '.' :: fraction

/-- The sign of a number. -/
def signed (negative : Bool) : List Char := if negative then ['-'] else []

theorem takeWhile_digits {digits tail : List Char} (all : ∀ c ∈ digits, c.isDigit)
    (stop : ∀ c ∈ tail.head?, c.isDigit = false) :
    (digits ++ tail).takeWhile Char.isDigit = digits ∧
      (digits ++ tail).dropWhile Char.isDigit = tail := by
  rw [List.takeWhile_append_of_pos all, List.dropWhile_append_of_pos all]
  cases tail with
  | nil => simp
  | cons c tail => simp [stop c rfl]

theorem toLower_of_isDigit {c : Char} (digit : c.isDigit) : c.toLower = c := by
  have small := (Char.isDigit_iff_toNat.1 digit).2
  refine dif_neg fun upper => absurd (UInt32.le_iff_toNat_le.1 upper.1) (Nat.not_le.2 ?_)
  exact Nat.lt_of_le_of_lt small (by decide)

theorem readSign_signed (negative : Bool) {first : Char} (digit : first.isDigit)
    (rest : List Char) :
    readSign (signed negative ++ first :: rest) = (negative, first :: rest) := by
  have notMinus : first ≠ '-' := digit_ne digit rfl
  have notPlus : first ≠ '+' := digit_ne digit rfl
  cases negative
  · rw [signed, if_neg Bool.false_ne_true, List.nil_append]
    exact readSign.eq_3 _ (fun _ eq => notMinus (List.cons.inj eq).1)
      (fun _ eq => notPlus (List.cons.inj eq).1)
  · rfl

/-- Reading a sign, digits, a fraction and an exponent. -/
theorem ofText?_number {negative : Bool} {whole fraction tail : List Char} {exponent : Int}
    (nonempty : whole ≠ []) (wholeDigits : ∀ c ∈ whole, c.isDigit)
    (fractionDigits : ∀ c ∈ fraction, c.isDigit) (stop : ∀ c ∈ tail.head?, c = 'e')
    (read : readExponent? tail = some exponent) :
    ofText? (String.ofList (signed negative ++ (whole ++ (pointed fraction ++ tail)))) =
      some (ofParts negative whole fraction exponent) := by
  rcases List.exists_cons_of_ne_nil nonempty with ⟨first, others, rfl⟩
  have firstDigit : first.isDigit := wholeDigits first List.mem_cons_self
  have sign := readSign_signed negative firstDigit (others ++ (pointed fraction ++ tail))
  -- The first character is a digit, so the text is not the name of a special value.
  have lower : first.toLower = first := toLower_of_isDigit firstDigit
  have notN : first ≠ 'n' := digit_ne firstDigit rfl
  have notI : first ≠ 'i' := digit_ne firstDigit rfl
  have tailStop : ∀ c ∈ tail.head?, c.isDigit = false := fun c mem => stop c mem ▸ rfl
  have restStop : ∀ c ∈ (pointed fraction ++ tail).head?, c.isDigit = false := by
    intro c mem
    cases fraction with
    | nil => exact tailStop c mem
    | cons d fraction => cases mem; rfl
  rcases takeWhile_digits wholeDigits restStop with ⟨wholeRead, restRead⟩
  rcases takeWhile_digits fractionDigits tailStop with ⟨fractionRead, tailRead⟩
  rw [ofText?, String.toList_ofList, List.cons_append, sign]
  simp only [List.map_cons, lower, List.cons.injEq, notN, notI, false_and, false_or, if_false]
  rw [← List.cons_append, wholeRead, restRead]
  cases fraction with
  | nil =>
    have noPoint : (pointed [] ++ tail).head? ≠ some '.' := by
      intro point
      exact absurd (stop '.' point) (by decide)
    simp only [noPoint, if_false, List.cons_ne_nil, false_and]
    exact congrArg (Option.map _) read
  | cons d fraction =>
    have point : (pointed (d :: fraction) ++ tail).head? = some '.' := rfl
    have behind : (pointed (d :: fraction) ++ tail).drop 1 = d :: fraction ++ tail := rfl
    simp only [point, behind, if_true, List.cons_ne_nil, false_and, if_false, fractionRead,
      tailRead, read, Option.map_some]

/-! ## Written numbers -/

/-- The text spells a number by digits, a fraction and an exponent, of which the last two may
be missing but not both; `value` is what the digits without a point and the power of ten of
the last of them round to. -/
structure Spells (text : List Char) (value : Nat) (whole fraction tail : List Char)
    (exponent : Int) : Prop where
  text_eq : text = whole ++ (pointed fraction ++ tail)
  nonempty : whole ≠ []
  wholeDigits : ∀ c ∈ whole, c.isDigit
  fractionDigits : ∀ c ∈ fraction, c.isDigit
  stop : ∀ c ∈ tail.head?, c = 'e'
  read : readExponent? tail = some exponent
  shown : fraction ≠ [] ∨ tail ≠ []
  value_eq : rankOfDecimal (digitsValue (whole ++ fraction)) (exponent - fraction.length) = value

/-- The tail of a positional text, which has no exponent. -/
theorem Spells.positional {value : Nat} {whole fraction : List Char} (nonempty : whole ≠ [])
    (wholeDigits : ∀ c ∈ whole, c.isDigit) (fractionDigits : ∀ c ∈ fraction, c.isDigit)
    (shown : fraction ≠ [])
    (value_eq : rankOfDecimal (digitsValue (whole ++ fraction)) (-fraction.length) = value) :
    Spells (whole ++ '.' :: fraction) value whole fraction [] 0 where
  text_eq := by
    rcases List.exists_cons_of_ne_nil shown with ⟨first, others, rfl⟩
    rw [List.append_nil]; rfl
  nonempty := nonempty
  wholeDigits := wholeDigits
  fractionDigits := fractionDigits
  stop := fun _ mem => by cases mem
  read := rfl
  shown := .inl shown
  value_eq := by rw [Int.zero_sub]; exact value_eq

theorem isDigit_of_mem_zeros {c : Char} {n : Nat} (mem : c ∈ List.replicate n '0') : c.isDigit :=
  (List.eq_of_mem_replicate mem).symm ▸ rfl

/-- Digits around a point spell the digits as a decimal. -/
theorem Layout.spells_positional {digits : List Char} (nonempty : digits ≠ [])
    (all : ∀ c ∈ digits, c.isDigit) (power : Int) :
    ∃ whole fraction, Spells (positional digits power)
      (rankOfDecimal (digitsValue digits) (power + 1 - digits.length)) whole fraction [] 0 := by
  have length : 0 < digits.length := List.length_pos_iff.2 nonempty
  by_cases small : power < 0
  · have zeros : ∀ c ∈ List.replicate (-power - 1).toNat '0' ++ digits, c.isDigit := fun c mem =>
      (List.mem_append.1 mem).elim isDigit_of_mem_zeros (all c)
    refine ⟨['0'], List.replicate (-power - 1).toNat '0' ++ digits, ?_⟩
    rw [positional, if_pos small]
    change Spells (['0'] ++ '.' :: _) _ _ _ _ _
    refine Spells.positional (by simp) (by simp) zeros (by simp [nonempty]) ?_
    have value : digitsValue (['0'] ++ (List.replicate (-power - 1).toNat '0' ++ digits)) =
        digitsValue digits := by
      have leading : ['0'] ++ (List.replicate (-power - 1).toNat '0' ++ digits) =
          List.replicate ((-power - 1).toNat + 1) '0' ++ digits := by
        rw [List.replicate_succ]; rfl
      rw [leading, digitsValue, Nat.ofDigitChars_append, Nat.ofDigitChars_replicate_zero,
        Nat.mul_zero]
      rfl
    rw [value, List.length_append, List.length_replicate]
    congr 1
    omega
  · by_cases short : digits.length ≤ power.toNat + 1
    · have padded : ∀ c ∈ digits ++ List.replicate (power.toNat + 1 - digits.length) '0',
          c.isDigit := fun c mem => (List.mem_append.1 mem).elim (all c) isDigit_of_mem_zeros
      refine ⟨digits ++ List.replicate (power.toNat + 1 - digits.length) '0', ['0'], ?_⟩
      have text : positional digits power =
          digits ++ List.replicate (power.toNat + 1 - digits.length) '0' ++ '.' :: ['0'] := by
        simp [positional, small, List.take_of_length_le short, List.drop_eq_nil_of_le short]
      rw [text]
      refine Spells.positional (by simp [nonempty]) padded (by simp) (by simp) ?_
      have value : digitsValue (digits ++ List.replicate (power.toNat + 1 - digits.length) '0' ++
          ['0']) = digitsValue digits * 10 ^ (power.toNat + 1 - digits.length + 1) := by
        have trailing : digits ++ List.replicate (power.toNat + 1 - digits.length) '0' ++ ['0'] =
            digits ++ List.replicate (power.toNat + 1 - digits.length + 1) '0' := by
          rw [List.replicate_succ', List.append_assoc]
        rw [trailing, digitsValue, Nat.ofDigitChars_append, Nat.ofDigitChars_replicate_zero,
          Nat.mul_comm]
        rfl
      rw [value, rankOfDecimal_shift]
      congr 1
      simp only [List.length_singleton]
      omega
    · have long := Nat.lt_of_not_le short
      have fraction : digits.drop (power.toNat + 1) ≠ [] := by
        rw [ne_eq, List.drop_eq_nil_iff]; omega
      refine ⟨digits.take (power.toNat + 1), digits.drop (power.toNat + 1), ?_⟩
      have text : positional digits power =
          digits.take (power.toNat + 1) ++ '.' :: digits.drop (power.toNat + 1) := by
        simp [positional, small, List.length_take, Nat.min_eq_left long.le, fraction]
      rw [text]
      refine Spells.positional ?_ (fun c mem => all c (List.mem_of_mem_take mem))
        (fun c mem => all c (List.mem_of_mem_drop mem)) fraction ?_
      · simp [nonempty]
      · rw [List.take_append_drop, List.length_drop]
        congr 1
        omega

theorem Layout.readExponent?_exponent (layout : Layout) (power : Int) :
    readExponent? ('e' :: (if power < 0 then ['-'] else if layout.plusSign then ['+'] else []) ++
      Nat.toDigits 10 power.natAbs) = some power := by
  have digits : ∀ c ∈ Nat.toDigits 10 power.natAbs, c.isDigit := fun c mem =>
    Nat.isDigit_of_mem_toDigits (by decide) (by decide) mem
  obtain ⟨first, others, spelled⟩ :=
    List.exists_cons_of_ne_nil (Nat.toDigits_ne_nil (n := power.natAbs) (b := 10))
  have firstDigit : first.isDigit := digits first (spelled ▸ List.mem_cons_self)
  have sign : readSign ((if power < 0 then ['-'] else if layout.plusSign then ['+'] else []) ++
      Nat.toDigits 10 power.natAbs) = (decide (power < 0), Nat.toDigits 10 power.natAbs) := by
    rw [spelled]
    by_cases negative : power < 0
    · rw [if_pos negative, decide_eq_true negative]
      exact readSign_signed true firstDigit others
    · rw [if_neg negative, decide_eq_false negative]
      cases layout.plusSign
      · exact readSign_signed false firstDigit others
      · rfl
  have size : digitsValue (Nat.toDigits 10 power.natAbs) = power.natAbs :=
    Nat.ofDigitChars_ten_toDigits
  rw [List.cons_append, readExponent?, sign]
  simp only [true_or, ne_eq, Nat.toDigits_ne_nil, not_false_eq_true, List.all_eq_true, true_and,
    decide_eq_true_eq, size]
  rw [if_pos digits]
  congr 1
  split <;> omega

/-- One digit, the others after a point, and the power of ten spell the digits as a decimal. -/
theorem Layout.spells_scientific (layout : Layout) {digits : List Char} (nonempty : digits ≠ [])
    (all : ∀ c ∈ digits, c.isDigit) (power : Int) :
    ∃ whole fraction tail, Spells (layout.scientific digits power)
      (rankOfDecimal (digitsValue digits) (power + 1 - digits.length))
      whole fraction tail power := by
  have length : 0 < digits.length := List.length_pos_iff.2 nonempty
  refine ⟨digits.take 1, digits.drop 1, _, ?_, ?_, fun c mem => all c (List.mem_of_mem_take mem),
    fun c mem => all c (List.mem_of_mem_drop mem), ?_, layout.readExponent?_exponent power, ?_, ?_⟩
  · rw [scientific, List.append_assoc, List.append_assoc]; rfl
  · simp [nonempty]
  · intro c mem; cases mem; rfl
  · exact .inr (by simp)
  · rw [List.take_append_drop, List.length_drop]
    congr 1
    omega

/-- The text of a magnitude spells it. -/
theorem Layout.spells_magnitude (layout : Layout) {rank : Nat} (finite : rank < rankBound) :
    ∃ whole fraction tail exponent,
      Spells (layout.magnitude rank) rank whole fraction tail exponent := by
  by_cases zero : rank = 0
  · refine ⟨['0'], ['0'], [], 0, ?_⟩
    rw [magnitude, if_pos zero, zero]
    change Spells (['0'] ++ '.' :: ['0']) _ _ _ _ _
    exact Spells.positional (by simp) (by simp) (by simp) (by simp) rfl
  · have read := Decimal.rank_shortest layout.tie zero finite
    have coefficient := Decimal.coefficient_shortest_ne_zero layout.tie zero finite
    have nonempty := Decimal.digits_ne_nil coefficient
    have value := Decimal.rankOfDecimal_digits (Decimal.shortest layout.tie rank)
    rw [read] at value
    simp only [magnitude, zero, if_false]
    split
    · obtain ⟨whole, fraction, spells⟩ := spells_positional nonempty
        (fun c mem => Decimal.isDigit_of_mem_digits mem)
        (Decimal.shortest layout.tie rank).leadingPower
      rw [value] at spells
      exact ⟨whole, fraction, [], 0, spells⟩
    · obtain ⟨whole, fraction, tail, spells⟩ := layout.spells_scientific nonempty
        (fun c mem => Decimal.isDigit_of_mem_digits mem)
        (Decimal.shortest layout.tie rank).leadingPower
      rw [value] at spells
      exact ⟨whole, fraction, tail, _, spells⟩

/-- The text of a finite double reads back, in every layout. -/
theorem ofText?_write (layout : Layout) (x : Finite) :
    ofText? (layout.write x) = some (.finite x) := by
  rcases layout.spells_magnitude x.rank_lt with ⟨whole, fraction, tail, exponent, spells⟩
  rw [Layout.write, spells.text_eq]
  refine (ofText?_number spells.nonempty spells.wholeDigits spells.fractionDigits spells.stop
    spells.read).trans ?_
  rw [ofParts, ofDecimal, spells.value_eq, ofRank, dif_pos x.rank_lt]

/-! ## Characters of written numbers -/

/-- The characters of the numbers in statements, where no exponent has a plus sign. -/
def isNumberChar (c : Char) : Bool := c.isDigit || c = '.' || c = 'e' || c = '-'

theorem isNumberChar_of_isDigit {c : Char} (digit : c.isDigit) : isNumberChar c := by
  simp [isNumberChar, digit]

/-- No other character occurs in a number. -/
theorem not_mem_of_isNumberChar {text : List Char} (inside : ∀ c ∈ text, isNumberChar c) {c : Char}
    (other : isNumberChar c = false) : c ∉ text := by
  intro mem
  rw [inside c mem] at other
  cases other

theorem Layout.positional_chars {digits : List Char} (all : ∀ c ∈ digits, c.isDigit)
    (power : Int) : ∀ c ∈ positional digits power, isNumberChar c := by
  intro c mem
  have digit (mem : c ∈ digits) : isNumberChar c := isNumberChar_of_isDigit (all c mem)
  have zero {n : Nat} (mem : c ∈ List.replicate n '0') : isNumberChar c :=
    isNumberChar_of_isDigit (isDigit_of_mem_zeros mem)
  unfold positional at mem
  split at mem
  · rcases List.mem_cons.1 mem with rfl | mem
    · rfl
    rcases List.mem_cons.1 mem with rfl | mem
    · rfl
    exact (List.mem_append.1 mem).elim zero digit
  · rcases List.mem_append.1 mem with mem | mem
    · exact (List.mem_append.1 mem).elim (fun mem => digit (List.mem_of_mem_take mem)) zero
    rcases List.mem_cons.1 mem with rfl | mem
    · rfl
    split at mem
    · rw [List.mem_singleton.1 mem]; rfl
    · exact digit (List.mem_of_mem_drop mem)

theorem Layout.scientific_chars {digits : List Char} (all : ∀ c ∈ digits, c.isDigit)
    (power : Int) : ∀ c ∈ plain.scientific digits power, isNumberChar c := by
  intro c mem
  have digit (mem : c ∈ digits) : isNumberChar c := isNumberChar_of_isDigit (all c mem)
  rcases List.mem_append.1 mem with mem | exponent
  · rcases List.mem_append.1 mem with mem | mem
    · rcases List.mem_append.1 mem with first | mem
      · exact digit (List.mem_of_mem_take first)
      split at mem
      · cases mem
      rcases List.mem_cons.1 mem with rfl | others
      · rfl
      exact digit (List.mem_of_mem_drop others)
    · rcases List.mem_cons.1 mem with rfl | sign
      · rfl
      split at sign
      · rw [List.mem_singleton.1 sign]; rfl
      · cases sign
  · exact isNumberChar_of_isDigit (Nat.isDigit_of_mem_toDigits (by decide) (by decide) exponent)

theorem Layout.plain_write_chars (x : Finite) :
    ∀ c ∈ (plain.write x).toList, isNumberChar c := by
  intro c mem
  rw [write, String.toList_ofList] at mem
  rcases List.mem_append.1 mem with mem | mem
  · split at mem
    · rw [List.mem_singleton.1 mem]; rfl
    · cases mem
  have digits : ∀ c ∈ (Decimal.shortest plain.tie x.rank).digits, c.isDigit := fun c mem =>
    Decimal.isDigit_of_mem_digits mem
  unfold magnitude at mem
  split at mem
  · simp only [List.mem_cons, List.not_mem_nil, or_false] at mem
    rcases mem with rfl | rfl | rfl <;> rfl
  · simp only at mem
    split at mem
    · exact positional_chars digits _ c mem
    · exact scientific_chars digits _ c mem

/-- The text of a finite double shows a point or an exponent. -/
theorem Layout.write_shows_float (layout : Layout) (x : Finite) :
    '.' ∈ (layout.write x).toList ∨ 'e' ∈ (layout.write x).toList := by
  rcases layout.spells_magnitude x.rank_lt with ⟨whole, fraction, tail, exponent, spells⟩
  rw [write, String.toList_ofList, spells.text_eq]
  rcases spells.shown with point | mark
  · left
    rcases List.exists_cons_of_ne_nil point with ⟨first, others, rfl⟩
    simp [pointed]
  · right
    rcases List.exists_cons_of_ne_nil mark with ⟨first, others, rfl⟩
    simp [spells.stop first rfl]

theorem Layout.write_ne_nil (layout : Layout) (x : Finite) : (layout.write x).toList ≠ [] := by
  rcases layout.write_shows_float x with point | exponent
  · exact List.ne_nil_of_mem point
  · exact List.ne_nil_of_mem exponent

/-! ## Zeros in front -/

theorem Decimal.head?_digits {d : Decimal} (nonzero : d.coefficient ≠ 0) :
    d.digits.head? ≠ some '0' := by
  have head := Text.head?_toDigits (Nat.pos_of_ne_zero nonzero)
  rcases d.exists_zeros with ⟨k, all⟩
  rcases List.exists_cons_of_ne_nil (Decimal.digits_ne_nil nonzero) with ⟨first, others, shown⟩
  rw [all, shown] at head
  rw [shown]
  exact head

theorem Layout.noLeadingZero_positional {first : Char} (nonzero : first ≠ '0')
    (others : List Char) (power : Int) :
    Text.NoLeadingZero (positional (first :: others) power) := by
  unfold positional
  split
  · intro c rest spelled
    rw [List.cons_inj_right, List.cons.injEq] at spelled
    rw [← spelled.1]
    rfl
  · refine Text.noLeadingZero_of_head? ?_
    simp only [List.take_succ_cons, List.cons_append, List.head?_cons]
    exact fun same => nonzero (Option.some.inj same)

theorem Layout.noLeadingZero_scientific (layout : Layout) {first : Char} (nonzero : first ≠ '0')
    (others : List Char) (power : Int) :
    Text.NoLeadingZero (layout.scientific (first :: others) power) := by
  refine Text.noLeadingZero_of_head? ?_
  unfold scientific
  simp only [List.take_succ_cons, List.cons_append, List.head?_cons]
  exact fun same => nonzero (Option.some.inj same)

/-- The text of a magnitude starts with a zero only before the point. -/
theorem Layout.noLeadingZero_magnitude (layout : Layout) {rank : Nat} (finite : rank < rankBound) :
    Text.NoLeadingZero (layout.magnitude rank) := by
  by_cases zero : rank = 0
  · intro c rest spelled
    rw [magnitude, if_pos zero] at spelled
    cases spelled
    rfl
  have coefficient := Decimal.coefficient_shortest_ne_zero layout.tie zero finite
  have head := Decimal.head?_digits coefficient
  obtain ⟨first, others, shown⟩ := List.exists_cons_of_ne_nil (Decimal.digits_ne_nil coefficient)
  have nonzero : first ≠ '0' := by
    rintro rfl
    exact head (congrArg List.head? shown)
  unfold magnitude
  rw [if_neg zero]
  simp only [shown]
  split
  · exact noLeadingZero_positional nonzero others _
  · exact noLeadingZero_scientific layout nonzero others _

end RecordMapper.Binary64
