import Mathlib.Algebra.Group.Nat.Defs
import Mathlib.Data.List.Forall2
import RecordMapper.Connection.Base64

/-!
What base64 text says. A text spells bytes if the bits of its digits, six to a digit, are those of
the bytes, eight to a byte, with nothing but zeros behind them, and equals signs stand for the bytes
that the last group lacks (`Spells`). Encoding spells the bytes (`spells_encode`), and what can be
decoded is just what encoding gives (`decode?_eq_some_iff`), so no other text says the same.
-/

namespace RecordMapper.Connection.Base64

/-- The digits, in the order of the numbers that they stand for. -/
def alphabet : List Char :=
  "ABCDEFGHIJKLMNOPQRSTUVWXYZabcdefghijklmnopqrstuvwxyz0123456789+/".toList

/-- As many of the lowest bits of a number as are wanted, from the highest of them on. -/
def bits : Nat → Nat → List Nat
  | 0, _ => []
  | width + 1, n => bits width (n / 2) ++ [n % 2]

/-- The digits stand for numbers whose bits are those of the bytes, with two zeros more for each
equals sign that fills up the last group. -/
def Spells (bytes : List UInt8) (text : List Char) : Prop :=
  ∃ numbers digits padding, text = digits ++ List.replicate padding '=' ∧
    List.Forall₂ (fun (n : Nat) c => alphabet[n]? = some c) numbers digits ∧
    padding < 3 ∧ (bytes.length + padding) % 3 = 0 ∧
    numbers.flatMap (bits 6) =
      (bytes.map UInt8.toNat).flatMap (bits 8) ++ List.replicate (2 * padding) 0

/-! ## Digits -/

theorem alphabet_digit : ∀ n < 64, alphabet[n]? = some (digit n) := by decide

theorem ascii_of_value?_eq_some {c : Char} {n : Nat} (read : value? c = some n) :
    c.toNat < 128 := by
  have below {d : Char} (le : c ≤ d) (ascii : d.toNat < 128) : c.toNat < 128 :=
    Nat.lt_of_le_of_lt (UInt32.le_iff_toNat_le.1 le) ascii
  unfold value? at read
  split at read
  · rename_i upper; exact below upper.2 (by decide)
  split at read
  · rename_i lower; exact below lower.2 (by decide)
  split at read
  · rename_i number; exact below number.2 (by decide)
  split at read
  · rename_i plus; exact plus ▸ (by decide)
  split at read
  · rename_i slash; exact slash ▸ (by decide)
  · cases read

/-- A digit stands for the number that it is the digit of. -/
theorem value?_eq_some_iff {c : Char} {n : Nat} : value? c = some n ↔ n < 64 ∧ digit n = c := by
  constructor
  · intro read
    have all : ∀ k < 128, ∀ m ∈ value? (Char.ofNat k), m < 64 ∧ digit m = Char.ofNat k := by decide
    have known := all c.toNat (ascii_of_value?_eq_some read)
    rw [Char.ofNat_toNat] at known
    exact known n read
  · rintro ⟨small, rfl⟩
    exact value?_digit n small

/-! ## Bits -/

/-- The bits of a number are those of its upper part and those of its lower part. -/
theorem bits_add (m n x : Nat) : bits (m + n) x = bits m (x / 2 ^ n) ++ bits n (x % 2 ^ n) := by
  induction n generalizing x with
  | zero => simp [bits]
  | succ n ih =>
    have upper : x / 2 / 2 ^ n = x / 2 ^ (n + 1) := by rw [Nat.div_div_eq_div_mul, Nat.pow_succ']
    have lower : x % 2 ^ (n + 1) / 2 = x / 2 % 2 ^ n := by
      rw [Nat.pow_succ', Nat.mod_mul_right_div_self]
    have last : x % 2 ^ (n + 1) % 2 = x % 2 := by rw [Nat.pow_succ', Nat.mod_mul_right_mod]
    rw [← Nat.add_assoc, bits, ih, upper, bits, lower, last, List.append_assoc]

/-- A number put together from two parts has the bits of both. -/
theorem bits_join (m : Nat) {n y : Nat} (small : y < 2 ^ n) (x : Nat) :
    bits (m + n) (x * 2 ^ n + y) = bits m x ++ bits n y := by
  rw [bits_add, Nat.mul_comm, Nat.mul_add_mod, Nat.mod_eq_of_lt small,
    Nat.mul_add_div (Nat.two_pow_pos n), Nat.div_eq_of_lt small, Nat.add_zero]

theorem bits_zero (width : Nat) : bits width 0 = List.replicate width 0 := by
  induction width with
  | zero => rfl
  | succ width ih => rw [bits, ih, List.replicate_succ']

theorem flatMap_bits_zeros (width count : Nat) :
    (List.replicate count 0).flatMap (bits width) = List.replicate (count * width) 0 := by
  rw [List.flatMap_replicate, bits_zero, List.flatten_replicate_replicate]

/-- Four numbers of six bits hold three bytes. -/
theorem bits_group (a : Nat) {b c : Nat} (b_lt : b < 256) (c_lt : c < 256) :
    [a / 4, a % 4 * 16 + b / 16, b % 16 * 4 + c / 64, c % 64].flatMap (bits 6) =
      [a, b, c].flatMap (bits 8) := by
  have first : bits 8 a = bits 6 (a / 4) ++ bits 2 (a % 4) := bits_add 6 2 a
  have second : bits 8 b = bits 4 (b / 16) ++ bits 4 (b % 16) := bits_add 4 4 b
  have third : bits 8 c = bits 2 (c / 64) ++ bits 6 (c % 64) := bits_add 2 6 c
  have across : bits 6 (a % 4 * 16 + b / 16) = bits 2 (a % 4) ++ bits 4 (b / 16) :=
    bits_join 2 (by omega : b / 16 < 2 ^ 4) _
  have beyond : bits 6 (b % 16 * 4 + c / 64) = bits 4 (b % 16) ++ bits 2 (c / 64) :=
    bits_join 4 (by omega : c / 64 < 2 ^ 2) _
  simp only [List.flatMap_cons, List.flatMap_nil, List.append_nil, first, second, third, across,
    beyond, List.append_assoc]

/-- A short group has the numbers of the group that is filled up with zeros, but for those that
hold nothing else. -/
theorem bits_short {numbers bytes : List Nat} {lacking : Nat}
    (group : (numbers ++ List.replicate lacking 0).flatMap (bits 6) =
      (bytes ++ List.replicate lacking 0).flatMap (bits 8)) :
    numbers.flatMap (bits 6) = bytes.flatMap (bits 8) ++ List.replicate (2 * lacking) 0 := by
  rw [List.flatMap_append, List.flatMap_append, flatMap_bits_zeros, flatMap_bits_zeros] at group
  have zeros : List.replicate (lacking * 8) 0 =
      List.replicate (2 * lacking) 0 ++ List.replicate (lacking * 6) 0 := by
    rw [List.replicate_append_replicate]
    congr 1
    omega
  rw [zeros, ← List.append_assoc] at group
  exact List.append_cancel_right group

/-! ## Encoding -/

theorem stand_digits {numbers : List Nat} (small : ∀ n ∈ numbers, n < 64) :
    List.Forall₂ (fun (n : Nat) c => alphabet[n]? = some c) numbers (numbers.map digit) := by
  rw [List.forall₂_map_right_iff, List.forall₂_same]
  exact fun n mem => alphabet_digit n (small n mem)

/-- Encoded bytes are spelled. -/
theorem spells_encode (bytes : List UInt8) : Spells bytes (encode bytes) := by
  fun_induction encode bytes with
  | case1 => exact ⟨[], [], 0, rfl, .nil, by decide, rfl, rfl⟩
  | case2 a =>
    have a_lt := a.toNat_lt
    have group := bits_group a.toNat (b := 0) (c := 0) (by decide) (by decide)
    simp only [Nat.zero_div, Nat.zero_mod, Nat.zero_mul, Nat.add_zero] at group
    let numbers := [a.toNat / 4, a.toNat % 4 * 16]
    refine ⟨numbers, numbers.map digit, 2, rfl, stand_digits ?_, by decide, by simp,
      bits_short group⟩
    simp [numbers]
    omega
  | case3 a b =>
    have a_lt := a.toNat_lt
    have b_lt := b.toNat_lt
    have group := bits_group a.toNat (c := 0) b_lt (by decide)
    simp only [Nat.zero_div, Nat.zero_mod, Nat.add_zero] at group
    let numbers := [a.toNat / 4, a.toNat % 4 * 16 + b.toNat / 16, b.toNat % 16 * 4]
    refine ⟨numbers, numbers.map digit, 1, rfl, stand_digits ?_, by decide, by simp,
      bits_short group⟩
    simp [numbers]
    omega
  | case4 a b c rest ih =>
    have a_lt := a.toNat_lt
    have b_lt := b.toNat_lt
    have c_lt := c.toNat_lt
    have group := bits_group a.toNat b_lt c_lt
    obtain ⟨numbers, digits, padding, text, stand, short, whole, spelled⟩ := ih
    let front := [a.toNat / 4, a.toNat % 4 * 16 + b.toNat / 16, b.toNat % 16 * 4 + c.toNat / 64,
      c.toNat % 64]
    refine ⟨front ++ numbers, front.map digit ++ digits, padding, by rw [text]; rfl,
      List.rel_append (stand_digits ?_) stand, short, ?_, ?_⟩
    · simp [front]
      omega
    · simp only [List.length_cons]
      omega
    · rw [List.flatMap_append, group, spelled, ← List.append_assoc, ← List.flatMap_append]
      rfl

/-! ## Decoding -/

theorem ofNat_of_toNat_eq {byte : UInt8} {n : Nat} (same : n = byte.toNat) :
    UInt8.ofNat n = byte := by
  rw [same, UInt8.ofNat_toNat]

/-! The three bytes of a group, put together again; `x` is what the digit holds of the next byte. -/

theorem ofNat_first (a : UInt8) {x : Nat} (small : x < 16) :
    UInt8.ofNat (a.toNat / 4 * 4 + (a.toNat % 4 * 16 + x) / 16) = a :=
  ofNat_of_toNat_eq (by omega)

theorem ofNat_second (a b : UInt8) {x : Nat} (small : x < 4) :
    UInt8.ofNat ((a.toNat % 4 * 16 + b.toNat / 16) % 16 * 16 + (b.toNat % 16 * 4 + x) / 4) = b := by
  have b_lt := b.toNat_lt
  exact ofNat_of_toNat_eq (by omega)

theorem ofNat_third (b c : UInt8) :
    UInt8.ofNat ((b.toNat % 16 * 4 + c.toNat / 64) % 4 * 64 + c.toNat % 64) = c := by
  have c_lt := c.toNat_lt
  exact ofNat_of_toNat_eq (by omega)

/-- What has been encoded is decoded. -/
theorem decode?_encode (bytes : List UInt8) : decode? (encode bytes) = some bytes := by
  fun_induction encode bytes with
  | case1 => rfl
  | case2 a =>
    have a_lt := a.toNat_lt
    have first : UInt8.ofNat (a.toNat / 4 * 4 + a.toNat % 4 * 16 / 16) = a :=
      ofNat_first a (show 0 < 16 by decide)
    rw [decode?, value?_digit _ (by omega), value?_digit _ (by omega)]
    simp only [Option.bind_eq_bind, Option.bind_some, first]
    simp
  | case3 a b =>
    have a_lt := a.toNat_lt
    have b_lt := b.toNat_lt
    have first := ofNat_first a (by omega : b.toNat / 16 < 16)
    have second : UInt8.ofNat
        ((a.toNat % 4 * 16 + b.toNat / 16) % 16 * 16 + b.toNat % 16 * 4 / 4) = b :=
      ofNat_second a b (show 0 < 4 by decide)
    rw [decode?, value?_digit _ (by omega), value?_digit _ (by omega), value?_digit _ (by omega)]
    · simp only [Option.bind_eq_bind, Option.bind_some, first, second]
      simp
    · exact digit_ne_pad _ (by omega)
  | case4 a b c rest ih =>
    have a_lt := a.toNat_lt
    have b_lt := b.toNat_lt
    have c_lt := c.toNat_lt
    have first := ofNat_first a (by omega : b.toNat / 16 < 16)
    have second := ofNat_second a b (by omega : c.toNat / 64 < 4)
    have third := ofNat_third b c
    rw [decode?, value?_digit _ (by omega), value?_digit _ (by omega), value?_digit _ (by omega),
      value?_digit _ (by omega), ih]
    · simp only [Option.bind_eq_bind, Option.bind_some, first, second, third]
      rfl
    · exact digit_ne_pad _ (by omega)
    · exact digit_ne_pad _ (by omega)

/-! The bytes that digits stand for. -/

theorem toNat_first {k l : Nat} (k_lt : k < 64) (l_lt : l < 64) :
    (UInt8.ofNat (k * 4 + l / 16)).toNat = k * 4 + l / 16 :=
  UInt8.toNat_ofNat_of_lt' (show _ < 256 by omega)

theorem toNat_second {m : Nat} (m_lt : m < 64) (l : Nat) :
    (UInt8.ofNat (l % 16 * 16 + m / 4)).toNat = l % 16 * 16 + m / 4 :=
  UInt8.toNat_ofNat_of_lt' (show _ < 256 by omega)

theorem toNat_third {n : Nat} (n_lt : n < 64) (m : Nat) :
    (UInt8.ofNat (m % 4 * 64 + n)).toNat = m % 4 * 64 + n :=
  UInt8.toNat_ofNat_of_lt' (show _ < 256 by omega)

/-- What is decoded is encoded in the same way: its bits are those of the digits, and those that
padding makes superfluous are zeros. -/
theorem eq_encode_of_decode? {text : List Char} {bytes : List UInt8}
    (decoded : decode? text = some bytes) : text = encode bytes := by
  fun_induction decode? text generalizing bytes with
  | case1 => cases decoded; rfl
  | case2 p q rest =>
    simp only [Option.bind_eq_bind, Option.bind_eq_some_iff, value?_eq_some_iff] at decoded
    obtain ⟨k, ⟨k_lt, rfl⟩, l, ⟨l_lt, rfl⟩, decoded⟩ := decoded
    split at decoded
    · rename_i canonical
      obtain ⟨rfl, zeros⟩ := canonical
      cases decoded
      have first : (k * 4 + l / 16) / 4 = k := by omega
      have second : (k * 4 + l / 16) % 4 * 16 = l := by omega
      rw [encode, toNat_first k_lt l_lt, first, second]
    · cases decoded
  | case3 p q r rest _ =>
    simp only [Option.bind_eq_bind, Option.bind_eq_some_iff, value?_eq_some_iff] at decoded
    obtain ⟨k, ⟨k_lt, rfl⟩, l, ⟨l_lt, rfl⟩, m, ⟨m_lt, rfl⟩, decoded⟩ := decoded
    split at decoded
    · rename_i canonical
      obtain ⟨rfl, zeros⟩ := canonical
      cases decoded
      have first : (k * 4 + l / 16) / 4 = k := by omega
      have second : (k * 4 + l / 16) % 4 * 16 + (l % 16 * 16 + m / 4) / 16 = l := by omega
      have third : (l % 16 * 16 + m / 4) % 16 * 4 = m := by omega
      rw [encode, toNat_first k_lt l_lt, toNat_second m_lt, first, second, third]
    · cases decoded
  | case4 p q r s rest _ _ ih =>
    simp only [Option.bind_eq_bind, Option.bind_eq_some_iff, value?_eq_some_iff] at decoded
    obtain ⟨k, ⟨k_lt, rfl⟩, l, ⟨l_lt, rfl⟩, m, ⟨m_lt, rfl⟩, n, ⟨n_lt, rfl⟩, bytes, others,
      decoded⟩ := decoded
    cases decoded
    have first : (k * 4 + l / 16) / 4 = k := by omega
    have second : (k * 4 + l / 16) % 4 * 16 + (l % 16 * 16 + m / 4) / 16 = l := by omega
    have third : (l % 16 * 16 + m / 4) % 16 * 4 + (m % 4 * 64 + n) / 64 = m := by omega
    have fourth : (m % 4 * 64 + n) % 64 = n := by omega
    rw [encode, toNat_first k_lt l_lt, toNat_second m_lt, toNat_third n_lt, first, second, third,
      fourth, ih others]
  | case5 => cases decoded

/-- What can be decoded is just what has been encoded. -/
theorem decode?_eq_some_iff {text : List Char} {bytes : List UInt8} :
    decode? text = some bytes ↔ text = encode bytes :=
  ⟨eq_encode_of_decode?, fun same => same ▸ decode?_encode bytes⟩

end RecordMapper.Connection.Base64
