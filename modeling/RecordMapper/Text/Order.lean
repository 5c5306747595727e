/-!
The order of texts by code points, which is also the order of their UTF-8 bytes. A text comes
before its continuations.
-/

namespace RecordMapper.Text

/-- The first text comes strictly before the second. -/
def precedes : List Char → List Char → Bool
  | _, [] => false
  | [], _ :: _ => true
  | c :: rest, d :: others => c.toNat < d.toNat || (c = d && precedes rest others)

/-- The first string comes strictly before the second. -/
def Before (a b : String) : Prop := precedes a.toList b.toList = true

instance (a b : String) : Decidable (Before a b) :=
  inferInstanceAs (Decidable (_ = true))

theorem precedes_trans {a b c : List Char} (ab : precedes a b) (bc : precedes b c) :
    precedes a c := by
  induction a generalizing b c with
  | nil =>
    cases b <;> cases c <;> simp_all [precedes]
  | cons x a ih =>
    cases b with
    | nil => simp [precedes] at ab
    | cons y b =>
      cases c with
      | nil => simp [precedes] at bc
      | cons z c =>
        simp only [precedes, Bool.or_eq_true, Bool.and_eq_true, decide_eq_true_eq] at ab bc ⊢
        rcases ab with lower | ⟨rfl, ab⟩
        · rcases bc with lower' | ⟨rfl, _⟩
          · exact .inl (Nat.lt_trans lower lower')
          · exact .inl lower
        · rcases bc with lower | ⟨rfl, bc⟩
          · exact .inl lower
          · exact .inr ⟨rfl, ih ab bc⟩

theorem precedes_irrefl (a : List Char) : precedes a a = false := by
  induction a with
  | nil => rfl
  | cons x a ih => simp [precedes, ih]

/-- Two texts of which neither comes first are one text. -/
theorem eq_of_not_precedes {a b : List Char} (ab : precedes a b = false)
    (ba : precedes b a = false) : a = b := by
  induction a generalizing b with
  | nil => cases b <;> simp_all [precedes]
  | cons x a ih =>
    cases b with
    | nil => simp [precedes] at ba
    | cons y b =>
      simp only [precedes, Bool.or_eq_false_iff, decide_eq_false_iff_not] at ab ba
      have same : x = y := Char.toNat_inj.1 (by omega)
      subst same
      simp only [decide_true, Bool.true_and] at ab ba
      rw [ih ab.2 ba.2]

theorem Before.trans {a b c : String} (ab : Before a b) (bc : Before b c) : Before a c :=
  precedes_trans ab bc

theorem not_before_self (a : String) : ¬Before a a := by
  simp [Before, precedes_irrefl]

/-- Two strings of which neither comes first are one string. -/
theorem eq_of_not_before {a b : String} (ab : ¬Before a b) (ba : ¬Before b a) : a = b :=
  String.toList_inj.1 (eq_of_not_precedes (Bool.not_eq_true _ ▸ ab) (Bool.not_eq_true _ ▸ ba))

end RecordMapper.Text
