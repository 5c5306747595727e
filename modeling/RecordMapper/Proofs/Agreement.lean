import Mathlib.Data.List.Forall2
import RecordMapper.Error

/-!
Steps that can fail. `exists_of_bind_eq_ok` and `mapM_eq_ok_iff` take a successful step
apart, and `bind_eq_error_iff` and `mapM_eq_error_iff` find what a failed one fails at. Two
steps agree under a relation when both fail with one error or both succeed with related results;
sequencing keeps agreement (`Agree.bind`), and so does a walk over lists of related items
(`Agree.mapM`). Where results do not matter, steps that agree fail alike (`FailsLike`).
-/

namespace RecordMapper

/-! ## Steps in sequence -/

theorem exists_of_bind_eq_ok {ε α β : Type} {x : Except ε α} {f : α → Except ε β} {b : β}
    (h : x >>= f = .ok b) : ∃ a, x = .ok a ∧ f a = .ok b := by
  cases x with
  | error cause => cases h
  | ok a => exact ⟨a, rfl, h⟩

/-- Of two steps in sequence the first fails, or the second with what the first gave. -/
theorem bind_eq_error_iff {ε α β : Type} {x : Except ε α} {f : α → Except ε β} {cause : ε} :
    x >>= f = .error cause ↔ x = .error cause ∨ ∃ a, x = .ok a ∧ f a = .error cause := by
  cases x with
  | error other =>
    constructor
    · intro h
      cases h
      exact .inl rfl
    · rintro (h | ⟨a, h, -⟩)
      · cases h
        rfl
      · cases h
  | ok a =>
    constructor
    · exact fun h => .inr ⟨a, rfl, h⟩
    · rintro (h | ⟨b, h, failed⟩)
      · cases h
      · cases h
        exact failed

theorem mapM_eq_ok_iff {ε α β : Type} {f : α → Except ε β} {xs : List α} {ys : List β} :
    xs.mapM f = .ok ys ↔ List.Forall₂ (fun x y => f x = .ok y) xs ys := by
  induction xs generalizing ys with
  | nil =>
    rw [List.mapM_nil, List.forall₂_nil_left_iff]
    exact ⟨fun h => by cases h; rfl, fun h => h ▸ rfl⟩
  | cons x xs ih =>
    rw [List.mapM_cons]
    constructor
    · intro h
      obtain ⟨y, first, h⟩ := exists_of_bind_eq_ok h
      obtain ⟨zs, others, h⟩ := exists_of_bind_eq_ok h
      cases h
      exact .cons first (ih.1 others)
    · intro h
      cases h with
      | cons first others => rw [first, ih.2 others]; rfl

/-- A walk over a list succeeds if each of its items does. -/
theorem exists_mapM_eq_ok_iff {ε α β : Type} {f : α → Except ε β} {xs : List α} :
    (∃ ys, xs.mapM f = .ok ys) ↔ ∀ x ∈ xs, ∃ y, f x = .ok y := by
  simp only [mapM_eq_ok_iff]
  constructor
  · rintro ⟨ys, related⟩
    induction related with
    | nil => exact List.forall_mem_nil _
    | cons first _ ih => exact List.forall_mem_cons.2 ⟨⟨_, first⟩, ih⟩
  · intro each
    induction xs with
    | nil => exact ⟨[], .nil⟩
    | cons x xs ih =>
      obtain ⟨⟨y, first⟩, others⟩ := List.forall_mem_cons.1 each
      obtain ⟨ys, related⟩ := ih others
      exact ⟨y :: ys, .cons first related⟩

/-- A walk over a list fails where the first of its items fails. -/
theorem mapM_eq_error_iff {ε α β : Type} {f : α → Except ε β} {xs : List α} {cause : ε} :
    xs.mapM f = .error cause ↔ ∃ before x after, xs = before ++ x :: after ∧
      (∀ y ∈ before, ∃ z, f y = .ok z) ∧ f x = .error cause := by
  induction xs with
  | nil =>
    constructor
    · intro h
      cases h
    · rintro ⟨before, x, after, split, -⟩
      simp at split
  | cons first rest ih =>
    rw [List.mapM_cons]
    constructor
    · intro h
      cases read : f first with
      | error other =>
        rw [read] at h
        cases h
        exact ⟨[], first, rest, rfl, by simp, read⟩
      | ok value =>
        rw [read] at h
        cases later : rest.mapM f with
        | ok values => rw [later] at h; cases h
        | error other =>
          rw [later] at h
          cases h
          obtain ⟨before, x, after, rfl, fine, failed⟩ := ih.1 later
          exact ⟨first :: before, x, after, rfl,
            List.forall_mem_cons.2 ⟨⟨value, read⟩, fine⟩, failed⟩
    · rintro ⟨before, x, after, split, fine, failed⟩
      cases before with
      | nil =>
        cases split
        rw [failed]
        rfl
      | cons head before =>
        cases split
        obtain ⟨⟨value, read⟩, fine⟩ := List.forall_mem_cons.1 fine
        rw [read, ih.2 ⟨before, x, after, rfl, fine, failed⟩]
        rfl

/-- Lists with one image are related by their images. -/
theorem forall₂_of_map_eq {α β : Type} {f : α → β} {xs ys : List α}
    (same : xs.map f = ys.map f) : List.Forall₂ (fun a b => f a = f b) xs ys := by
  rwa [← List.forall₂_eq_eq_eq, List.forall₂_map_left_iff, List.forall₂_map_right_iff] at same

/-- What is in the second of related lists is related to something in the first. -/
theorem exists_mem_of_forall₂ {α β : Type} {R : α → β → Prop} {xs : List α} {ys : List β}
    (related : List.Forall₂ R xs ys) {y : β} (mem : y ∈ ys) : ∃ x ∈ xs, R x y := by
  obtain ⟨i, below, rfl⟩ := List.mem_iff_getElem.1 mem
  obtain ⟨length, each⟩ := List.forall₂_iff_get.1 related
  exact ⟨_, List.getElem_mem _, each i (length ▸ below) below⟩

/-! ## Agreement -/

/-- Both steps fail with one error, or both succeed with related results. -/
def Agree {α β : Type} (R : α → β → Prop) : Result α → Result β → Prop
  | .ok a, .ok b => R a b
  | .error cause, .error other => cause = other
  | _, _ => False

namespace Agree

variable {α β γ δ : Type} {R : α → β → Prop} {S : γ → δ → Prop}

theorem pure {a : α} {b : β} (related : R a b) :
    Agree R (Pure.pure a : Result α) (Pure.pure b : Result β) :=
  related

theorem bind {x : Result α} {y : Result β} (agree : Agree R x y) {f : α → Result γ}
    {g : β → Result δ} (next : ∀ a b, R a b → Agree S (f a) (g b)) :
    Agree S (x >>= f) (y >>= g) := by
  cases x with
  | error cause =>
    cases y with
    | error other => exact agree
    | ok b => exact agree.elim
  | ok a =>
    cases y with
    | error other => exact agree.elim
    | ok b => exact next a b agree

/-- A step agrees with itself when every result is related to itself. -/
theorem of_ok {R : α → α → Prop} {x : Result α} (related : ∀ a, x = .ok a → R a a) :
    Agree R x x := by
  cases x with
  | error cause => rfl
  | ok a => exact related a rfl

theorem mono {T : α → β → Prop} {x : Result α} {y : Result β} (agree : Agree R x y)
    (weaker : ∀ a b, R a b → T a b) : Agree T x y := by
  cases x <;> cases y <;> first | exact agree | exact weaker _ _ agree

theorem symm {T : β → α → Prop} {x : Result α} {y : Result β} (agree : Agree R x y)
    (back : ∀ a b, R a b → T b a) : Agree T y x := by
  cases x with
  | error cause =>
    cases y with
    | error other => exact Eq.symm agree
    | ok b => exact agree.elim
  | ok a =>
    cases y with
    | error other => exact agree.elim
    | ok b => exact back a b agree

theorem trans {R : α → α → Prop} (glue : ∀ a b c, R a b → R b c → R a c) {x y z : Result α}
    (agree : Agree R x y) (next : Agree R y z) : Agree R x z := by
  cases x with
  | error cause =>
    cases y with
    | error other => cases agree; exact next
    | ok b => exact agree.elim
  | ok a =>
    cases y with
    | error other => exact agree.elim
    | ok b =>
      cases z with
      | error other => exact next.elim
      | ok c => exact glue a b c agree next

theorem of_map_eq {f : α → γ} {x y : Result α} (same : x.map f = y.map f) :
    Agree (fun a b => f a = f b) x y := by
  cases x with
  | error cause =>
    cases y with
    | error other => exact Except.error.inj same
    | ok b => cases same
  | ok a =>
    cases y with
    | error other => cases same
    | ok b => exact Except.ok.inj same

theorem mapM {f : α → Result γ} {g : β → Result δ} {xs : List α} {ys : List β}
    (related : List.Forall₂ (fun a b => Agree S (f a) (g b)) xs ys) :
    Agree (List.Forall₂ S) (xs.mapM f) (ys.mapM g) := by
  induction related with
  | nil => exact .nil
  | cons first _ ih =>
    rw [List.mapM_cons, List.mapM_cons]
    exact first.bind fun a b head => ih.bind fun as bs tail => .cons head tail

end Agree

/-! ## Failing alike -/

/-- Both steps succeed, or both fail with one error. -/
def FailsLike {α β : Type} (x : Result α) (y : Result β) : Prop := Agree (fun _ _ => True) x y

namespace FailsLike

variable {α β γ δ : Type} {x : Result α} {y : Result β}

theorem refl (x : Result α) : FailsLike x x := Agree.of_ok fun _ _ => trivial

theorem bind (alike : FailsLike x y) {f : α → Result γ} {g : β → Result δ}
    (next : ∀ a b, FailsLike (f a) (g b)) : FailsLike (x >>= f) (y >>= g) :=
  Agree.bind alike fun a b _ => next a b

theorem trans {z : Result γ} (alike : FailsLike x y) (next : FailsLike y z) : FailsLike x z := by
  cases x <;> cases y <;> cases z <;>
    first | trivial | exact alike.elim | exact next.elim | exact Eq.trans alike next

/-- What always succeeds behind a step does not change how it fails. -/
theorem of_bind_ok {f : α → Result γ} (done : ∀ a, ∃ c, f a = .ok c) : FailsLike (x >>= f) x := by
  cases x with
  | error cause => rfl
  | ok a =>
    obtain ⟨c, done⟩ := done a
    show FailsLike (f a) _
    rw [done]
    trivial

theorem exists_ok_iff (alike : FailsLike x y) : (∃ a, x = .ok a) ↔ ∃ b, y = .ok b := by
  cases x <;> cases y <;> simp_all [FailsLike, Agree]

theorem eq_error_iff (alike : FailsLike x y) {cause : Error} :
    x = .error cause ↔ y = .error cause := by
  cases x <;> cases y <;> simp_all [FailsLike, Agree]

end FailsLike

end RecordMapper
