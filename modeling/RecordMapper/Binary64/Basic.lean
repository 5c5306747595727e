/-!
Double-precision numbers as exact objects.

A finite double is a sign and a *rank*, the number of nonnegative doubles below its
magnitude. The rank orders magnitudes, its upper part is the biased exponent and its
lower 52 bits are the fraction, so rounding has only to find a rank. Two zeros exist,
one for each sign.
-/

namespace RecordMapper

namespace Binary64

/-- How many magnitudes share an exponent: two to the power of 52. -/
def binadeSize : Nat := 4503599627370496

/-- How many magnitudes a finite double can have. -/
def rankBound : Nat := 2047 * binadeSize

/-- A finite double: a sign, and how many nonnegative doubles lie below its magnitude. -/
structure Finite where
  negative : Bool
  rank : Nat
  rank_lt : rank < rankBound
deriving DecidableEq

/-- The whole number whose multiple by a power of two is the magnitude of that rank. -/
def significandOf (rank : Nat) : Nat :=
  if rank < binadeSize then rank else binadeSize + rank % binadeSize

/-- The exponent of that power of two. -/
def exponentOf (rank : Nat) : Int :=
  (max (rank / binadeSize) 1 : Nat) - 1075

/-- The magnitude of a rank as a fraction of whole numbers. -/
def ratioOf (rank : Nat) : Nat × Nat :=
  (significandOf rank * Nat.pow 2 (exponentOf rank).toNat, Nat.pow 2 (-exponentOf rank).toNat)

namespace Finite

/-- Positive zero. -/
def zero : Finite := ⟨false, 0, by decide⟩

instance : Inhabited Finite := ⟨zero⟩

end Finite

/-- The denominator of a magnitude is never zero. -/
theorem ratioOf_snd_pos (rank : Nat) : 0 < (ratioOf rank).2 :=
  Nat.two_pow_pos _

end Binary64

/-- A double: a finite one, an infinity of either sign, or not a number. -/
inductive Binary64 where
  | nan
  | infinite (negative : Bool)
  | finite (x : Binary64.Finite)
deriving DecidableEq

namespace Binary64

instance : Inhabited Binary64 := ⟨.nan⟩

/-- The double of a rank that may lie past the largest finite one. -/
def ofRank (negative : Bool) (rank : Nat) : Binary64 :=
  if h : rank < rankBound then .finite ⟨negative, rank, h⟩ else .infinite negative

/-- Finite doubles are the ones that have a magnitude. -/
def isFinite : Binary64 → Bool
  | .finite _ => true
  | _ => false

end Binary64

end RecordMapper
