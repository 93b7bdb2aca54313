/-
This file holds the binary64 numbers as their three fields.

The nonnegative numbers are numbered from zero by `rank`, in the order of their values. Every finite
magnitude is a whole number of `units`, the least positive number 2 ^ (-1074).
-/

namespace FleetPanel

/-- The number of the fractions of one exponent, 2 ^ 52. -/
abbrev Binary64.fractions : Nat := 4503599627370496

structure Binary64 where
  negative : Bool
  exponent : Fin 2048
  fraction : Fin Binary64.fractions
deriving DecidableEq, Repr

namespace Binary64

def isNaN (number : Binary64) : Bool :=
  number.exponent == 2047 && number.fraction != 0

def isInfinite (number : Binary64) : Bool :=
  number.exponent == 2047 && number.fraction == 0

def isFinite (number : Binary64) : Bool :=
  number.exponent != 2047

/-- The place of the magnitude in the order of all magnitudes. -/
def rank (number : Binary64) : Nat :=
  fractions * number.exponent.val + number.fraction.val

/-- The rank of the infinite magnitude. -/
def infiniteRank : Nat := fractions * 2047

def infinity (negative : Bool) : Binary64 :=
  ⟨negative, 2047, 0⟩

def nan : Binary64 :=
  ⟨false, 2047, ⟨fractions / 2, by decide⟩⟩

def zero (negative : Bool) : Binary64 :=
  ⟨negative, 0, 0⟩

/-- A magnitude beyond the finite ones is infinite. -/
def ofRank (negative : Bool) (rank : Nat) : Binary64 :=
  if inside : rank < infiniteRank then
    { negative
      exponent := ⟨rank / fractions, by simp only [infiniteRank, fractions] at *; omega⟩
      fraction := ⟨rank % fractions, Nat.mod_lt _ (by decide)⟩ }
  else infinity negative

/-- The magnitude of a rank, in units of 2 ^ (-1074). -/
def unitsOfRank (rank : Nat) : Nat :=
  if rank < fractions then rank
  else (fractions + rank % fractions) * Nat.pow 2 (rank / fractions - 1)

/-- The magnitude of one, in units of 2 ^ (-1074). -/
def unitsOfOne : Nat := Nat.pow 2 1074

/-- The magnitude of a finite number, in units of 2 ^ (-1074). -/
def units (number : Binary64) : Nat :=
  unitsOfRank number.rank

def isZero (number : Binary64) : Bool :=
  number.rank == 0

def negate (number : Binary64) : Binary64 :=
  { number with negative := !number.negative }

/-- The bit of the sign, 2 ^ 63. -/
abbrev signBit : Nat := 9223372036854775808

/-- The interchange encoding, sign first. -/
def toBits (number : Binary64) : Nat :=
  (if number.negative then signBit else 0) + number.rank

def ofBits (bits : Nat) : Binary64 where
  negative := bits / signBit % 2 == 1
  exponent := ⟨bits / fractions % 2048, Nat.mod_lt _ (by decide)⟩
  fraction := ⟨bits % fractions, Nat.mod_lt _ (by decide)⟩

theorem rankOfRank (negative : Bool) {rank : Nat} (inside : rank ≤ infiniteRank) :
    (ofRank negative rank).rank = rank := by
  unfold ofRank
  split
  · exact Nat.div_add_mod rank fractions
  · change fractions * 2047 + 0 = rank
    unfold infiniteRank at *
    omega

end Binary64

end FleetPanel
