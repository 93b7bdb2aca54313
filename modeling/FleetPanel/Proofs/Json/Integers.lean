/-
This file tells which numbers of the grammar are read as integers: those that are written without a
point and without an exponent and fit 64 bits, but for minus zero.
-/

import FleetPanel.Proofs.Json.Compact
import FleetPanel.Proofs.Json.Range

namespace FleetPanel.Json

open Text

/-- Digits of which none is left are all read. -/
theorem gatherAllIff {digits : List Char} (isDigits : IsDigits digits) {significand : Nat} :
    gather 0 digits = (significand, 0) ↔
      numberOf digits = significand ∧ significand < UInt64.size := by
  constructor
  · intro gathered
    obtain ⟨front, back, rfl, -, spec, fits, -⟩ :=
      gatherSpec isDigits (show 0 < UInt64.size by decide)
    obtain ⟨same, none⟩ := Prod.mk.inj (spec.symm.trans gathered)
    obtain rfl := List.length_eq_zero_iff.mp none
    simp only [List.append_nil, Nat.zero_mul, Nat.zero_add] at same fits ⊢
    exact ⟨same, same ▸ fits⟩
  · rintro ⟨rfl, fits⟩
    exact gatherAll fits

theorem wholeValueIff {negative : Bool} {number : Nat} (fits : number < UInt64.size)
    {value : Int} : wholeValue negative number = .integer value ↔
      value = (if negative then -(number : Int) else number) ∧ FitsInteger value ∧
        ¬ (negative = true ∧ number = 0) := by
  rw [UInt64.size] at fits
  cases negative with
  | false =>
      simp only [wholeValue, FitsInteger, Bool.not_false, Bool.false_eq_true, ↓reduceIte,
        integer.injEq, false_and, not_false_eq_true, and_true]
      omega
  | true =>
      by_cases tooSmall : number = 0 ∨ UInt64.size / 2 < number
      · have notInteger : ¬ (value = -(number : Int) ∧ FitsInteger value ∧ number ≠ 0) := by
          rw [UInt64.size] at tooSmall
          simp only [FitsInteger]
          omega
        simpa [wholeValue, tooSmall] using notInteger
      · rw [UInt64.size] at tooSmall
        simp only [wholeValue, FitsInteger, Bool.not_true, Bool.false_eq_true, ↓reduceIte,
          Bool.or_eq_true, decide_eq_true_eq, UInt64.size, tooSmall, integer.injEq, true_and]
        omega

namespace Numeral

/-- The number that the digits before a point denote, with the sign in front of them. -/
def integerPart (numeral : Numeral) : Int :=
  if numeral.negative then -numberOf numeral.whole else numberOf numeral.whole

/-- A number that is written as an integer of 64 bits, other than minus zero. -/
structure IsInteger (numeral : Numeral) (value : Int) : Prop where
  noFraction : numeral.fraction = []
  noExponent : numeral.exponent? = none
  written : value = numeral.integerPart
  fits : FitsInteger value
  notMinusZero : ¬ (numeral.negative = true ∧ numberOf numeral.whole = 0)

theorem scaledIsNoInteger (negative : Bool) (significand : Nat) (power : Int)
    (exponent? : Option Exponent) (value : Int) :
    scaledBy? negative significand power exponent? ≠ some (.integer value) := by
  have scaledNone (power : Int) : scaled? negative significand power ≠ some (.integer value) := by
    simp [scaled?]
  unfold scaledBy?
  split
  · exact scaledNone power
  · dsimp only
    split
    · split <;> simp
    · exact scaledNone _

theorem integerIff {numeral : Numeral} {value : Int} :
    numeral.value? = some (.integer value) ↔ numeral.IsInteger value := by
  obtain ⟨negative, whole, fraction, exponent?, isDigits, unpadded, fractionIsDigits⟩ := numeral
  constructor
  · intro read
    simp only [value?, significand] at read
    rcases ite_eq_iff.mp read with ⟨⟨rfl, rfl, exact⟩, asWhole⟩ | ⟨-, scaled⟩
    · simp only [gather, List.length_nil, Nat.zero_sub, Nat.cast_zero, sub_zero,
        Nat.cast_eq_zero] at exact
      obtain ⟨same, fits⟩ := (gatherAllIff isDigits).mp (Prod.ext rfl exact)
      simp only [gather, ← same, Option.some.injEq] at fits asWhole
      obtain ⟨isValue, inRange, notMinusZero⟩ := (wholeValueIff fits).mp asWhole
      exact ⟨rfl, rfl, isValue, inRange, notMinusZero⟩
    · exact absurd scaled (scaledIsNoInteger _ _ _ _ _)
  · rintro ⟨rfl, rfl, isValue, inRange, notMinusZero⟩
    have fits : numberOf whole < UInt64.size := by
      rw [UInt64.size]
      simp only [integerPart] at isValue
      obtain ⟨low, high⟩ := inRange
      split at isValue <;> omega
    have gathered := (gatherAllIff isDigits).mpr ⟨rfl, fits⟩
    simp [value?, significand, gathered, gather,
      (wholeValueIff fits).mpr ⟨isValue, inRange, notMinusZero⟩]

/-- A count is read from its digits alone, without a sign, a point and an exponent. -/
theorem countIff {numeral : Numeral} {count : UInt32} :
    numeral.value? = some (.integer count.toNat) ↔
      numeral.negative = false ∧ numeral.fraction = [] ∧ numeral.exponent? = none ∧
        numberOf numeral.whole = count.toNat := by
  have few := count.toNat_lt_size
  rw [UInt32.size] at few
  rw [integerIff]
  constructor
  · rintro ⟨noFraction, noExponent, isValue, -, notMinusZero⟩
    cases signed : numeral.negative with
    | false =>
        simp only [integerPart, signed, Bool.false_eq_true, ↓reduceIte] at isValue
        exact ⟨rfl, noFraction, noExponent, by omega⟩
    | true =>
        simp only [integerPart, signed, ↓reduceIte] at isValue
        exact absurd ⟨signed, by omega⟩ notMinusZero
  · rintro ⟨unsigned, noFraction, noExponent, same⟩
    refine ⟨noFraction, noExponent, ?_, ?_, by simp [unsigned]⟩
    · simp [integerPart, unsigned, same]
    · constructor <;> omega

end Numeral

end FleetPanel.Json
