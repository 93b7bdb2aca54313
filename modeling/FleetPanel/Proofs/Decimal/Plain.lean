/-
This file ties the plain text of a decimal to the rational number that it denotes.
-/

import FleetPanel.Decimal
import FleetPanel.Proofs.Text.Digits
import Mathlib.Data.Rat.Cast.Order
import Mathlib.Tactic.FieldSimp
import Mathlib.Tactic.Positivity

namespace FleetPanel

open Text

/-- A text denotes a rational number: digits without a superfluous zero in front and then, if there
are any, more digits behind a point. -/
def Text.Denotes (text : List Char) (value : ℚ) : Prop :=
  ∃ whole fraction, text = whole ++ (if fraction = [] then [] else '.' :: fraction) ∧
    IsDigits whole ∧ IsUnpadded whole ∧ IsDigits fraction ∧
    value = numberOf (whole ++ fraction) / 10 ^ fraction.length

namespace Decimal

variable {decimal : Decimal}

def value (decimal : Decimal) : ℚ :=
  decimal.coefficient * 10 ^ decimal.exponent

theorem isDigitsDigits (decimal : Decimal) : IsDigits decimal.digits :=
  isDigitsToDigits _

theorem numberOfDigits (decimal : Decimal) : numberOf decimal.digits = decimal.coefficient :=
  numberOfToDigits _

theorem unpaddedDigits (decimal : Decimal) : IsUnpadded decimal.digits :=
  unpaddedToDigits _

theorem leadingOfPositive (positive : decimal.coefficient ≠ 0) :
    decimal.digits.head? ≠ some '0' := by
  intro zero
  have denotes := decimal.numberOfDigits
  rw [decimal.unpaddedDigits.2 zero] at denotes
  exact positive denotes.symm

theorem denotesWhole (whole : 0 ≤ decimal.exponent)
    (nonzero : decimal.coefficient ≠ 0 ∨ decimal.exponent = 0) :
    Denotes (decimal.digits ++ List.replicate decimal.exponent.toNat '0') decimal.value := by
  obtain ⟨count, exponent⟩ := Int.eq_ofNat_of_zero_le whole
  have isDigits := isDigitsAppend.mpr ⟨decimal.isDigitsDigits, isDigitsZeros count⟩
  rw [exponent, Int.toNat_natCast]
  refine ⟨_, [], (List.append_nil _).symm, isDigits,
    ⟨by simp [decimal.unpaddedDigits.1], fun zero => ?_⟩, isDigitsNil, ?_⟩
  · rw [List.head?_append_of_ne_nil _ decimal.unpaddedDigits.1] at zero
    rcases nonzero with positive | unit
    · exact absurd zero (leadingOfPositive positive)
    · obtain rfl : count = 0 := by omega
      rw [decimal.unpaddedDigits.2 zero]
      rfl
  · simp [numberOfAppend, numberOfZeros, numberOfDigits, value, exponent]

/-- Fewer digits than the exponent takes leave zeros behind the point. -/
theorem denotesFraction (small : decimal.point ≤ 0) (broken : decimal.exponent < 0) :
    Denotes ('0' :: '.' :: List.replicate decimal.point.natAbs '0' ++ decimal.digits)
      decimal.value := by
  have filled := decimal.unpaddedDigits.1
  refine ⟨['0'], List.replicate decimal.point.natAbs '0' ++ decimal.digits, by simp [filled],
    by simp [IsDigits], ⟨by simp, fun _ => rfl⟩,
    isDigitsAppend.mpr ⟨isDigitsZeros _, decimal.isDigitsDigits⟩, ?_⟩
  have places : (List.replicate decimal.point.natAbs '0' ++ decimal.digits).length =
      decimal.exponent.natAbs := by
    simp [point] at small ⊢
    omega
  have number : numberOf (['0'] ++ (List.replicate decimal.point.natAbs '0' ++ decimal.digits)) =
      decimal.coefficient := by
    simp [numberOfAppend, numberOfZeros, numberOfDigits, numberOfCons, digitValue]
  rw [number, places, value, div_eq_mul_inv, ← zpow_natCast, ← zpow_neg]
  congr 2
  omega

theorem denotesSplit (large : 0 < decimal.point) (broken : decimal.exponent < 0) :
    Denotes (decimal.digits.take decimal.point.toNat ++ '.' ::
      decimal.digits.drop decimal.point.toNat) decimal.value := by
  obtain ⟨count, counted⟩ := Int.eq_ofNat_of_zero_le large.le
  have width : decimal.digits.length = count + decimal.exponent.natAbs := by
    simp only [point] at counted
    omega
  have inside : count < decimal.digits.length := by omega
  have positive : decimal.coefficient ≠ 0 := by
    intro zero
    have single : decimal.digits.length = 1 := by
      rw [digits, zero]
      rfl
    omega
  rw [counted, Int.toNat_natCast]
  have split := isDigitsAppend.mp ((List.take_append_drop count decimal.digits).symm ▸
    decimal.isDigitsDigits)
  have behind : decimal.digits.drop count ≠ [] := by simpa using inside
  have before : decimal.digits.take count ≠ [] := by
    apply List.ne_nil_of_length_pos
    rw [List.length_take]
    omega
  refine ⟨_, _, by rw [if_neg behind], split.1, ⟨before, fun zero => ?_⟩, split.2, ?_⟩
  · rw [List.head?_take, if_neg (by omega)] at zero
    exact absurd zero (leadingOfPositive positive)
  · have places : decimal.digits.length - count = decimal.exponent.natAbs := by omega
    rw [List.take_append_drop, numberOfDigits, List.length_drop, places, value, div_eq_mul_inv,
      ← zpow_natCast, ← zpow_neg]
    congr 2
    omega

/-- The plain text of a decimal denotes its value. -/
theorem plainDenotes (nonzero : decimal.coefficient ≠ 0 ∨ decimal.exponent = 0) :
    Denotes decimal.plain decimal.value := by
  simp only [plain]
  split
  · case isTrue whole => exact denotesWhole whole nonzero
  · case isFalse broken =>
      split
      · case isTrue large => exact denotesSplit large (by omega)
      · case isFalse small => exact denotesFraction (by omega) (by omega)

end Decimal

end FleetPanel
