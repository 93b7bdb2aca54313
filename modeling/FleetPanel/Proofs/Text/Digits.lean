/-
This file values runs of decimal digits. A run is known from its length and its number.
-/

import FleetPanel.Text.Digits
import Mathlib.Tactic.Ring
import Mathlib.Tactic.Linarith

namespace FleetPanel.Text

/-- A run of ASCII digits. -/
def IsDigits (text : List Char) : Prop :=
  ∀ character ∈ text, character.isDigit = true

def digitValue (digit : Char) : Nat :=
  digit.toNat - '0'.toNat

variable {digit : Char} {left right digits : List Char} {number : Nat}

theorem isDigitsNil : IsDigits [] :=
  fun _ inside => nomatch inside

theorem isDigitsCons : IsDigits (digit :: digits) ↔ digit.isDigit = true ∧ IsDigits digits := by
  simp [IsDigits]

theorem isDigitsAppend : IsDigits (left ++ right) ↔ IsDigits left ∧ IsDigits right := by
  simp only [IsDigits, List.mem_append, or_imp, forall_and]

theorem isDigitsToDigits (number : Nat) : IsDigits (Nat.toDigits 10 number) :=
  fun _ inside => Nat.isDigit_of_mem_toDigits (by decide) (by decide) inside

theorem isDigitsZeros (count : Nat) : IsDigits (List.replicate count '0') := by
  intro character inside
  obtain ⟨_, rfl⟩ := List.mem_replicate.mp inside
  rfl

theorem isDigitsPadded (width number : Nat) : IsDigits (padded width number) :=
  isDigitsAppend.mpr ⟨isDigitsZeros _, isDigitsToDigits number⟩

theorem lengthPadded {width : Nat} (fits : number < 10 ^ width) (wide : 0 < width) :
    (padded width number).length = width := by
  have short : (Nat.toDigits 10 number).length ≤ width :=
    (Nat.length_toDigits_le_iff (by decide) wide).mpr fits
  simp [padded, short]

/-- A digit stands for a number below ten, and is known from it. -/
theorem digitValueSpec (isDigit : digit.isDigit = true) :
    digitValue digit < 10 ∧ digit.toNat = 48 + digitValue digit := by
  obtain ⟨low, high⟩ := Char.isDigit_iff_toNat.mp isDigit
  change 48 ≤ digit.toNat at low
  change digit.toNat ≤ 57 at high
  unfold digitValue
  change digit.toNat - 48 < 10 ∧ digit.toNat = 48 + (digit.toNat - 48)
  omega

theorem digitValueInjective {other : Char} (isDigit : digit.isDigit = true)
    (otherIsDigit : other.isDigit = true) (same : digitValue digit = digitValue other) :
    digit = other := by
  apply Char.toNat_inj.mp
  rw [(digitValueSpec isDigit).2, (digitValueSpec otherIsDigit).2, same]

theorem ofDigitCharsFrom (start : Nat) (digits : List Char) :
    Nat.ofDigitChars 10 digits start = start * 10 ^ digits.length + numberOf digits := by
  induction digits generalizing start with
  | nil => simp [numberOf]
  | cons digit rest inductionHypothesis =>
      rw [numberOf, Nat.ofDigitChars_cons, Nat.ofDigitChars_cons, inductionHypothesis,
        inductionHypothesis (10 * 0 + _), List.length_cons]
      ring

theorem numberOfNil : numberOf [] = 0 :=
  rfl

theorem numberOfAppend (left right : List Char) :
    numberOf (left ++ right) = numberOf left * 10 ^ right.length + numberOf right := by
  rw [numberOf, Nat.ofDigitChars_append, ofDigitCharsFrom]
  rfl

theorem numberOfCons (digit : Char) (digits : List Char) :
    numberOf (digit :: digits) = digitValue digit * 10 ^ digits.length + numberOf digits := by
  rw [numberOf, Nat.ofDigitChars_cons, ofDigitCharsFrom]
  simp [digitValue]

theorem numberOfZeros (count : Nat) : numberOf (List.replicate count '0') = 0 := by
  simp [numberOf, Nat.ofDigitChars_replicate_zero]

theorem numberOfLt (isDigits : IsDigits digits) : numberOf digits < 10 ^ digits.length := by
  induction digits with
  | nil => decide
  | cons digit rest inductionHypothesis =>
      obtain ⟨isDigit, restIsDigits⟩ := isDigitsCons.mp isDigits
      have below := (digitValueSpec isDigit).1
      have restBelow := inductionHypothesis restIsDigits
      rw [numberOfCons, List.length_cons, Nat.pow_succ]
      have : digitValue digit * 10 ^ rest.length ≤ 9 * 10 ^ rest.length :=
        Nat.mul_le_mul_right _ (by omega)
      omega

/-- Two runs of one length that denote the same number are the same. -/
theorem numberOfInjective (leftIsDigits : IsDigits left) (rightIsDigits : IsDigits right)
    (sameLength : left.length = right.length) (same : numberOf left = numberOf right) :
    left = right := by
  induction left generalizing right with
  | nil => exact (List.length_eq_zero_iff.mp sameLength.symm).symm
  | cons digit rest inductionHypothesis =>
      cases right with
      | nil => simp at sameLength
      | cons other others =>
          obtain ⟨isDigit, restIsDigits⟩ := isDigitsCons.mp leftIsDigits
          obtain ⟨otherIsDigit, othersAreDigits⟩ := isDigitsCons.mp rightIsDigits
          have sameRest : rest.length = others.length := by simpa using sameLength
          have restBelow := numberOfLt restIsDigits
          have othersBelow := numberOfLt othersAreDigits
          rw [numberOfCons, numberOfCons, sameRest] at same
          rw [sameRest] at restBelow
          have positive : 0 < 10 ^ others.length := Nat.pow_pos (by decide)
          have sameDigit : digitValue digit = digitValue other := by
            have leftQuotient := Nat.mul_add_div positive (digitValue digit) (numberOf rest)
            have rightQuotient := Nat.mul_add_div positive (digitValue other) (numberOf others)
            rw [Nat.div_eq_of_lt restBelow, Nat.mul_comm, same] at leftQuotient
            rw [Nat.div_eq_of_lt othersBelow, Nat.mul_comm] at rightQuotient
            omega
          obtain rfl := digitValueInjective isDigit otherIsDigit sameDigit
          rw [inductionHypothesis restIsDigits othersAreDigits sameRest (by omega)]

/-- A run without a superfluous zero in front. -/
def IsUnpadded (digits : List Char) : Prop :=
  digits ≠ [] ∧ (digits.head? = some '0' → digits = ['0'])

/-- The decimal digits of a number are the run of digits that denotes it and has no superfluous
zero in front. -/
theorem toDigitsOfBounds (isDigits : IsDigits digits) (filled : digits ≠ [])
    (least : digits.length = 1 ∨ 10 ^ (digits.length - 1) ≤ numberOf digits) :
    Nat.toDigits 10 (numberOf digits) = digits := by
  have positive : 0 < digits.length := List.length_pos_iff.mpr filled
  have atMost : (Nat.toDigits 10 (numberOf digits)).length ≤ digits.length :=
    (Nat.length_toDigits_le_iff (by decide) positive).mpr (numberOfLt isDigits)
  have atLeast : digits.length ≤ (Nat.toDigits 10 (numberOf digits)).length := by
    rcases least with single | least
    · rw [single]
      exact Nat.length_toDigits_pos
    · by_contra shorter
      have filled := Nat.length_toDigits_pos (b := 10) (n := numberOf digits)
      have fits := (Nat.length_toDigits_le_iff (b := 10) (n := numberOf digits)
        (k := digits.length - 1) (by decide) (by omega)).mp (by omega)
      omega
  exact numberOfInjective (isDigitsToDigits _) isDigits (by omega) (numberOfToDigits _)

theorem leastOfUnpadded (isDigits : IsDigits digits) (unpadded : IsUnpadded digits) :
    digits.length = 1 ∨ 10 ^ (digits.length - 1) ≤ numberOf digits := by
  obtain ⟨filled, leading⟩ := unpadded
  cases digits with
  | nil => exact absurd rfl filled
  | cons digit rest =>
      by_cases zero : digit = '0'
      · subst zero
        left
        rw [leading rfl]
        rfl
      · right
        have isDigit := (isDigitsCons.mp isDigits).1
        have positive : 1 ≤ digitValue digit := by
          by_contra none
          exact zero (digitValueInjective isDigit rfl (by
            change digitValue digit = 0
            omega))
        rw [numberOfCons, List.length_cons, Nat.add_sub_cancel]
        nlinarith [Nat.pow_pos (n := rest.length) (show 0 < 10 by decide)]

theorem unpaddedToDigits (number : Nat) : IsUnpadded (Nat.toDigits 10 number) := by
  refine ⟨Nat.toDigits_ne_nil, fun leading => ?_⟩
  have denotes := numberOfToDigits number
  have isDigits := isDigitsToDigits number
  have shortest := Nat.length_toDigits_le_iff (b := 10) (n := number)
    (k := (Nat.toDigits 10 number).length - 1) (by decide)
  cases digits : Nat.toDigits 10 number with
  | nil => exact absurd digits Nat.toDigits_ne_nil
  | cons digit rest =>
      rw [digits] at leading denotes isDigits shortest
      obtain rfl := Option.some.inj leading
      cases rest with
      | nil => rfl
      | cons next rest =>
          have below := numberOfLt (isDigitsCons.mp isDigits).2
          rw [numberOfCons] at denotes
          have few := (shortest (by simp)).mpr (by simpa [← denotes, digitValue] using below)
          simp at few

end FleetPanel.Text
