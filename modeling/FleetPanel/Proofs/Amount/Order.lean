/-
This file shows that showing amounts as dollars keeps their order: no amount is shown with more
cents than a greater one, across signs and however long their decimals are.
-/

import FleetPanel.Proofs.Amount.Stable

namespace FleetPanel

namespace Binary64

/-- The value of a finite number. Both zeros have the same. -/
def value (number : Binary64) : ℚ :=
  (if number.negative then -1 else 1) * (number.units / unitsOfOne)

variable {lower upper : Binary64}

theorem valueOfPositive {number : Binary64} (sign : number.negative = false) :
    number.value = number.units / unitsOfOne := by
  rw [value, sign, if_neg Bool.false_ne_true, one_mul]

theorem valueOfNegative {number : Binary64} (sign : number.negative = true) :
    number.value = -(number.units / unitsOfOne) := by
  rw [value, sign, if_pos rfl, neg_one_mul]

/-- Magnitudes stand in the order of their ranks. -/
theorem magnitudeLeIff :
    (lower.units : ℚ) / unitsOfOne ≤ upper.units / unitsOfOne ↔ lower.rank ≤ upper.rank := by
  rw [div_le_div_iff_of_pos_right unitsOfOnePositive, Nat.cast_le]
  exact unitsStrictMono.le_iff_le

/-- A magnitude that is not above a negated one is zero. -/
theorem rankZeroOfUnits
    (ordered : (lower.units : ℚ) / unitsOfOne ≤ -(upper.units / unitsOfOne)) :
    lower.rank = 0 := by
  have nonneg : (0 : ℚ) ≤ upper.units / unitsOfOne :=
    div_nonneg (Nat.cast_nonneg _) unitsOfOnePositive.le
  by_contra positive
  have units : (0 : ℚ) < lower.units := by
    exact_mod_cast unitsPositive (Nat.pos_of_ne_zero positive)
  have above := div_pos units unitsOfOnePositive
  linarith

/-- The shortest decimals stand in the order of the ranks, because each of them lies between the
middles to the neighbours of its own. -/
theorem shortestMono (tie : Tie) (ordered : lower.rank ≤ upper.rank) :
    (lower.shortest tie).value ≤ (upper.shortest tie).value := by
  rcases Nat.lt_or_eq_of_le ordered with less | same
  · have below := (shortestRounds tie lower).below
    have above := (shortestRounds tie upper).above
    have apart := lowEndMono less
    rw [Nat.succ_eq_add_one, lowEndSucc] at apart
    exact le_of_mul_le_mul_right (below.trans (apart.trans above)) unitsOfOnePositive
  · refine le_of_eq (congrArg Decimal.value ?_)
    unfold shortest units isZero
    rw [same]

end Binary64

namespace Amount

open Text Binary64

variable {lower upper number : Binary64} {digits : List Char}

/-- A whole number with its sign in front. -/
def signedNumber : List Char → Int
  | '-' :: digits => -(numberOf digits : Int)
  | digits => numberOf digits

/-- The cents that a text of dollars shows: its number without the symbol, the commas and the point,
negated behind a minus sign. -/
def shownCents (text : String) : Int :=
  signedNumber ((plainAmount text).toList.filter (· != '.'))

theorem signedNumberOfDigits (isDigits : IsDigits digits) :
    signedNumber digits = numberOf digits := by
  unfold signedNumber
  split
  · case h_1 rest =>
      have isDigit := (isDigitsCons.mp isDigits).1
      exact absurd isDigit (by decide)
  · rfl

theorem digitsBesidePoint (isDigits : IsDigits digits) : digits.filter (· != '.') = digits := by
  refine List.filter_eq_self.mpr fun digit inside => bne_iff_ne.mpr ?_
  rintro rfl
  exact absurd (isDigits '.' inside) (by decide)

/-- Without the point the text of some cents is their number. -/
theorem signedNumberOfCents (negative : Bool) (cents : Nat) :
    signedNumber ((centsText negative cents).filter (· != '.')) =
      if negative then -(cents : Int) else cents := by
  have two := lengthPadded (show cents % 100 < 10 ^ 2 from Nat.mod_lt _ (by decide)) (by decide)
  have isDigits : IsDigits (Nat.toDigits 10 (cents / 100) ++ padded 2 (cents % 100)) :=
    isDigitsAppend.mpr ⟨isDigitsToDigits _, isDigitsPadded _ _⟩
  have number : numberOf (Nat.toDigits 10 (cents / 100) ++ padded 2 (cents % 100)) = cents := by
    rw [numberOfAppend, two, numberOfToDigits, numberOfPadded]
    exact Nat.div_add_mod' cents 100
  have kept : (Nat.toDigits 10 (cents / 100) ++ '.' :: padded 2 (cents % 100)).filter (· != '.') =
      Nat.toDigits 10 (cents / 100) ++ padded 2 (cents % 100) := by
    rw [List.filter_append, List.filter_cons_of_neg (by decide),
      digitsBesidePoint (isDigitsToDigits _), digitsBesidePoint (isDigitsPadded _ _)]
  cases negative with
  | false =>
      rw [centsText, if_neg Bool.false_ne_true, List.nil_append, kept,
        signedNumberOfDigits isDigits, number, if_neg Bool.false_ne_true]
  | true =>
      rw [centsText, if_pos rfl, List.singleton_append, List.filter_cons_of_pos (by decide), kept,
        signedNumber, number, if_pos rfl]

/-- The cents next to the shortest decimal of a magnitude, a half going up. -/
def nearestCents (number : Binary64) : Int :=
  ⌊100 * (number.shortest .up).value + 1 / 2⌋

theorem nearestCentsMono (ordered : lower.rank ≤ upper.rank) :
    nearestCents lower ≤ nearestCents upper := by
  refine Int.floor_le_floor ?_
  have decimals := shortestMono .up ordered
  linarith

theorem nearestCentsOfZero (zero : number.rank = 0) : nearestCents number = 0 := by
  rw [nearestCents, shortestZero .up zero, Decimal.value, Int.floor_eq_iff]
  norm_num

theorem nearestCentsNonneg (number : Binary64) : 0 ≤ nearestCents number := by
  have least : nearestCents (zero false) ≤ nearestCents number := nearestCentsMono (Nat.zero_le _)
  rwa [nearestCentsOfZero (rankZero false)] at least

/-- The dollars of a finite number show its cents with its sign. -/
theorem shownCentsOfFinite (finite : number.isFinite = true) :
    shownCents (dollars number) =
      if number.negative then -nearestCents number else nearestCents number := by
  obtain ⟨cents, rounded, text⟩ := dollarsOfFinite finite (shortestDenotes .up number)
  rw [text, shownCents, plainDollars, String.toList_ofList, signedNumberOfCents, rounded]
  rfl

/-- A finite number that is not above another one is not shown with more cents. -/
theorem dollarsKeepOrder (lowerFinite : lower.isFinite = true) (upperFinite : upper.isFinite = true)
    (ordered : lower.value ≤ upper.value) :
    shownCents (dollars lower) ≤ shownCents (dollars upper) := by
  rw [shownCentsOfFinite lowerFinite, shownCentsOfFinite upperFinite]
  have lowerNonneg := nearestCentsNonneg lower
  have upperNonneg := nearestCentsNonneg upper
  cases lowerSign : lower.negative with
  | false =>
      rw [valueOfPositive lowerSign] at ordered
      cases upperSign : upper.negative with
      | false =>
          rw [valueOfPositive upperSign] at ordered
          exact nearestCentsMono (magnitudeLeIff.mp ordered)
      | true =>
          rw [valueOfNegative upperSign] at ordered
          have lowerZero := rankZeroOfUnits ordered
          have upperZero := rankZeroOfUnits (le_neg_of_le_neg ordered)
          simp [nearestCentsOfZero lowerZero, nearestCentsOfZero upperZero]
  | true =>
      rw [valueOfNegative lowerSign] at ordered
      cases upperSign : upper.negative with
      | false => exact (neg_nonpos.mpr lowerNonneg).trans upperNonneg
      | true =>
          rw [valueOfNegative upperSign] at ordered
          exact neg_le_neg (nearestCentsMono (magnitudeLeIff.mp (neg_le_neg_iff.mp ordered)))

/-- A decimal of seventeen digits in front of one of three. The greater number is just below the
middle of two cents, but its shortest decimal is that middle, which goes up. -/
theorem longDecimalBeforeShort :
    (ofDecimal false 30000000000000004 (-17)).isFinite = true ∧
      (ofDecimal false 305 (-3)).isFinite = true ∧
      (ofDecimal false 30000000000000004 (-17)).value ≤ (ofDecimal false 305 (-3)).value ∧
      shownCents (dollars (ofDecimal false 30000000000000004 (-17))) ≤
        shownCents (dollars (ofDecimal false 305 (-3))) ∧
      dollars (ofDecimal false 305 (-3)) = "$0.31" := by
  have lowerFinite : (ofDecimal false 30000000000000004 (-17)).isFinite = true := by decide +kernel
  have upperFinite : (ofDecimal false 305 (-3)).isFinite = true := by decide +kernel
  have ordered :
      (ofDecimal false 30000000000000004 (-17)).value ≤ (ofDecimal false 305 (-3)).value := by
    rw [valueOfPositive (ofDecimalNegative _ _ _), valueOfPositive (ofDecimalNegative _ _ _),
      magnitudeLeIff]
    decide +kernel
  exact ⟨lowerFinite, upperFinite, ordered, dollarsKeepOrder lowerFinite upperFinite ordered,
    by decide +kernel⟩

end Amount

end FleetPanel
