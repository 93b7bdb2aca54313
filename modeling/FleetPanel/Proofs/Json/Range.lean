/-
This file tells which numbers of the grammar have a value: those below 10 ^ 308 have one, and those
from 10 ^ 309 on have none. In between the digits that are read and the roundings decide.
-/

import FleetPanel.Proofs.Binary64.Product
import FleetPanel.Proofs.Json.Grammar

namespace FleetPanel.Json

open Text Binary64

variable {digits : List Char} {start : Nat}

/-- The digits that are read make a significand, which is long if some are left. -/
theorem gatherSpec (isDigits : IsDigits digits) (fits : start < UInt64.size) :
    ∃ front back, digits = front ++ back ∧ IsDigits back ∧
      gather start digits = (start * 10 ^ front.length + numberOf front, back.length) ∧
      start * 10 ^ front.length + numberOf front < UInt64.size ∧
      (back = [] ∨ 10 ^ 18 ≤ start * 10 ^ front.length + numberOf front) := by
  induction digits generalizing start with
  | nil =>
      refine ⟨[], [], rfl, isDigitsNil, ?_, ?_, .inl rfl⟩
      · simp [gather, numberOfNil]
      · simpa [numberOfNil] using fits
  | cons digit rest inductionHypothesis =>
      obtain ⟨isDigit, restIsDigits⟩ := isDigitsCons.mp isDigits
      have few := (digitValueSpec isDigit).1
      rw [gather]
      by_cases next : 10 * start + digitValue digit < UInt64.size
      · obtain ⟨front, back, rfl, backIsDigits, gathered, inside, long⟩ :=
          inductionHypothesis restIsDigits next
        have same : (10 * start + digitValue digit) * 10 ^ front.length + numberOf front =
            start * 10 ^ (digit :: front).length + numberOf (digit :: front) := by
          rw [numberOfCons, List.length_cons]
          ring
        rw [same] at gathered inside long
        exact ⟨digit :: front, back, rfl, backIsDigits, (if_pos next).trans gathered, inside, long⟩
      · refine ⟨[], digit :: rest, rfl, isDigits, (if_neg next).trans ?_, ?_, .inr ?_⟩
        all_goals simp [numberOfNil, UInt64.size] at *
        all_goals omega

/-- Digits behind a point denote no more than one. -/
theorem shareOfDigits (isDigits : IsDigits digits) {share : ℚ}
    (same : (numberOf digits : ℚ) = share * 10 ^ digits.length) : 0 ≤ share ∧ share ≤ 1 := by
  have power : (0 : ℚ) < 10 ^ digits.length := by positivity
  have below : (numberOf digits : ℚ) ≤ 10 ^ digits.length := by
    exact_mod_cast (numberOfLt isDigits).le
  rw [same] at below
  constructor
  · exact le_of_mul_le_mul_right (by rw [zero_mul, ← same]; positivity) power
  · exact le_of_mul_le_mul_right (by rwa [one_mul]) power

namespace Numeral

/-- The power of ten that is written behind the digits. -/
def power (numeral : Numeral) : Int :=
  match numeral.exponent? with
  | none => 0
  | some exponent =>
      if exponent.direction = .down then -numberOf exponent.digits else numberOf exponent.digits

/-- What the digits of a number denote. -/
def coefficient (numeral : Numeral) : ℚ :=
  numberOf numeral.whole + numberOf numeral.fraction * 10 ^ (-numeral.fraction.length : ℤ)

/-- What a number denotes, without its sign. -/
def magnitude (numeral : Numeral) : ℚ :=
  numeral.coefficient * 10 ^ numeral.power

/-- The digits in front of the point are read as far as they fit, then those behind it. -/
theorem digitsSplit (numeral : Numeral) : ∃ front left middle beyond,
    numeral.whole = front ++ left ∧ numeral.fraction = middle ++ beyond ∧
    IsDigits left ∧ IsDigits middle ∧ IsDigits beyond ∧
    numeral.significand = (numberOf front * 10 ^ middle.length + numberOf middle,
      (left.length - middle.length : ℤ)) ∧
    numberOf front * 10 ^ middle.length + numberOf middle < UInt64.size ∧
    (left = [] ∨ 10 ^ 18 ≤ numberOf front) ∧
    (beyond = [] ∨ 10 ^ 18 ≤ numberOf front * 10 ^ middle.length + numberOf middle) := by
  obtain ⟨front, left, whole, leftIsDigits, gathered, inside, long⟩ :=
    gatherSpec numeral.isDigits (show 0 < UInt64.size by decide)
  obtain ⟨middle, beyond, fraction, beyondIsDigits, gatheredMore, insideMore, longMore⟩ :=
    gatherSpec numeral.fractionIsDigits inside
  rw [Nat.zero_mul, Nat.zero_add] at gathered gatheredMore insideMore long longMore
  have isDigits := numeral.fractionIsDigits
  rw [fraction] at isDigits
  have taken : numeral.fraction.length - beyond.length = middle.length := by
    rw [fraction, List.length_append, Nat.add_sub_cancel]
  refine ⟨front, left, middle, beyond, whole, fraction, leftIsDigits,
    (isDigitsAppend.mp isDigits).1, beyondIsDigits, ?_, insideMore, long, longMore⟩
  simp only [significand, gathered, gatheredMore, taken]

/-- The parts of a number that are read: `front` and `shown` of the digits in front of the point and
behind it. What is left of them is `left`, behind `places` digits, and `hidden`. -/
structure Parts (numeral : Numeral) (front shown left hidden : ℚ) (places : Nat) : Prop where
  read : (numeral.significand.1 * 10 ^ numeral.significand.2 : ℚ) = (front + shown) * 10 ^ places
  denoted : numeral.coefficient = front * 10 ^ places + left + shown + hidden
  fits : numeral.significand.1 < UInt64.size
  shownBounds : 0 ≤ shown ∧ shown ≤ 1
  leftBounds : 0 ≤ left ∧ left ≤ 10 ^ places
  hiddenBounds : 0 ≤ hidden ∧ hidden ≤ 1
  long : places = 0 ∧ left = 0 ∧ 4 * hidden ≤ front + shown ∨ 10 ^ 18 ≤ front

theorem partsOfNumeral (numeral : Numeral) :
    ∃ front shown left hidden places, numeral.Parts front shown left hidden places := by
  obtain ⟨front, left, middle, beyond, whole, fraction, leftIsDigits, middleIsDigits,
    beyondIsDigits, read, fits, long, longMore⟩ := digitsSplit numeral
  obtain ⟨shown, shownSame⟩ : ∃ shown : ℚ, numberOf middle = shown * 10 ^ middle.length :=
    ⟨numberOf middle / 10 ^ middle.length, by field_simp⟩
  obtain ⟨hidden, hiddenSame⟩ : ∃ hidden : ℚ,
      numberOf beyond = hidden * 10 ^ middle.length * 10 ^ beyond.length :=
    ⟨numberOf beyond / 10 ^ middle.length / 10 ^ beyond.length, by field_simp⟩
  have power : (1 : ℚ) ≤ 10 ^ middle.length := one_le_pow₀ (by norm_num)
  have behind := shareOfDigits beyondIsDigits hiddenSame
  have positive : 0 ≤ hidden := by
    by_contra negative
    have product := mul_neg_of_neg_of_pos (not_le.mp negative) (zero_lt_one.trans_le power)
    linarith
  refine ⟨numberOf front, shown, numberOf left, hidden, left.length, ?_, ?_, ?_,
    shareOfDigits middleIsDigits shownSame, ?_, ⟨positive, ?_⟩, ?_⟩
  · rw [read, zpow_sub₀ (by norm_num), zpow_natCast, zpow_natCast]
    push_cast
    rw [shownSame]
    field_simp
  · rw [coefficient, whole, fraction, numberOfAppend, numberOfAppend, List.length_append, zpow_neg,
      zpow_natCast, pow_add]
    push_cast
    rw [shownSame, hiddenSame]
    field_simp
    ring
  · rwa [read]
  · exact ⟨Nat.cast_nonneg _, by exact_mod_cast (numberOfLt leftIsDigits).le⟩
  · exact (le_mul_of_one_le_right positive power).trans behind.2
  · rcases long with rfl | long
    · refine .inl ⟨rfl, by simp [numberOfNil], ?_⟩
      have shownPositive := (shareOfDigits middleIsDigits shownSame).1
      rcases longMore with rfl | longMore
      · have none : hidden = 0 := by simpa [numberOfNil] using hiddenSame.symm
        rw [none, mul_zero]
        positivity
      · have cast : (10 : ℚ) ^ 18 ≤ (numberOf front + shown) * 10 ^ middle.length := by
          rw [add_mul, ← shownSame]
          exact_mod_cast longMore
        refine le_of_mul_le_mul_right ?_ (zero_lt_one.trans_le power)
        linarith [behind.2]
    · exact .inr (by exact_mod_cast long)

/-- What is read of the digits is at most a quarter away from what they denote. -/
theorem significandSpec (numeral : Numeral) :
    numeral.significand.1 < UInt64.size ∧
      4 * (numeral.significand.1 * 10 ^ numeral.significand.2 : ℚ) ≤ 5 * numeral.coefficient ∧
      4 * numeral.coefficient ≤ 5 * (numeral.significand.1 * 10 ^ numeral.significand.2) := by
  obtain ⟨front, shown, left, hidden, places, parts⟩ := partsOfNumeral numeral
  refine ⟨parts.fits, ?_⟩
  rw [parts.read, parts.denoted]
  have shownBounds := parts.shownBounds
  have leftBounds := parts.leftBounds
  have hiddenBounds := parts.hiddenBounds
  rcases parts.long with ⟨rfl, none, small⟩ | long
  · rw [none, pow_zero]
    constructor <;> linarith
  · have power : (1 : ℚ) ≤ 10 ^ places := one_le_pow₀ (by norm_num)
    have wide := mul_le_mul_of_nonneg_right long (zero_le_one.trans power)
    have shownScaled := mul_le_mul_of_nonneg_right shownBounds.2 (zero_le_one.trans power)
    have shownPositive := mul_nonneg shownBounds.1 (zero_le_one.trans power)
    constructor <;> linarith

end Numeral

variable {significand places : Nat} {numeral : Numeral}

/-- A significand has at most twenty places, far fewer than the greatest scaling. -/
theorem fewPlaces (fits : significand < UInt64.size) :
    (significand : ℚ) ≤ 10 ^ 20 ∧ (10 : ℚ) ^ 20 ≤ 10 ^ longestScale :=
  ⟨by exact_mod_cast fits.le.trans (by decide : UInt64.size ≤ 10 ^ 20),
    pow_le_pow_right₀ (by norm_num) (by decide)⟩

theorem ofNatNearest (number : Nat) : NearestTo number (.ofNat number) :=
  ofWholeNearest false number

theorem roundedSignificand (positive : significand ≠ 0) (fits : significand < UInt64.size) :
    IsRounded significand (.ofNat significand) where
  nearest := ofNatNearest significand
  finite := by
    have few := (fewPlaces fits).1
    exact finiteOfBelow (ofNatNearest significand) (by decide : 20 ≤ 308) (by linarith)
  one := Nat.one_le_cast.mpr (Nat.pos_of_ne_zero positive)

theorem roundedPower (few : places ≤ longestScale) :
    IsRounded (10 ^ places) (powerOfTen places) := by
  have nearest := ofNatNearest (Nat.pow 10 places)
  rw [Nat.pow_eq, Nat.cast_pow, Nat.cast_ofNat] at nearest
  have power : (0 : ℚ) < 10 ^ places := by positivity
  exact ⟨nearest, finiteOfBelow nearest few (by linarith), one_le_pow₀ (by norm_num)⟩

/-- One scaling gives a number if the product is below five quarters of 10 ^ 308, and none if it is
at least four fifths of 10 ^ 309. -/
theorem scaleOnce (positive : significand ≠ 0) (fits : significand < UInt64.size)
    (few : places ≤ longestScale) :
    (4 * (significand * 10 ^ places : ℚ) < 5 * 10 ^ longestScale →
      (scale? significand places).isSome) ∧
    (4 * 10 ^ (longestScale + 1) ≤ 5 * (significand * 10 ^ places : ℚ) →
      scale? significand places = none) := by
  have rounded := roundedSignificand positive fits
  have power := roundedPower few
  have up : ¬ (places : ℤ) < 0 := by omega
  simp only [scale?, if_neg positive, if_neg up, if_pos (Int.ofNat_le.mpr few), Int.toNat_natCast]
  constructor
  · intro small
    rw [if_pos (productFinite rounded power le_rfl small.le)]
    rfl
  · intro large
    simp only [productInfinite rounded power le_rfl large, Bool.false_eq_true, ↓reduceIte]

/-- The same holds of every scaling: down it always gives a number, and more than 308 places up it
never does. -/
theorem scaleSpec (fits : significand < UInt64.size) (exponent : Int) :
    (4 * (significand * 10 ^ exponent : ℚ) < 5 * 10 ^ longestScale →
      (scale? significand exponent).isSome) ∧
    (4 * 10 ^ (longestScale + 1) ≤ 5 * (significand * 10 ^ exponent : ℚ) →
      scale? significand exponent = none) := by
  have room : (0 : ℚ) < 10 ^ longestScale := by positivity
  have next : (10 : ℚ) ^ (longestScale + 1) = 10 * 10 ^ longestScale := pow_succ' 10 longestScale
  by_cases zero : significand = 0
  · subst zero
    refine ⟨fun _ => rfl, fun large => ?_⟩
    rw [Nat.cast_zero] at large
    linarith
  by_cases negative : exponent < 0
  · have shrinks : (10 : ℚ) ^ exponent ≤ 1 := zpow_le_one_of_nonpos₀ (by norm_num) negative.le
    obtain ⟨few, wide⟩ := fewPlaces fits
    have small := mul_le_mul_of_nonneg_left shrinks (Nat.cast_nonneg significand)
    refine ⟨fun _ => by simp [scale?, zero, negative], fun large => ?_⟩
    linarith
  obtain ⟨places, rfl⟩ := Int.eq_ofNat_of_zero_le (Int.not_lt.mp negative)
  rw [zpow_natCast]
  by_cases few : places ≤ longestScale
  · exact scaleOnce zero fits few
  · have many : (10 : ℚ) ^ (longestScale + 1) ≤ 10 ^ places :=
      pow_le_pow_right₀ (by norm_num) (Nat.lt_of_not_le few)
    have one : (1 : ℚ) ≤ significand := Nat.one_le_cast.mpr (Nat.pos_of_ne_zero zero)
    have power : (0 : ℚ) ≤ 10 ^ places := by positivity
    have product := mul_le_mul_of_nonneg_right one power
    refine ⟨fun small => ?_, fun _ => ?_⟩
    · linarith
    · rw [scale?, if_neg zero, if_neg negative, if_neg (by exact_mod_cast few)]

namespace Numeral

/-- The exponent of a number, if it has one, is read to its end. -/
def IsCounted (numeral : Numeral) : Prop :=
  ∀ exponent, numeral.exponent? = some exponent → numberOf exponent.digits ≤ greatestExponent

/-- What is read of the digits, scaled by the power of ten that is written behind them. -/
theorem scaledInRange (numeral : Numeral) {exponent : Int}
    (same : exponent = numeral.significand.2 + numeral.power) :
    (numeral.magnitude < 10 ^ longestScale →
      (scaled? numeral.negative numeral.significand.1 exponent).isSome) ∧
    (10 ^ (longestScale + 1) ≤ numeral.magnitude →
      scaled? numeral.negative numeral.significand.1 exponent = none) := by
  subst same
  obtain ⟨fits, most, least⟩ := significandSpec numeral
  obtain ⟨found, none⟩ := scaleSpec fits (numeral.significand.2 + numeral.power)
  have power : (0 : ℚ) < 10 ^ numeral.power := zpow_pos (by norm_num) _
  have mostScaled := mul_le_mul_of_nonneg_right most power.le
  have leastScaled := mul_le_mul_of_nonneg_right least power.le
  rw [zpow_add₀ (by norm_num), ← mul_assoc] at found none
  unfold magnitude
  constructor
  · intro small
    rw [scaled?, Option.isSome_map]
    exact found (by linarith)
  · intro large
    rw [scaled?, none (by linarith), Option.map_none]

/-- Digits that fit and have no power of ten are far below the greatest scaling. -/
theorem magnitudeOfPlain (unwritten : numeral.exponent? = none)
    (whole : numeral.significand.2 = 0) : numeral.magnitude < 10 ^ (longestScale + 1) := by
  obtain ⟨fits, _, least⟩ := significandSpec numeral
  obtain ⟨few, wide⟩ := fewPlaces fits
  have same : numeral.magnitude = numeral.coefficient := by
    rw [magnitude, Numeral.power, unwritten, zpow_zero, mul_one]
  have positive : (0 : ℚ) < 10 ^ 20 := by positivity
  rw [whole, zpow_zero, mul_one] at least
  rw [same, pow_succ]
  linarith

/-- A number whose exponent is read to its end has a value if it is below 10 ^ 308, and none if it
is at least 10 ^ 309. -/
theorem valueInRange (counted : numeral.IsCounted) :
    (numeral.magnitude < 10 ^ longestScale → numeral.value?.isSome) ∧
      (10 ^ (longestScale + 1) ≤ numeral.magnitude → numeral.value? = none) := by
  simp only [value?]
  split
  · case isTrue plain =>
      exact ⟨fun _ => rfl, fun large => absurd (magnitudeOfPlain plain.2.1 plain.2.2) large.not_gt⟩
  · case isFalse _ =>
      cases written : numeral.exponent? with
      | none => exact numeral.scaledInRange (by simp [Numeral.power, written])
      | some exponent =>
          rw [scaledBy?, if_neg (Nat.not_lt.mpr (counted exponent written))]
          refine numeral.scaledInRange ?_
          rw [Numeral.power, written]
          split
          · case isTrue down => simp [down, sub_eq_add_neg]
          · case isFalse up => simp [up]

end Numeral

end FleetPanel.Json
