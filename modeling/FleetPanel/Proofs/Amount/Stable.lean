/-
This file shows that the dollars of a number stand still: what is read from them has the same
dollars.

A number with hundredths of its own may be read back as another one, but the hundredths that are
shown are the shortest decimal of that. Numbers too large for hundredths are read back as they were.
-/

import FleetPanel.Proofs.Amount.Cents
import FleetPanel.Proofs.Binary64.Crossover

namespace FleetPanel.Amount

open Text Binary64

variable {number other : Binary64} {cents : Nat} {digits : List Char}

/-- Hundredths are the cents nearest to themselves. -/
theorem floorOfHundredths (cents : Nat) : ⌊100 * ((cents : ℚ) / 100) + 1 / 2⌋ = cents := by
  rw [Int.floor_eq_iff]
  push_cast
  constructor <;> linarith

/-- Hundredths of at least one that round to a number before the crossover are its shortest
decimal. -/
theorem shortestBeforeCrossover (tie : Tie) (large : 2 * 100 ≤ cents)
    (rounds : RoundsTo (cents / 100 * unitsOfOne) other.rank) (before : other.rank < crossover) :
    (other.shortest tie).value = cents / 100 := by
  have one : (0 : ℚ) < unitsOfOne := unitsOfOnePositive
  have least : (2 : ℚ) ≤ cents / 100 := by
    rw [le_div_iff₀ (by norm_num)]
    exact_mod_cast large
  have scaled := mul_le_mul_of_nonneg_right least one.le
  have positive : 0 < other.rank := by
    refine Nat.pos_of_ne_zero fun zero => ?_
    have high := rounds.below
    have none : highEnd 0 = 1 / 2 := by norm_num [highEnd, unitsOfRank]
    have wide : (2 : ℚ) ^ 60 ≤ unitsOfOne := by exact_mod_cast unitsOfOneLarge
    rw [zero, none] at high
    linarith
  have narrow := widthBeforeCrossover positive before
  have low := lowEndLt positive
  have above : (unitsOfOne : ℚ) ≤ other.units := by
    have high := rounds.below
    change (unitsOfOne : ℚ) ≤ unitsOfRank other.rank
    unfold width at narrow
    linarith
  obtain ⟨count, counted⟩ := placeOfHundredths above
  have hundredth : (cents : ℚ) * 10 ^ (-2 : ℤ) = cents / 100 := by
    norm_num [div_eq_mul_inv]
  have coarse : width other.rank < 10 ^ (-2 : ℤ) * unitsOfOne := by
    rw [hundredthOf]
    linarith
  have reads : RoundsTo (gridUnits (-2) cents) other.rank := by
    rwa [gridUnits, hundredth]
  rw [← counted] at coarse reads
  rw [shortestOfCoarse tie positive reads coarse, counted, hundredth]

/-- The crossover has fewer than fifteen digits. -/
theorem shortestOfCrossover (tie : Tie)
    (rounds : RoundsTo (crossoverValue * 10 ^ (0 : ℤ) * unitsOfOne) other.rank) :
    (other.shortest tie).value = crossoverValue * 10 ^ (0 : ℤ) := by
  refine shortestOfFewDigits tie (by decide) (normalOfNearest rounds ?_) rounds
  have wide : (2 : ℚ) ^ 60 ≤ unitsOfOne := by exact_mod_cast unitsOfOneLarge
  have value : (crossoverValue : ℚ) = 70368744177664 := by norm_num [crossoverValue]
  have least : (fractions : ℚ) = 4503599627370496 := by norm_num [fractions]
  rw [value, least, zpow_zero]
  linarith

/-- Cents up to the crossover are the shortest decimal of the number that they are read as. -/
theorem shortestOfCentsBelow (tie : Tie) (most : cents ≤ 100 * crossoverValue)
    (nearest : NearestTo (cents / 100) other) :
    other.isFinite = true ∧ (other.shortest tie).value = cents / 100 := by
  have small : (cents : ℚ) / 100 < 10 ^ 15 := by
    rw [div_lt_iff₀ (by norm_num)]
    have cast : (cents : ℚ) ≤ 100 * crossoverValue := by exact_mod_cast most
    norm_num [crossoverValue] at cast ⊢
    linarith
  have inside := finiteOfNearest nearest small
  have rounds := nearest.finite inside
  refine ⟨finiteIff.mpr inside, ?_⟩
  rcases Nat.lt_or_ge cents (10 ^ 15) with few | many
  · exact shortestOfCents tie few nearest
  · rcases Nat.lt_or_eq_of_le most with less | same
    · refine shortestBeforeCrossover tie (by omega) rounds (rankLtOfBelow rounds ?_)
      have apart : (cents : ℚ) + 1 ≤ 100 * crossoverValue := by exact_mod_cast less
      have under : (cents : ℚ) / 100 ≤ crossoverValue - 1 / 100 := by linarith
      have scaled := mul_le_mul_of_nonneg_right under unitsOfOnePositive.le
      have low := lowEndOfCrossover
      have one := unitsOfOnePositive
      linarith
    · have value : (cents : ℚ) / 100 = crossoverValue * 10 ^ (0 : ℤ) := by
        rw [same]
        push_cast
        ring
      rw [value] at rounds ⊢
      exact shortestOfCrossover tie rounds

/-- The cents next to the shortest decimal of a number are read as a number that has them as its
shortest decimal, or as the same number. -/
theorem shortestOfRounded (tie : Tie) (finite : number.isFinite = true)
    (rounded : (cents : ℤ) = ⌊100 * (number.shortest tie).value + 1 / 2⌋)
    (nearest : NearestTo (cents / 100) other) (sign : other.negative = number.negative) :
    other = number ∨ other.isFinite = true ∧ (other.shortest tie).value = cents / 100 := by
  by_cases whole : (number.shortest tie).value = cents / 100
  · rw [← whole] at nearest
    exact .inl (nearest.unique (shortestIsShortest tie finite).reads sign)
  · have before : number.rank < crossover := by
      by_contra reached
      obtain ⟨hundredths, value⟩ := hundredthsFromCrossover tie (Nat.le_of_not_lt reached)
      rw [value, floorOfHundredths] at rounded
      rw [value, Nat.cast_inj.mp rounded] at whole
      exact whole rfl
    have below := valueBeforeCrossover tie before
    have floor : ⌊100 * (number.shortest tie).value + 1 / 2⌋ < (100 * crossoverValue + 1 : ℕ) := by
      rw [Int.floor_lt]
      push_cast
      linarith
    exact .inr (shortestOfCentsBelow tie (by omega) nearest)

/-- A character other than the marks that only help to read an amount. -/
def isPlain (character : Char) : Bool :=
  character != '$' && character != ','

/-- An amount without its dollar sign and its commas. -/
def plainAmount (text : String) : String :=
  String.ofList (text.toList.filter isPlain)

theorem digitIsPlain {digit : Char} (isDigit : digit.isDigit = true) : isPlain digit = true := by
  have apart : digit ≠ '$' ∧ digit ≠ ',' := by
    constructor <;> rintro rfl <;> exact absurd isDigit (by decide)
  simp [isPlain, apart]

theorem digitsKept (isDigits : IsDigits digits) : digits.filter isPlain = digits :=
  List.filter_eq_self.mpr fun digit inside => digitIsPlain (isDigits digit inside)

/-- Commas are all that groups add to digits. -/
theorem groupsKept (isDigits : IsDigits digits) :
    (groupThousands digits).filter isPlain = digits := by
  induction digits with
  | nil => rfl
  | cons digit rest inductionHypothesis =>
      obtain ⟨isDigit, restIsDigits⟩ := isDigitsCons.mp isDigits
      have kept := inductionHypothesis restIsDigits
      rw [groupThousands]
      split
      · rw [List.filter_cons_of_pos (digitIsPlain isDigit), List.filter_cons_of_neg (by decide),
          kept]
      · rw [List.filter_cons_of_pos (digitIsPlain isDigit), kept]

/-- Without the marks the text of some dollars is that of the same cents. -/
theorem plainDollars (negative : Bool) (cents : Nat) :
    plainAmount (String.ofList (signText negative ++
        '$' :: groupThousands (Nat.toDigits 10 (cents / 100)) ++ '.' :: padded 2 (cents % 100))) =
      String.ofList (centsText negative cents) := by
  have sign : (signText negative).filter isPlain = signText negative := by
    cases negative <;> decide
  have symbol : isPlain '$' = false := by decide
  have point : isPlain '.' = true := by decide
  simp only [plainAmount, String.toList_ofList, List.append_assoc, List.cons_append,
    List.filter_append, List.filter_cons, symbol, point, Bool.false_eq_true, if_true, if_false,
    sign, groupsKept (isDigitsToDigits _), digitsKept (isDigitsPadded _ _)]
  rfl

/-- The dollars of a finite number, read back without their marks, are the same dollars. -/
theorem dollarsReadBack (finite : number.isFinite = true) :
    dollars (ofText (plainAmount (dollars number))) = dollars number := by
  obtain ⟨cents, rounded, text⟩ := dollarsOfFinite finite (shortestDenotes .up number)
  obtain ⟨sign, nearest⟩ := ofTextOfNumeral (centsSpell number.negative cents)
  rw [text, plainDollars]
  generalize ofText (String.ofList (centsText number.negative cents)) = other at *
  rcases shortestOfRounded .up finite rounded nearest sign with rfl | ⟨otherFinite, value⟩
  · exact text
  · have shown := shortestDenotes .up other
    rw [value] at shown
    obtain ⟨found, again, otherText⟩ := dollarsOfFinite otherFinite shown
    have same : found = cents := by
      exact_mod_cast again.trans (floorOfHundredths cents)
    rw [otherText, same, sign]

/-- A number that the rounding moves. -/
theorem roundedDollarsReadBack :
    (ofDecimal true 31415926 (-3)).isFinite = true ∧
      dollars (ofDecimal true 31415926 (-3)) = "-$31,415.93" ∧
      dollars (ofText "-31415.93") = "-$31,415.93" := by
  have finite : (ofDecimal true 31415926 (-3)).isFinite = true := by decide +kernel
  have shown : dollars (ofDecimal true 31415926 (-3)) = "-$31,415.93" := by decide +kernel
  have plain : plainAmount "-$31,415.93" = "-31415.93" := by decide
  have back := dollarsReadBack finite
  rw [shown, plain] at back
  exact ⟨finite, shown, back⟩

end FleetPanel.Amount
