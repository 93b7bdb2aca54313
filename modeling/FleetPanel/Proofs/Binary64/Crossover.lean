/-
This file finds the magnitude from which on neighbouring numbers lie further apart than hundredths.
The shortest decimal of any greater number has two places at most, and hundredths that are rounded
to a number below it can be read off that number.
-/

import FleetPanel.Proofs.Binary64.Shortest

namespace FleetPanel.Binary64

variable {rank excess point : Nat} {exponent : Int} {value : ℚ} {number : Binary64}

/-- A power of two from 2 ^ 52 on has a rank of its own, at which the width changes. -/
theorem unitsOfPower (excess : Nat) :
    unitsOfRank (fractions * (excess + 1)) = 2 ^ (52 + excess) := by
  have fits : Fits excess fractions := ⟨.inr le_rfl, by decide⟩
  have units := unitsOfFits fits
  rwa [show fractions = 2 ^ 52 by decide, ← pow_add] at units

/-- Below a power of two the middles are at most one step of the last bit apart. -/
theorem widthBelow (positive : 0 < rank) (below : rank < fractions * (excess + 2)) :
    width rank ≤ 2 ^ excess := by
  obtain ⟨own, significand, -, full, rfl, -, apart⟩ := widthCases positive
  have less : own ≤ excess := by
    simp only [fractions] at *
    omega
  have grows : (2 : ℚ) ^ own ≤ 2 ^ excess := pow_le_pow_right₀ (by norm_num) less
  have scale : (0 : ℚ) < 2 ^ own := by positivity
  rcases apart with same | ⟨-, least⟩ <;> linarith

/-- From a power of two on they are at least three quarters of such a step apart. -/
theorem widthFrom (reached : fractions * (excess + 2) ≤ rank) :
    3 / 4 * 2 ^ (excess + 1) ≤ width rank := by
  have positive : 0 < rank := Nat.lt_of_lt_of_le (by simp [fractions]) reached
  obtain ⟨own, significand, below, -, rfl, -, apart⟩ := widthCases positive
  have less : excess + 1 ≤ own := by
    simp only [fractions] at *
    omega
  have grows : (2 : ℚ) ^ (excess + 1) ≤ 2 ^ own := pow_le_pow_right₀ (by norm_num) less
  have scale : (0 : ℚ) < 2 ^ own := by positivity
  rcases apart with same | ⟨-, least⟩ <;> linarith

/-- The rank of 2 ^ 46. -/
def crossover : Nat := fractions * 1069

/-- The greatest number with hundredths of its own, in whole units. -/
def crossoverValue : Nat := 70368744177664

/-- The excess of the numbers before the crossover. The exponents are named to keep the powers from
being evaluated. -/
theorem crossoverSpec : ∃ excess, crossover = fractions * (excess + 2) ∧
    (2 : ℚ) ^ excess * 128 = unitsOfOne ∧
    (unitsOfRank crossover : ℚ) = crossoverValue * unitsOfOne := by
  obtain ⟨bits, counted, units⟩ := unitsOfOneEq
  obtain ⟨excess, same⟩ : ∃ excess, excess = 1067 := ⟨_, rfl⟩
  have rankSame : crossover = fractions * (excess + 2) := by rw [same, crossover]
  refine ⟨excess, rankSame, ?_, ?_⟩
  · rw [units, show bits = excess + 7 by omega, pow_add]
    norm_num
  · rw [rankSame, unitsOfPower, units, show 52 + (excess + 1) = 46 + bits by omega, pow_add,
      show crossoverValue = 2 ^ 46 by decide]
    push_cast
    rfl

theorem widthBeforeCrossover (positive : 0 < rank) (before : rank < crossover) :
    width rank * 128 ≤ unitsOfOne := by
  obtain ⟨excess, same, step, -⟩ := crossoverSpec
  rw [same] at before
  have narrow := widthBelow positive before
  linarith

theorem hundredthOf (units : ℚ) : 10 ^ (-2 : ℤ) * units = units / 100 := by
  norm_num
  ring

theorem widthFromCrossover (reached : crossover ≤ rank) :
    (10 : ℚ) ^ (-2 : ℤ) * unitsOfOne < width rank := by
  obtain ⟨excess, same, step, -⟩ := crossoverSpec
  rw [same] at reached
  have wide := widthFrom reached
  have scale : (0 : ℚ) < 2 ^ excess := by positivity
  rw [pow_succ] at wide
  rw [hundredthOf]
  linarith

/-- The shortest decimal is a point of every grid that has one, from the leading digit on. -/
theorem shortestOnGrid (tie : Tie) {count : Nat} (positive : 0 < number.rank)
    (reads : RoundsTo (gridUnits (leadingExponent number.units - count) point) number.rank) :
    ∃ other : Nat, (number.shortest tie).value =
      other * 10 ^ (leadingExponent number.units - count) := by
  obtain ⟨found, first, firstPoint⟩ := firstPointFound tie positive
  have atMost : found ≤ count := by
    by_contra late
    exact firstPoint.first count point (Nat.lt_of_not_le late) reads
  refine ⟨first * 10 ^ (count - found), ?_⟩
  rw [firstPoint.value]
  push_cast
  rw [mul_assoc, ← zpow_natCast, ← zpow_add₀ (by norm_num)]
  congr 2
  omega

/-- The leading digit of a number of at least one stands before the point. -/
theorem leadingBeforePoint (large : (unitsOfOne : ℚ) ≤ number.units) :
    0 ≤ leadingExponent number.units := by
  have positive : 0 < number.units := by
    exact_mod_cast unitsOfOnePositive.trans_le large
  have most := (leadingExponentSpec positive).2
  by_contra below
  have least : (10 : ℚ) ^ (leadingExponent number.units + 1) ≤ 1 :=
    zpow_le_one_of_nonpos₀ (by norm_num) (by omega)
  have under := mul_le_mul_of_nonneg_right least unitsOfOnePositive.le
  linarith

/-- The hundredths of a number of at least one lie behind its leading digit. -/
theorem placeOfHundredths (large : (unitsOfOne : ℚ) ≤ number.units) :
    ∃ count : Nat, leadingExponent number.units - count = -2 := by
  have leading := leadingBeforePoint large
  exact ⟨(leadingExponent number.units + 2).toNat, by omega⟩

/-- From the crossover on the shortest decimal has two places at most. -/
theorem hundredthsFromCrossover (tie : Tie) (reached : crossover ≤ number.rank) :
    ∃ hundredths : Nat, (number.shortest tie).value = hundredths / 100 := by
  have positive : 0 < number.rank := Nat.lt_of_lt_of_le (by decide) reached
  obtain ⟨-, -, -, units⟩ := crossoverSpec
  have grown : (unitsOfRank crossover : ℚ) ≤ number.units := by
    exact_mod_cast unitsStrictMono.monotone reached
  have large : (unitsOfOne : ℚ) ≤ number.units := by
    have one : (1 : ℚ) ≤ crossoverValue := by norm_num [crossoverValue]
    have scaled := mul_le_mul_of_nonneg_right one unitsOfOnePositive.le
    linarith
  obtain ⟨count, counted⟩ := placeOfHundredths large
  have found : (gridPoint? tie number.rank (-2)).isSome :=
    fineGridFound positive (widthFromCrossover reached)
  obtain ⟨point, here⟩ := Option.isSome_iff_exists.mp found
  have reads := (gridPointSpec here).1
  rw [← counted] at reads
  obtain ⟨other, value⟩ := shortestOnGrid tie positive reads
  refine ⟨other, ?_⟩
  rw [value, counted]
  norm_num [div_eq_mul_inv]

theorem rankLtOfBelow {bound : Nat} (rounds : RoundsTo value rank) (below : value < lowEnd bound) :
    rank < bound := by
  by_contra above
  exact absurd (rounds.above.trans_lt below) (lowEndMono (Nat.le_of_not_lt above)).not_gt

/-- The last middle before the crossover is nearer to it than a hundredth. -/
theorem lowEndOfCrossover :
    (crossoverValue : ℚ) * unitsOfOne ≤ lowEnd crossover + unitsOfOne / 128 := by
  obtain ⟨-, -, -, units⟩ := crossoverSpec
  obtain ⟨last, next, positive⟩ : ∃ last, crossover = last + 1 ∧ 0 < last :=
    ⟨crossover - 1, by decide⟩
  have narrow := widthBeforeCrossover positive (by omega)
  have low := lowEndLt positive
  have middle : lowEnd crossover = (unitsOfRank last + unitsOfRank crossover) / 2 := by
    rw [next, lowEndSucc, highEnd]
  have high : highEnd last = lowEnd crossover := by rw [next, lowEndSucc]
  rw [width, high] at narrow
  linarith

/-- A number before the crossover has a shortest decimal below it. -/
theorem valueBeforeCrossover (tie : Tie) (before : number.rank < crossover) :
    (number.shortest tie).value < crossoverValue := by
  obtain ⟨-, -, -, units⟩ := crossoverSpec
  have rounds := shortestRounds tie number
  obtain ⟨last, next⟩ : ∃ last, crossover = last + 1 := ⟨crossover - 1, by decide⟩
  have under : (number.shortest tie).value * unitsOfOne ≤ lowEnd crossover := by
    rw [next, lowEndSucc]
    exact rounds.below.trans (highEndStrictMono.monotone (by omega))
  have low := lowEndLt (show 0 < crossover by decide)
  rw [units] at low
  exact lt_of_mul_lt_mul_right (under.trans_lt low) unitsOfOnePositive.le

end FleetPanel.Binary64
