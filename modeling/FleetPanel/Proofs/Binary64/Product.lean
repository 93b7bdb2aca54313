/-
This file decides which products of rounded numbers are finite. Each rounding moves a magnitude by
less than a hundredth, which is far from sharp but enough where there is room for three of them.
-/

import FleetPanel.Proofs.Binary64.Grid

namespace FleetPanel.Binary64

/-- Each of two ratios is at most a hundredth greater than the other. -/
structure IsNear (value other : ℚ) : Prop where
  above : 100 * value ≤ 101 * other
  below : 100 * other ≤ 101 * value

variable {value other : ℚ} {rank places : Nat} {number left right : Binary64}

/-- The middles around a normal magnitude are near to it. -/
theorem endsNear (normal : fractions ≤ rank) :
    199 * (unitsOfRank rank : ℚ) ≤ 200 * lowEnd rank ∧
      200 * highEnd rank ≤ 201 * (unitsOfRank rank : ℚ) := by
  have thin := widthLe normal
  have low := lowEndLt (Nat.lt_of_lt_of_le (by decide) normal)
  have high := ltHighEnd rank
  have many : (200 : ℚ) ≤ fractions := by norm_num [fractions]
  unfold width at thin
  have apart : (highEnd rank - lowEnd rank) * 200 ≤ unitsOfRank rank :=
    (mul_le_mul_of_nonneg_left many (by linarith)).trans thin
  constructor <;> linarith

/-- A finite number that is nearest to a ratio of at least one. -/
structure IsRounded (value : ℚ) (number : Binary64) : Prop where
  nearest : NearestTo value number
  finite : number.rank < infiniteRank
  one : 1 ≤ value

/-- A rounded number is near to what it is rounded from. -/
theorem IsRounded.isNear (rounded : IsRounded value number) :
    IsNear (number.units / unitsOfOne) value := by
  have unit := unitsOfOnePositive
  have rounds := rounded.nearest.finite rounded.finite
  have large : (fractions : ℚ) ≤ value * unitsOfOne := by
    have scaled := mul_le_mul_of_nonneg_right rounded.one unit.le
    have wide : (2 : ℚ) ^ 60 ≤ unitsOfOne := by exact_mod_cast unitsOfOneLarge
    have few : (fractions : ℚ) ≤ 2 ^ 60 := by norm_num [fractions]
    linarith
  obtain ⟨low, high⟩ := endsNear (normalOfNearest rounds large)
  have above := rounds.above
  have below := rounds.below
  have scale : (number.units : ℚ) = number.units / unitsOfOne * unitsOfOne := by field_simp
  change 199 * (number.units : ℚ) ≤ _ at low
  change _ ≤ 201 * (number.units : ℚ) at high
  rw [scale] at low high
  constructor <;> refine le_of_mul_le_mul_right ?_ unit <;> linarith

/-- Thirteen tenths of a power of ten with 308 places are finite. -/
theorem finiteOfBelow (nearest : NearestTo value number) (few : places ≤ 308)
    (small : 10 * value ≤ 13 * 10 ^ places) : number.rank < infiniteRank := by
  by_contra infinite
  have large := (nearest.infinite (Nat.le_of_not_lt infinite)).2
  have low := (endsNear (show fractions ≤ infiniteRank by decide)).1
  have positive : (0 : ℚ) < unitsOfRank infiniteRank :=
    Nat.cast_pos.mpr (unitsPositive (by decide))
  have room : (52 : ℚ) * 10 ^ places * unitsOfOne ≤ 30 * unitsOfRank infiniteRank := by
    obtain ⟨top, reached⟩ : ∃ top, top = 1024 := ⟨_, rfl⟩
    have fits : 52 * 10 ^ places ≤ 30 * 2 ^ top := by
      subst reached
      refine Nat.le_trans (Nat.mul_le_mul_left 52 (Nat.pow_le_pow_right (by decide) few)) ?_
      decide +kernel
    rw [unitsOfInfiniteEq reached, Nat.cast_mul, ← mul_assoc]
    exact mul_le_mul_of_nonneg_right (by exact_mod_cast fits) unitsOfOnePositive.le
  have under := mul_le_mul_of_nonneg_right small unitsOfOnePositive.le
  linarith

/-- Half of a power of ten with 309 places is not. -/
theorem infiniteOfAbove (nearest : NearestTo value number) (many : 309 ≤ places)
    (large : 10 ^ places ≤ 2 * value) : infiniteRank ≤ number.rank := by
  by_contra finite
  have inside := Nat.lt_of_not_le finite
  refine notFiniteAndInfinite (nearest.finite inside) inside ?_
  have low : lowEnd infiniteRank < unitsOfRank infiniteRank := lowEndLt (by decide)
  have beyond : 2 * (unitsOfRank infiniteRank : ℚ) ≤ 10 ^ places * unitsOfOne := by
    obtain ⟨top, reached⟩ : ∃ top, top = 1024 := ⟨_, rfl⟩
    have fits : 2 * 2 ^ top ≤ 10 ^ places := by
      subst reached
      refine Nat.le_trans ?_ (Nat.pow_le_pow_right (by decide) many)
      decide +kernel
    rw [unitsOfInfiniteEq reached, Nat.cast_mul, ← mul_assoc]
    exact mul_le_mul_of_nonneg_right (by exact_mod_cast fits) unitsOfOnePositive.le
  have grown := mul_le_mul_of_nonneg_right large unitsOfOnePositive.le
  linarith

theorem multiplyNearest (left right : Binary64) :
    NearestTo (left.units / unitsOfOne * (right.units / unitsOfOne)) (left.multiply right) := by
  have unit := unitsOfOnePositive
  refine ofRankNearest _ ?_
  have rounds := nearestRankRounds (left.units * right.units) (Nat.cast_pos.mp unit)
  have same : (left.units : ℚ) / unitsOfOne * (right.units / unitsOfOne) * unitsOfOne =
      (left.units * right.units : ℕ) / unitsOfOne := by
    push_cast
    field_simp
  rwa [same]

/-- The product of rounded numbers is near to that of what they are rounded from. -/
theorem factorsNear (rounded : IsRounded value left) (others : IsRounded other right) :
    10000 * (left.units / unitsOfOne * (right.units / unitsOfOne) : ℚ) ≤ 10201 * (value * other) ∧
      10000 * (value * other) ≤
        10201 * (left.units / unitsOfOne * (right.units / unitsOfOne) : ℚ) := by
  have near := rounded.isNear
  have otherNear := others.isNear
  have one := rounded.one
  have otherOne := others.one
  generalize (left.units / unitsOfOne : ℚ) = factor at near ⊢
  generalize (right.units / unitsOfOne : ℚ) = otherFactor at otherNear ⊢
  have positive : 0 ≤ factor := by linarith [near.below]
  have otherPositive : 0 ≤ otherFactor := by linarith [otherNear.below]
  have above := mul_le_mul near.above otherNear.above (by linarith) (by linarith)
  have below := mul_le_mul near.below otherNear.below (by linarith) (by linarith)
  constructor <;> linarith

theorem productFinite (rounded : IsRounded value left) (others : IsRounded other right)
    (few : places ≤ 308) (small : 4 * (value * other) ≤ 5 * 10 ^ places) :
    (left.multiply right).isFinite = true := by
  have above := (factorsNear rounded others).1
  have power : (0 : ℚ) < 10 ^ places := by positivity
  exact finiteIff.mpr (finiteOfBelow (multiplyNearest left right) few (by linarith))

theorem productInfinite (rounded : IsRounded value left) (others : IsRounded other right)
    (many : 309 ≤ places) (large : 4 * 10 ^ places ≤ 5 * (value * other)) :
    (left.multiply right).isFinite = false := by
  have below := (factorsNear rounded others).2
  have power : (0 : ℚ) < 10 ^ places := by positivity
  have infinite := infiniteOfAbove (multiplyNearest left right) many (by linarith)
  rw [← Bool.not_eq_true, finiteIff]
  exact Nat.not_lt.mpr infinite

end FleetPanel.Binary64
