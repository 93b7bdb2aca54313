/-
This file shows when a grid of decimals has a point that rounds to a number: the points next to the
magnitude tell, and a grid with steps finer than the distance of the neighbours always has one.
-/

import FleetPanel.Binary64.Shortest
import FleetPanel.Proofs.Binary64.Rounding

namespace FleetPanel.Binary64

variable {rank point : Nat} {exponent : Int} {tie : Tie} {value : ℚ}

theorem roundsToIff : RoundsTo value rank ↔
    if rank % 2 = 0 then lowEnd rank ≤ value ∧ value ≤ highEnd rank
    else lowEnd rank < value ∧ value < highEnd rank := by
  split
  · case isTrue even => exact ⟨fun rounds => ⟨rounds.above, rounds.below⟩,
      fun ⟨above, below⟩ => ⟨above, below, fun _ => even⟩⟩
  · case isFalse odd =>
      refine ⟨fun rounds => ⟨lt_of_le_of_ne rounds.above fun same => ?_,
        lt_of_le_of_ne rounds.below fun same => ?_⟩, fun ⟨above, below⟩ =>
        ⟨above.le, below.le, fun tied => ?_⟩⟩
      · exact odd (rounds.even (.inl same.symm))
      · exact odd (rounds.even (.inr same))
      · exact tied.elim (fun same => absurd same above.ne') fun same => absurd same below.ne

/-- What lies strictly between the ends rounds to the rank. -/
theorem roundsOfInside (above : lowEnd rank < value) (below : value < highEnd rank) :
    RoundsTo value rank :=
  ⟨above.le, below.le, fun tied =>
    tied.elim (fun same => absurd same above.ne') fun same => absurd same below.ne⟩

/-- The point of a grid in units. -/
def gridUnits (exponent : Int) (point : Nat) : ℚ :=
  point * 10 ^ exponent * unitsOfOne

theorem tenSplit (exponent : Int) :
    (10 : ℚ) ^ exponent = 10 ^ exponent.toNat / 10 ^ (-exponent).toNat := by
  rw [← zpow_natCast, ← zpow_natCast, ← zpow_sub₀ (by norm_num)]
  congr 1
  omega

theorem gridUnitsMono {lower upper : Nat} (ordered : lower ≤ upper) :
    gridUnits exponent lower ≤ gridUnits exponent upper := by
  have scale : (0 : ℚ) < 10 ^ exponent := zpow_pos (by norm_num) _
  have cast : (lower : ℚ) ≤ upper := by exact_mod_cast ordered
  exact mul_le_mul_of_nonneg_right (mul_le_mul_of_nonneg_right cast scale.le)
    unitsOfOnePositive.le

/-- The comparisons of a grid point with ratios of units, free of fractions. -/
theorem gridUnitsCompare (exponent : Int) (point units : Nat) :
    (units * 10 ^ (-exponent).toNat ≤ 2 * point * (unitsOfOne * 10 ^ exponent.toNat) ↔
        (units : ℚ) / 2 ≤ gridUnits exponent point) ∧
      (2 * point * (unitsOfOne * 10 ^ exponent.toNat) ≤ units * 10 ^ (-exponent).toNat ↔
        gridUnits exponent point ≤ (units : ℚ) / 2) := by
  have scale : (0 : ℚ) < 10 ^ (-exponent).toNat := by positivity
  have grid : gridUnits exponent point =
      point * 10 ^ exponent.toNat * unitsOfOne / 10 ^ (-exponent).toNat := by
    rw [gridUnits, tenSplit]
    ring
  constructor
  · rw [grid, div_le_div_iff₀ two_pos scale, ← Nat.cast_le (α := ℚ)]
    push_cast
    constructor <;> intro ordered <;> linarith
  · rw [grid, div_le_div_iff₀ scale two_pos, ← Nat.cast_le (α := ℚ)]
    push_cast
    constructor <;> intro ordered <;> linarith

theorem readsBackIff : readsBack rank exponent point = true ↔
    RoundsTo (gridUnits exponent point) rank := by
  have low := gridUnitsCompare exponent point (unitsOfRank (rank - 1) + unitsOfRank rank)
  have high := gridUnitsCompare exponent point (unitsOfRank rank + unitsOfRank (rank + 1))
  rw [Nat.cast_add] at low high
  rw [roundsToIff]
  simp only [readsBack, Nat.pow_eq]
  split
  · simp only [Bool.and_eq_true, decide_eq_true_eq]
    exact and_congr low.1 high.2
  · simp only [Bool.and_eq_true, decide_eq_true_eq, ← not_le]
    exact and_congr (not_congr low.2) (not_congr high.1)

/-- The quotient that a search begins with is the last point that is not above the magnitude. -/
theorem lowerPoint (exponent : Int) (units : Nat) :
    let lower := units * 10 ^ (-exponent).toNat / (unitsOfOne * 10 ^ exponent.toNat)
    gridUnits exponent lower ≤ units ∧ (units : ℚ) < gridUnits exponent (lower + 1) := by
  intro lower
  have positive : 0 < unitsOfOne * 10 ^ exponent.toNat := by
    have one : 0 < unitsOfOne := by exact_mod_cast unitsOfOnePositive
    positivity
  have under : lower * (unitsOfOne * 10 ^ exponent.toNat) ≤ units * 10 ^ (-exponent).toNat :=
    Nat.div_mul_le_self _ _
  have beyond : units * 10 ^ (-exponent).toNat < (lower + 1) * (unitsOfOne * 10 ^ exponent.toNat) :=
    (Nat.div_lt_iff_lt_mul positive).mp (Nat.lt_succ_self lower)
  have compareLower := (gridUnitsCompare exponent lower (2 * units)).2
  have compareUpper := (gridUnitsCompare exponent (lower + 1) (2 * units)).1
  rw [Nat.cast_mul, Nat.cast_ofNat, mul_div_cancel_left₀ _ two_ne_zero] at compareLower compareUpper
  constructor
  · exact compareLower.mp (by rw [mul_assoc, mul_assoc]; exact Nat.mul_le_mul_left 2 under)
  · refine lt_of_not_ge fun high => ?_
    have reversed := (gridUnitsCompare exponent (lower + 1) (2 * units)).2.mpr (by
      rwa [Nat.cast_mul, Nat.cast_ofNat, mul_div_cancel_left₀ _ two_ne_zero])
    rw [mul_assoc, mul_assoc] at reversed
    exact absurd (Nat.le_of_mul_le_mul_left reversed two_pos) (Nat.not_le.mpr beyond)

/-- A point that a grid offers rounds to the rank, and the point before it is not above the
magnitude. -/
theorem gridPointSpec (found : gridPoint? tie rank exponent = some point) :
    RoundsTo (gridUnits exponent point) rank ∧
      gridUnits exponent (point - 1) ≤ (unitsOfRank rank : ℚ) := by
  obtain ⟨under, -⟩ := lowerPoint exponent (unitsOfRank rank)
  simp only [gridPoint?, Nat.pow_eq] at found under
  generalize unitsOfRank rank * 10 ^ (-exponent).toNat / (unitsOfOne * 10 ^ exponent.toNat) = lower
    at found under
  have beforeLower : gridUnits exponent (lower - 1) ≤ unitsOfRank rank :=
    (gridUnitsMono (Nat.sub_le lower 1)).trans under
  split at found
  · case h_1 lowerReads upperReads =>
      obtain rfl := Option.some.inj found
      split
      · exact ⟨readsBackIff.mp lowerReads, beforeLower⟩
      · exact ⟨readsBackIff.mp upperReads, under⟩
  · case h_2 lowerReads _ =>
      obtain rfl := Option.some.inj found
      exact ⟨readsBackIff.mp lowerReads, beforeLower⟩
  · case h_3 _ upperReads =>
      obtain rfl := Option.some.inj found
      exact ⟨readsBackIff.mp upperReads, under⟩
  · cases found

/-- A grid with a point that rounds to the rank has one next to the magnitude. -/
theorem gridPointFound (rounds : RoundsTo (gridUnits exponent point) rank) :
    (gridPoint? tie rank exponent).isSome := by
  obtain ⟨under, beyond⟩ := lowerPoint exponent (unitsOfRank rank)
  unfold gridPoint?
  simp only [Nat.pow_eq] at under beyond ⊢
  generalize unitsOfRank rank * 10 ^ (-exponent).toNat / (unitsOfOne * 10 ^ exponent.toNat) = lower
    at under beyond ⊢
  have reads : readsBack rank exponent lower = true ∨
      readsBack rank exponent (lower + 1) = true := by
    rcases Nat.lt_or_ge lower point with above | below
    · have upper := (roundsToSelf rank).between rounds beyond.le (gridUnitsMono above)
      exact .inr (readsBackIff.mpr upper)
    · have lower := rounds.between (roundsToSelf rank) (gridUnitsMono below) under
      exact .inl (readsBackIff.mpr lower)
  split
  · rfl
  · rfl
  · rfl
  · case h_4 lowerFails upperFails =>
      rw [lowerFails, upperFails] at reads
      exact absurd reads (by decide)

/-- The distance between the middles around a magnitude. -/
def width (rank : Nat) : ℚ :=
  highEnd rank - lowEnd rank

/-- The middles lie one step of the excess apart, or three quarters of it around its least
significand. -/
theorem widthCases (positive : 0 < rank) :
    ∃ excess significand, significand < 2 * fractions ∧ (excess = 0 ∨ fractions ≤ significand) ∧
      rank = fractions * excess + significand ∧ unitsOfRank rank = significand * 2 ^ excess ∧
      (width rank = 2 ^ excess ∨ significand = fractions ∧ width rank = 3 / 4 * 2 ^ excess) := by
  obtain ⟨excess, significand, fits, below, rfl⟩ := fitsOfRank rank
  refine ⟨excess, significand, below, fits.normal, rfl, unitsOfFits fits, ?_⟩
  unfold width
  by_cases inner : excess = 0 ∨ fractions < significand
  · have filled : 0 < significand := by
      rcases inner with rfl | inner <;> simp only [fractions] at * <;> omega
    left
    rw [highEndOfFits fits below, lowEndOfFits fits filled inner]
    ring
  · obtain ⟨notZero, notInner⟩ := not_or.mp inner
    obtain rfl : significand = fractions :=
      le_antisymm (Nat.le_of_not_lt notInner) (fits.normal.resolve_left notZero)
    obtain ⟨before, rfl⟩ := Nat.exists_eq_add_one_of_ne_zero notZero
    right
    rw [highEndOfFits fits below, lowEndOfLeast]
    exact ⟨rfl, by ring⟩

/-- Seventeen digits are fine enough for every magnitude. -/
theorem unitsLtWidth (positive : 0 < rank) : (unitsOfRank rank : ℚ) < 10 ^ 16 * width rank := by
  obtain ⟨excess, significand, below, -, -, units, apart⟩ := widthCases positive
  have scale : (0 : ℚ) < 2 ^ excess := by positivity
  have bounded : (significand : ℚ) < 2 * fractions := by exact_mod_cast below
  have most : (2 * fractions : ℚ) < 10 ^ 16 := by norm_num [fractions]
  rw [units]
  push_cast
  rcases apart with same | ⟨rfl, least⟩
  · rw [same]
    exact mul_lt_mul_of_pos_right (bounded.trans most) scale
  · rw [least, ← mul_assoc]
    exact mul_lt_mul_of_pos_right (by norm_num [fractions]) scale

/-- The width is at most the part of a normal magnitude that belongs to its last bit. -/
theorem widthLe (normal : fractions ≤ rank) : width rank * fractions ≤ unitsOfRank rank := by
  obtain ⟨excess, significand, -, long, same, units, apart⟩ :=
    widthCases (Nat.lt_of_lt_of_le (by decide) normal)
  have full : fractions ≤ significand := by
    rcases long with rfl | full
    · omega
    · exact full
  have scale : (0 : ℚ) < 2 ^ excess := by positivity
  have least : width rank ≤ 2 ^ excess := by
    rcases apart with exact | ⟨-, quarter⟩ <;> linarith
  rw [units]
  push_cast
  calc width rank * fractions ≤ 2 ^ excess * significand := by
        have cast : (fractions : ℚ) ≤ significand := by exact_mod_cast full
        exact mul_le_mul least cast (by positivity) scale.le
    _ = significand * 2 ^ excess := mul_comm _ _

/-- Steps finer than the width do not leave out the reals around a magnitude. -/
theorem fineGridFound (positive : 0 < rank) (fine : 10 ^ exponent * unitsOfOne < width rank) :
    (gridPoint? tie rank exponent).isSome := by
  obtain ⟨under, beyond⟩ := lowerPoint exponent (unitsOfRank rank)
  have low := lowEndLt positive
  have high := ltHighEnd rank
  generalize unitsOfRank rank * 10 ^ (-exponent).toNat / (unitsOfOne * 10 ^ exponent.toNat) = lower
    at under beyond
  have step : gridUnits exponent (lower + 1) =
      gridUnits exponent lower + 10 ^ exponent * unitsOfOne := by
    simp only [gridUnits]
    push_cast
    ring
  unfold width at fine
  rcases lt_or_ge (lowEnd rank) (gridUnits exponent lower) with inside | outside
  · exact gridPointFound (roundsOfInside inside (under.trans_lt high))
  · exact gridPointFound (roundsOfInside (low.trans beyond) (by linarith))

/-- The leading exponent is that of the greatest power of ten that is not above the magnitude. -/
theorem leadingExponentSpec {units : Nat} (positive : 0 < units) :
    10 ^ leadingExponent units * unitsOfOne ≤ (units : ℚ) ∧
      (units : ℚ) < 10 ^ (leadingExponent units + 1) * unitsOfOne := by
  obtain ⟨places, counted⟩ : ∃ places, places = 324 := ⟨_, rfl⟩
  have one : 0 < unitsOfOne := by exact_mod_cast unitsOfOnePositive
  have quotient : units * 10 ^ places / unitsOfOne ≠ 0 := by
    have half := unitsOfHalf counted.ge
    have grows : 10 ^ places ≤ units * 10 ^ places := Nat.le_mul_of_pos_left _ positive
    exact (Nat.div_pos (by omega) one).ne'
  have leading : leadingExponent units =
      (Nat.toDigits 10 (units * 10 ^ places / unitsOfOne)).length - (places + 1 : ℕ) := by
    unfold leadingExponent
    rw [← counted, Nat.pow_eq]
    omega
  obtain ⟨least, most⟩ := lengthToDigitsSpec quotient
  have filled := Nat.length_toDigits_pos (b := 10) (n := units * 10 ^ places / unitsOfOne)
  generalize (Nat.toDigits 10 (units * 10 ^ places / unitsOfOne)).length = length at *
  obtain ⟨before, rfl⟩ := Nat.exists_eq_succ_of_ne_zero filled.ne'
  have under : (10 : ℚ) ^ before * unitsOfOne ≤ units * 10 ^ places := by
    exact_mod_cast (Nat.le_div_iff_mul_le one).mp least
  have beyond : (units : ℚ) * 10 ^ places < 10 ^ (before + 1) * unitsOfOne := by
    exact_mod_cast (Nat.div_lt_iff_lt_mul one).mp most
  have scale : (0 : ℚ) < 10 ^ places := by positivity
  have ten : (10 : ℚ) ≠ 0 := by norm_num
  have power : (10 : ℚ) ^ leadingExponent units = 10 ^ before / 10 ^ places := by
    rw [leading, ← zpow_natCast, ← zpow_natCast, ← zpow_sub₀ ten]
    congr 1
    omega
  rw [zpow_add₀ ten, power, zpow_one]
  constructor
  · rw [div_mul_eq_mul_div, div_le_iff₀ scale]
    exact under
  · rw [div_mul_eq_mul_div, div_mul_eq_mul_div, lt_div_iff₀ scale, ← pow_succ]
    exact beyond

end FleetPanel.Binary64
