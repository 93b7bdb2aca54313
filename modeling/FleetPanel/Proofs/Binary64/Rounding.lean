/-
This file shows that reading a ratio or a decimal gives the nearest number, a tie going to the even
significand, and that there is only one such number.
-/

import FleetPanel.Proofs.Binary64.Magnitude
import FleetPanel.Proofs.Decimal.Plain

namespace FleetPanel.Binary64

/-- A ratio of units rounds to a rank: it lies between the middles to both neighbours, and it is a
middle only if the rank is even. -/
structure RoundsTo (value : ℚ) (rank : Nat) : Prop where
  above : lowEnd rank ≤ value
  below : value ≤ highEnd rank
  even : value = lowEnd rank ∨ value = highEnd rank → rank % 2 = 0

variable {value lower upper : ℚ} {rank other : Nat}

/-- What lies between two ratios that round to a rank rounds to it. -/
theorem RoundsTo.between {middle : ℚ} (rounds : RoundsTo lower rank) (others : RoundsTo upper rank)
    (least : lower ≤ middle) (most : middle ≤ upper) : RoundsTo middle rank where
  above := rounds.above.trans least
  below := most.trans others.below
  even := by
    rintro (low | high)
    · exact rounds.even (.inl (le_antisymm (least.trans low.le) rounds.above))
    · exact others.even (.inr (le_antisymm others.below (high.ge.trans most)))

theorem roundsToSelf (rank : Nat) : RoundsTo (unitsOfRank rank) rank := by
  have high := ltHighEnd rank
  rcases Nat.eq_zero_or_pos rank with rfl | positive
  · refine ⟨by rw [lowEndZero, unitsZero, Nat.cast_zero], high.le, fun _ => rfl⟩
  · have low := lowEndLt positive
    exact ⟨low.le, high.le, fun tie => tie.elim (fun same => absurd same low.ne')
      fun same => absurd same high.ne⟩

theorem highEndStrictMono : StrictMono highEnd := by
  refine strictMono_nat_of_lt_succ fun rank => ?_
  have low := lowEndLt (Nat.succ_pos rank)
  rw [lowEndSucc] at low
  exact low.trans (ltHighEnd (rank + 1))

theorem lowEndMono {rank other : Nat} (ordered : rank ≤ other) : lowEnd rank ≤ lowEnd other := by
  have before : (unitsOfRank (rank - 1) : ℚ) ≤ unitsOfRank (other - 1) := by
    exact_mod_cast unitsStrictMono.monotone (Nat.sub_le_sub_right ordered 1)
  have same : (unitsOfRank rank : ℚ) ≤ unitsOfRank other := by
    exact_mod_cast unitsStrictMono.monotone ordered
  unfold lowEnd
  linarith

theorem notRoundsToBoth (rounds : RoundsTo value rank) (others : RoundsTo value other)
    (less : rank < other) : False := by
  obtain ⟨before, rfl⟩ := Nat.exists_eq_succ_of_ne_zero (Nat.ne_zero_of_lt less)
  have least : highEnd before ≤ value := others.above
  rcases Nat.lt_or_eq_of_le (Nat.le_of_lt_succ less) with apart | rfl
  · exact absurd (least.trans rounds.below) (highEndStrictMono apart).not_ge
  · -- Neighbours share the middle, and one of them is odd.
    have tie : value = highEnd rank := le_antisymm rounds.below least
    have even := rounds.even (.inr tie)
    have evenOther := others.even (.inl tie)
    omega

/-- A ratio rounds to one rank only. -/
theorem RoundsTo.unique (rounds : RoundsTo value rank) (others : RoundsTo value other) :
    rank = other := by
  rcases Nat.lt_trichotomy rank other with less | same | greater
  · exact (notRoundsToBoth rounds others less).elim
  · exact same
  · exact (notRoundsToBoth others rounds greater).elim

/-- A whole number is nearest to a ratio, and even if another one is as near. -/
structure IsNearest (value : ℚ) (whole : Nat) : Prop where
  above : (whole : ℚ) - 1 / 2 ≤ value
  below : value ≤ whole + 1 / 2
  even : value = whole - 1 / 2 ∨ value = whole + 1 / 2 → whole % 2 = 0

/-- A ratio is its quotient and a rest below one. -/
theorem ratioSplit (numerator : Nat) {denominator : Nat} (positive : 0 < denominator) :
    ∃ rest : ℚ, (numerator : ℚ) / denominator = (numerator / denominator : ℕ) + rest ∧
      0 ≤ rest ∧ rest < 1 ∧
      (2 * (numerator % denominator) < denominator ↔ rest < 1 / 2) ∧
      (denominator < 2 * (numerator % denominator) ↔ 1 / 2 < rest) := by
  have positiveCast : (0 : ℚ) < denominator := by exact_mod_cast positive
  refine ⟨(numerator % denominator : ℕ) / denominator, ?_, by positivity, ?_, ?_, ?_⟩
  · rw [div_eq_iff positiveCast.ne', add_mul, div_mul_cancel₀ _ positiveCast.ne']
    exact_mod_cast (Nat.div_add_mod' numerator denominator).symm
  · rw [div_lt_one positiveCast]
    exact_mod_cast Nat.mod_lt numerator positive
  · rw [div_lt_div_iff₀ positiveCast two_pos, mul_comm, one_mul]
    exact_mod_cast Iff.rfl
  · rw [div_lt_div_iff₀ two_pos positiveCast, mul_comm _ (2 : ℚ), one_mul]
    exact_mod_cast Iff.rfl

theorem divideEvenNearest (numerator : Nat) {denominator : Nat} (positive : 0 < denominator) :
    IsNearest (numerator / denominator) (divideEven numerator denominator) := by
  obtain ⟨rest, split, nonneg, small, less, greater⟩ := ratioSplit numerator positive
  simp only [divideEven, split, less, greater]
  generalize numerator / denominator = quotient
  split_ifs with below above
  · exact ⟨by linarith, by linarith, fun tie => by rcases tie with tie | tie <;> linarith⟩
  · refine ⟨by push_cast; linarith, by push_cast; linarith, fun tie => ?_⟩
    push_cast at tie
    rcases tie with tie | tie <;> linarith
  · have half : rest = 1 / 2 := by linarith
    rcases Nat.mod_two_eq_zero_or_one quotient with even | odd
    · rw [even]
      exact ⟨by push_cast; linarith, by push_cast; linarith, fun _ => even⟩
    · rw [odd]
      exact ⟨by push_cast; linarith, by push_cast; linarith, fun _ => by omega⟩

variable {excess significand : Nat}

theorem fitsOfNearest (near : IsNearest value significand)
    (lower : excess = 0 ∨ fractions ≤ value) (upper : value < 2 * fractions) :
    Fits excess significand := by
  constructor
  · refine lower.imp_right fun lower => ?_
    by_contra short
    have short : (significand : ℚ) + 1 ≤ fractions := by exact_mod_cast Nat.lt_of_not_le short
    linarith [near.below]
  · by_contra long
    have long : (2 * fractions : ℚ) + 1 ≤ significand := by
      exact_mod_cast Nat.lt_of_not_le long
    linarith [near.above]

/-- What is nearest to a significand is not below the low end of its rank, and meets it only in a
tie. -/
theorem lowEndOfNearest (near : IsNearest value significand) (nonneg : 0 ≤ value)
    (lower : excess = 0 ∨ fractions ≤ value) (fits : Fits excess significand) :
    lowEnd (fractions * excess + significand) ≤ value * 2 ^ excess ∧
      (value * 2 ^ excess = lowEnd (fractions * excess + significand) → significand % 2 = 0) := by
  have scale : (0 : ℚ) < 2 ^ excess := by positivity
  rcases Nat.eq_zero_or_pos significand with rfl | positive
  · obtain rfl : excess = 0 := fits.normal.resolve_right (by decide)
    refine ⟨?_, fun _ => rfl⟩
    simpa [lowEnd, unitsZero] using nonneg
  · by_cases inner : excess = 0 ∨ fractions < significand
    · rw [lowEndOfFits fits positive inner, mul_le_mul_iff_left₀ scale,
        mul_left_inj' scale.ne']
      exact ⟨near.above, fun tie => near.even (.inl tie)⟩
    · obtain ⟨notZero, notInner⟩ := not_or.mp inner
      obtain rfl : significand = fractions :=
        le_antisymm (Nat.le_of_not_lt notInner) (fits.normal.resolve_left notZero)
      obtain ⟨before, rfl⟩ := Nat.exists_eq_succ_of_ne_zero notZero
      rw [lowEndOfLeast, mul_le_mul_iff_left₀ scale]
      have least : (fractions : ℚ) ≤ value := lower.resolve_left notZero
      exact ⟨(sub_le_self _ (by norm_num)).trans least, fun _ => by decide⟩

theorem highEndOfNearest (near : IsNearest value significand) (upper : value < 2 * fractions)
    (fits : Fits excess significand) :
    value * 2 ^ excess ≤ highEnd (fractions * excess + significand) ∧
      (value * 2 ^ excess = highEnd (fractions * excess + significand) → significand % 2 = 0) := by
  have scale : (0 : ℚ) < 2 ^ excess := by positivity
  rcases Nat.lt_or_eq_of_le fits.bounded with below | rfl
  · rw [highEndOfFits fits below, mul_le_mul_iff_left₀ scale, mul_left_inj' scale.ne']
    exact ⟨near.below, fun tie => near.even (.inr tie)⟩
  · have high := ltHighEnd (fractions * excess + 2 * fractions)
    rw [unitsOfFits fits] at high
    push_cast at high
    have under : value * 2 ^ excess < 2 * fractions * 2 ^ excess := by gcongr
    exact ⟨(under.trans high).le, fun tie => absurd tie (under.trans high).ne⟩

/-- Rounding to the significands of one excess is rounding to the ranks. -/
theorem roundsOfNearest (near : IsNearest value significand) (nonneg : 0 ≤ value)
    (lower : excess = 0 ∨ fractions ≤ value) (upper : value < 2 * fractions) :
    RoundsTo (value * 2 ^ excess) (fractions * excess + significand) := by
  have fits := fitsOfNearest near lower upper
  obtain ⟨low, lowTie⟩ := lowEndOfNearest near nonneg lower fits
  obtain ⟨high, highTie⟩ := highEndOfNearest near upper fits
  refine ⟨low, high, fun tie => ?_⟩
  have even : significand % 2 = 0 := tie.elim lowTie highTie
  simp only [fractions]
  omega

/-- The excess brings every number into reach of a significand. -/
theorem excessBitsSpec (units : Nat) :
    (excessBits units = 0 ∨ fractions * 2 ^ excessBits units ≤ units) ∧
      units < 2 * fractions * 2 ^ excessBits units := by
  unfold excessBits
  rcases Nat.eq_zero_or_pos units with rfl | positive
  · exact ⟨.inl (by decide), by decide⟩
  · constructor
    · refine or_iff_not_imp_left.mpr fun notZero => ?_
      calc fractions * 2 ^ (units.log2 - 52) = 2 ^ units.log2 := by
            rw [show fractions = 2 ^ 52 by decide, ← pow_add]
            congr 1
            omega
        _ ≤ units := Nat.log2_self_le positive.ne'
    · calc units < 2 ^ (units.log2 + 1) := Nat.lt_log2_self
        _ ≤ 2 ^ (53 + (units.log2 - 52)) := Nat.pow_le_pow_right (by decide) (by omega)
        _ = 2 * fractions * 2 ^ (units.log2 - 52) := by
            rw [pow_add, show 2 * fractions = 2 ^ 53 by decide]

/-- The rank of a ratio of units is the one that the ratio rounds to. -/
theorem nearestRankRounds (numerator : Nat) {denominator : Nat} (positive : 0 < denominator) :
    RoundsTo (numerator / denominator) (nearestRank numerator denominator) := by
  obtain ⟨least, most⟩ := excessBitsSpec (numerator / denominator)
  simp only [nearestRank, Nat.pow_eq]
  generalize excessBits (numerator / denominator) = excess at least most
  have scaled : 0 < denominator * 2 ^ excess := by positivity
  have near := divideEvenNearest numerator scaled
  have scaledCast : (0 : ℚ) < (denominator * 2 ^ excess : ℕ) := by exact_mod_cast scaled
  have value : (numerator : ℚ) / denominator =
      (numerator : ℚ) / (denominator * 2 ^ excess : ℕ) * 2 ^ excess := by
    push_cast
    field_simp
  rw [value]
  refine roundsOfNearest near (by positivity) (least.imp_right fun least => ?_) ?_
  · rw [le_div_iff₀ scaledCast]
    have multiplied := (Nat.le_div_iff_mul_le positive).mp least
    calc (fractions : ℚ) * (denominator * 2 ^ excess : ℕ) =
          (fractions * 2 ^ excess * denominator : ℕ) := by push_cast; ring
      _ ≤ numerator := by exact_mod_cast multiplied
  · rw [div_lt_iff₀ scaledCast]
    have multiplied := (Nat.div_lt_iff_lt_mul positive).mp most
    calc (numerator : ℚ) < (2 * fractions * 2 ^ excess * denominator : ℕ) := by
          exact_mod_cast multiplied
      _ = 2 * fractions * (denominator * 2 ^ excess : ℕ) := by push_cast; ring

/-- A number is nearest to a nonnegative rational: the rational rounds to its rank, or it is
infinite and the rational is not below the middle behind the greatest finite magnitude. -/
structure NearestTo (value : ℚ) (number : Binary64) : Prop where
  finite : number.rank < infiniteRank → RoundsTo (value * unitsOfOne) number.rank
  infinite : infiniteRank ≤ number.rank →
    number.rank = infiniteRank ∧ lowEnd infiniteRank ≤ value * unitsOfOne

theorem rankInjective {left right : Binary64} (sign : left.negative = right.negative)
    (same : left.rank = right.rank) : left = right := by
  obtain ⟨negative, ⟨exponent, _⟩, ⟨fraction, below⟩⟩ := left
  obtain ⟨otherNegative, ⟨otherExponent, _⟩, ⟨otherFraction, otherBelow⟩⟩ := right
  obtain rfl : negative = otherNegative := sign
  simp only [rank, fractions] at same below otherBelow
  obtain rfl : exponent = otherExponent := by omega
  obtain rfl : fraction = otherFraction := by omega
  rfl

theorem finiteIff {number : Binary64} : number.isFinite = true ↔ number.rank < infiniteRank := by
  have exponentLt := number.exponent.isLt
  have fractionLt := number.fraction.isLt
  have full : number.exponent = 2047 ↔ number.exponent.val = 2047 := Fin.ext_iff
  rw [isFinite, bne_iff_ne, Ne, full]
  simp only [rank, infiniteRank, fractions] at *
  omega

theorem notFiniteAndInfinite (rounds : RoundsTo value rank) (inside : rank < infiniteRank)
    (large : lowEnd infiniteRank ≤ value) : False := by
  have last : infiniteRank = (infiniteRank - 1) + 1 := by decide
  rw [last, lowEndSucc] at large
  have before : rank ≤ infiniteRank - 1 := Nat.le_pred_of_lt inside
  have tie : value = highEnd rank :=
    le_antisymm rounds.below ((highEndStrictMono.monotone before).trans large)
  have same : rank = infiniteRank - 1 := highEndStrictMono.injective
    (le_antisymm (highEndStrictMono.monotone before) (large.trans rounds.below))
  have even := rounds.even (.inr tie)
  rw [same] at even
  exact absurd even (by decide)

/-- With its sign, a number that is nearest is the only one. -/
theorem NearestTo.unique {left right : Binary64} (nearest : NearestTo value left)
    (others : NearestTo value right) (sign : left.negative = right.negative) : left = right := by
  refine rankInjective sign ?_
  rcases Nat.lt_or_ge left.rank infiniteRank with finite | infinite <;>
    rcases Nat.lt_or_ge right.rank infiniteRank with otherFinite | otherInfinite
  · exact (nearest.finite finite).unique (others.finite otherFinite)
  · exact (notFiniteAndInfinite (nearest.finite finite) finite
      (others.infinite otherInfinite).2).elim
  · exact (notFiniteAndInfinite (others.finite otherFinite) otherFinite
      (nearest.infinite infinite).2).elim
  · exact (nearest.infinite infinite).1.trans (others.infinite otherInfinite).1.symm

theorem ofRankNegative (negative : Bool) (rank : Nat) :
    (ofRank negative rank).negative = negative := by
  unfold ofRank
  split <;> rfl

theorem rankInfinity (negative : Bool) : (infinity negative).rank = infiniteRank := by
  cases negative <;> rfl

theorem rankZero (negative : Bool) : (zero negative).rank = 0 := by
  cases negative <;> rfl

theorem ofRankNearest (negative : Bool) (rounds : RoundsTo (value * unitsOfOne) rank) :
    NearestTo value (ofRank negative rank) := by
  rcases Nat.lt_or_ge rank infiniteRank with inside | outside
  · have same := rankOfRank negative inside.le
    refine ⟨fun _ => ?_, fun beyond => ?_⟩
    · rwa [same]
    · exact absurd (same ▸ beyond) (Nat.not_le.mpr inside)
  · have infinite : ofRank negative rank = infinity negative := dif_neg (Nat.not_lt.mpr outside)
    rw [infinite]
    refine ⟨fun below => ?_, fun _ => ⟨rankInfinity negative, ?_⟩⟩
    · exact absurd (rankInfinity negative ▸ below) (Nat.lt_irrefl _)
    · exact (lowEndMono outside).trans rounds.above

theorem ofRatioNearest (negative : Bool) (numerator : Nat) {denominator : Nat}
    (positive : 0 < denominator) :
    NearestTo (numerator / denominator) (ofRatio negative numerator denominator) := by
  refine ofRankNearest negative ?_
  have rounds := nearestRankRounds (numerator * unitsOfOne) positive
  rwa [Nat.cast_mul, mul_div_right_comm] at rounds

theorem ofWholeNearest (negative : Bool) (whole : Nat) :
    NearestTo whole (ofRatio negative whole 1) := by
  have nearest := ofRatioNearest negative whole Nat.one_pos
  rwa [Nat.cast_one, div_one] at nearest

/-- One is a power of two in units. The exponent is named to keep it from being evaluated. -/
theorem unitsOfOneEq : ∃ bits, bits = 1074 ∧ unitsOfOne = 2 ^ bits := by
  suffices named : ∀ bits, bits = 1074 → unitsOfOne = 2 ^ bits from ⟨1074, rfl, named 1074 rfl⟩
  intro bits same
  unfold unitsOfOne
  rw [← same, Nat.pow_eq]

theorem unitsOfOneLarge : 2 ^ 60 ≤ unitsOfOne := by
  obtain ⟨bits, counted, units⟩ := unitsOfOneEq
  rw [units]
  exact Nat.pow_le_pow_right (by decide) (by omega)

theorem unitsOfOnePositive : (0 : ℚ) < unitsOfOne := by
  obtain ⟨bits, _, units⟩ := unitsOfOneEq
  rw [units]
  positivity

/-- Ninety-three bits are fewer than twenty-eight digits. -/
theorem twoPowLe (count : Nat) {bits digits total places : Nat} (rest : 2 ^ bits ≤ 10 ^ digits)
    (few : total ≤ 93 * count + bits) (many : 28 * count + digits ≤ places) :
    2 ^ total ≤ 10 ^ places :=
  calc 2 ^ total ≤ 2 ^ (93 * count + bits) := Nat.pow_le_pow_right (by decide) few
    _ = (2 ^ 93) ^ count * 2 ^ bits := by rw [pow_add, pow_mul]
    _ ≤ (10 ^ 28) ^ count * 10 ^ digits :=
        Nat.mul_le_mul (Nat.pow_le_pow_left (by norm_num) count) rest
    _ = 10 ^ (28 * count + digits) := by rw [pow_add, pow_mul]
    _ ≤ 10 ^ places := Nat.pow_le_pow_right (by decide) many

/-- The infinite magnitude stands where the next power of two would be. -/
theorem unitsOfInfiniteEq {top : Nat} (reached : top = 1024) :
    unitsOfRank infiniteRank = 2 ^ top * unitsOfOne := by
  obtain ⟨bits, counted, units⟩ := unitsOfOneEq
  obtain ⟨excess, greatest⟩ : ∃ excess, excess = 2046 := ⟨_, rfl⟩
  have least : Fits excess fractions := ⟨.inr le_rfl, by decide⟩
  have same : infiniteRank = fractions * excess + fractions := by
    subst greatest
    decide
  have sum : 52 + excess = top + bits := by omega
  rw [same, unitsOfFits least, units, show fractions = 2 ^ 52 by decide, ← pow_add, sum, pow_add]

theorem unitsOfInfinite {places : Nat} (many : 309 ≤ places) :
    unitsOfRank infiniteRank ≤ 10 ^ places * unitsOfOne := by
  obtain ⟨top, reached⟩ : ∃ top, top = 1024 := ⟨_, rfl⟩
  rw [unitsOfInfiniteEq reached]
  exact Nat.mul_le_mul_right _
    (twoPowLe 11 (show 2 ^ 1 ≤ 10 ^ 1 by decide) (by omega) (by omega))

theorem infinityNearest (negative : Bool) (places : Nat) (many : 309 ≤ places)
    (large : 10 ^ places ≤ value) : NearestTo value (infinity negative) := by
  have low : lowEnd infiniteRank < unitsOfRank infiniteRank := lowEndLt (by decide)
  have beyond : (unitsOfRank infiniteRank : ℚ) ≤ 10 ^ places * unitsOfOne := by
    exact_mod_cast unitsOfInfinite many
  refine ⟨fun below => absurd (rankInfinity negative ▸ below) (Nat.lt_irrefl _), fun _ => ?_⟩
  exact ⟨rankInfinity negative, low.le.trans (beyond.trans
    (mul_le_mul_of_nonneg_right large unitsOfOnePositive.le))⟩

/-- What is far from the end of the finite numbers is near to a finite one. -/
theorem finiteOfNearest {number : Binary64} (nearest : NearestTo value number)
    (small : value < 10 ^ 15) : number.rank < infiniteRank := by
  by_contra infinite
  have large := (nearest.infinite (Nat.le_of_not_lt infinite)).2
  obtain ⟨top, reached⟩ : ∃ top, top = 1024 := ⟨_, rfl⟩
  have units := unitsOfInfiniteEq reached
  have wide : 2 * 10 ^ 15 ≤ 2 ^ top :=
    calc 2 * 10 ^ 15 ≤ 2 ^ 51 := by norm_num
      _ ≤ 2 ^ top := Nat.pow_le_pow_right (by decide) (by omega)
  have half : (10 : ℚ) ^ 15 * unitsOfOne ≤ lowEnd infiniteRank := by
    have cast : (2 * 10 ^ 15 : ℚ) * unitsOfOne ≤ unitsOfRank infiniteRank := by
      rw [units]
      exact_mod_cast Nat.mul_le_mul_right unitsOfOne wide
    have before : (0 : ℚ) ≤ unitsOfRank (infiniteRank - 1) := Nat.cast_nonneg _
    unfold lowEnd
    linarith
  have under := mul_lt_mul_of_pos_right small unitsOfOnePositive
  linarith

theorem normalOfNearest (rounds : RoundsTo value rank) (large : fractions ≤ value) :
    fractions ≤ rank := by
  by_contra short
  have next : rank + 1 ≤ fractions := Nat.lt_of_not_le short
  have high := lowEndLt (Nat.succ_pos rank)
  have fits : Fits 0 (rank + 1) := ⟨.inl rfl, next.trans (by decide)⟩
  have units := unitsOfFits fits
  rw [Nat.mul_zero, Nat.zero_add, pow_zero, Nat.mul_one] at units
  rw [lowEndSucc, units] at high
  have most : ((rank + 1 : ℕ) : ℚ) ≤ fractions := Nat.cast_le.mpr next
  exact absurd (large.trans rounds.below) (high.trans_le most).not_ge

theorem unitsOfHalf {places : Nat} (many : 324 ≤ places) : 2 * unitsOfOne ≤ 10 ^ places := by
  obtain ⟨bits, counted, units⟩ := unitsOfOneEq
  rw [units, ← pow_succ']
  exact twoPowLe 11 (show 2 ^ 52 ≤ 10 ^ 16 by decide) (by omega) (by omega)

theorem zeroNearest (negative : Bool) (places : Nat) (many : 324 ≤ places) (nonneg : 0 ≤ value)
    (small : value * 10 ^ places ≤ 1) : NearestTo value (zero negative) := by
  have half : (2 * unitsOfOne : ℚ) ≤ 10 ^ places := by exact_mod_cast unitsOfHalf many
  have scaled : value * (2 * unitsOfOne) ≤ 1 :=
    (mul_le_mul_of_nonneg_left half nonneg).trans small
  have high : highEnd 0 = 1 / 2 := by norm_num [highEnd, unitsOfRank]
  refine ⟨fun _ => ?_, fun beyond => absurd (rankZero negative ▸ beyond) (by decide)⟩
  rw [rankZero]
  refine ⟨?_, ?_, fun _ => rfl⟩
  · rw [lowEndZero]
    exact mul_nonneg nonneg unitsOfOnePositive.le
  · rw [high]
    linarith

/-- A number lies between the powers of ten that its digits count. -/
theorem lengthToDigitsSpec {number : Nat} (positive : number ≠ 0) :
    10 ^ ((Nat.toDigits 10 number).length - 1) ≤ number ∧
      number < 10 ^ (Nat.toDigits 10 number).length := by
  have least := Text.leastOfUnpadded (Text.isDigitsToDigits number) (Text.unpaddedToDigits number)
  have most := Text.numberOfLt (Text.isDigitsToDigits number)
  rw [Text.numberOfToDigits] at least most
  refine ⟨?_, most⟩
  rcases least with single | least
  · rw [single]
    exact Nat.one_le_iff_ne_zero.mpr positive
  · exact least

/-- A decimal lies between the powers of ten that its digits and its exponent count. -/
theorem decimalBounds {coefficient : Nat} (positive : coefficient ≠ 0) (exponent : Int) :
    (10 : ℚ) ^ (exponent + (Nat.toDigits 10 coefficient).length - 1) ≤ coefficient * 10 ^ exponent ∧
      coefficient * 10 ^ exponent <
        (10 : ℚ) ^ (exponent + (Nat.toDigits 10 coefficient).length) := by
  have ten : (10 : ℚ) ≠ 0 := by norm_num
  have power : (0 : ℚ) < 10 ^ exponent := zpow_pos (by norm_num) _
  obtain ⟨least, most⟩ := lengthToDigitsSpec positive
  have filled := Nat.length_toDigits_pos (b := 10) (n := coefficient)
  generalize (Nat.toDigits 10 coefficient).length = length at *
  obtain ⟨before, rfl⟩ := Nat.exists_eq_add_one_of_ne_zero filled.ne'
  have under : (10 : ℚ) ^ before ≤ coefficient := by exact_mod_cast least
  have above : (coefficient : ℚ) < 10 ^ (before + 1) := by exact_mod_cast most
  constructor
  · calc (10 : ℚ) ^ (exponent + (before + 1 : ℕ) - 1) = 10 ^ before * 10 ^ exponent := by
          rw [← zpow_natCast, ← zpow_add₀ ten]
          congr 1
          omega
      _ ≤ coefficient * 10 ^ exponent := mul_le_mul_of_nonneg_right under power.le
  · calc (coefficient : ℚ) * 10 ^ exponent < 10 ^ (before + 1) * 10 ^ exponent :=
          mul_lt_mul_of_pos_right above power
      _ = 10 ^ (exponent + (before + 1 : ℕ)) := by
          rw [← zpow_natCast, ← zpow_add₀ ten, add_comm]

/-- A decimal is read as the number nearest to it. -/
theorem ofDecimalNearest (negative : Bool) (coefficient : Nat) (exponent : Int) :
    NearestTo (coefficient * 10 ^ exponent) (ofDecimal negative coefficient exponent) := by
  simp only [ofDecimal, Nat.pow_eq]
  split_ifs with none large small broken
  · rw [none, Nat.cast_zero, zero_mul]
    exact zeroNearest negative 324 le_rfl le_rfl (by rw [zero_mul]; exact zero_le_one)
  · have least := (decimalBounds none exponent).1
    obtain ⟨places, counted⟩ := Int.eq_ofNat_of_zero_le
      (show 0 ≤ exponent + (Nat.toDigits 10 coefficient).length - 1 by omega)
    rw [counted, zpow_natCast] at least
    exact infinityNearest negative places (by omega) least
  · have most := (decimalBounds none exponent).2
    obtain ⟨places, counted⟩ := Int.eq_ofNat_of_zero_le
      (show 0 ≤ -(exponent + (Nat.toDigits 10 coefficient).length) by omega)
    have nonneg : (0 : ℚ) ≤ coefficient * 10 ^ exponent :=
      mul_nonneg (Nat.cast_nonneg _) (zpow_nonneg (by norm_num) _)
    refine zeroNearest negative places (by omega) nonneg ?_
    have scale : (0 : ℚ) < 10 ^ places := by positivity
    rw [← neg_neg (exponent + _), counted, zpow_neg, zpow_natCast] at most
    calc (coefficient : ℚ) * 10 ^ exponent * 10 ^ places ≤ (10 ^ places)⁻¹ * 10 ^ places :=
          mul_le_mul_of_nonneg_right most.le scale.le
      _ = 1 := inv_mul_cancel₀ scale.ne'
  · have rounds := ofRatioNearest negative coefficient
      (show 0 < 10 ^ exponent.natAbs by positivity)
    have value : (coefficient : ℚ) * 10 ^ exponent =
        coefficient / (10 ^ exponent.natAbs : ℕ) := by
      rw [div_eq_mul_inv, Nat.cast_pow, ← zpow_natCast, ← zpow_neg]
      congr 2
      omega
    rw [value]
    exact rounds
  · have rounds := ofRatioNearest negative (coefficient * 10 ^ exponent.toNat)
      (show 0 < 1 by decide)
    have value : (coefficient : ℚ) * 10 ^ exponent =
        (coefficient * 10 ^ exponent.toNat : ℕ) / (1 : ℕ) := by
      rw [Nat.cast_one, div_one, Nat.cast_mul, Nat.cast_pow, ← zpow_natCast]
      congr 2
      omega
    rw [value]
    exact rounds

theorem ofDecimalNegative (negative : Bool) (coefficient : Nat) (exponent : Int) :
    (ofDecimal negative coefficient exponent).negative = negative := by
  simp only [ofDecimal]
  split_ifs
  · rfl
  · rfl
  · rfl
  · exact ofRankNegative _ _
  · exact ofRankNegative _ _

end FleetPanel.Binary64
