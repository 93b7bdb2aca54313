/-
This file shows what the shortest decimal of a number is: it rounds to the number, and no decimal of
fewer digits does. A decimal of at most fifteen digits is the shortest one of the number that it is
read as.
-/

import FleetPanel.Proofs.Binary64.Grid

namespace FleetPanel.Binary64

variable {rank point : Nat} {exponent : Int} {tie : Tie}

/-- Zeros at the end move into the exponent without a change of the value. -/
theorem trimSpec (count : Nat) (decimal : Decimal) :
    (decimal.trim count).value = decimal.value ∧
      ((decimal.trim count).coefficient = 0 ↔ decimal.coefficient = 0) := by
  induction count generalizing decimal with
  | zero => exact ⟨rfl, Iff.rfl⟩
  | succ count inductionHypothesis =>
      unfold Decimal.trim
      split
      · case isTrue ends =>
          simp only [Bool.and_eq_true, bne_iff_ne, beq_iff_eq] at ends
          obtain ⟨nonzero, ends⟩ := ends
          obtain ⟨sameValue, sameZero⟩ :=
            inductionHypothesis ⟨decimal.coefficient / 10, decimal.exponent + 1⟩
          have tenth : ((decimal.coefficient / 10 : ℕ) : ℚ) * 10 = decimal.coefficient := by
            exact_mod_cast Nat.div_mul_cancel (Nat.dvd_of_mod_eq_zero ends)
          rw [sameValue, sameZero]
          refine ⟨?_, by change decimal.coefficient / 10 = 0 ↔ _; omega⟩
          rw [Decimal.value, Decimal.value, zpow_add₀ (by norm_num), zpow_one, ← tenth]
          ring
      · exact ⟨rfl, Iff.rfl⟩

theorem trimLe (count : Nat) (decimal : Decimal) :
    (decimal.trim count).coefficient ≤ decimal.coefficient := by
  induction count generalizing decimal with
  | zero => exact le_rfl
  | succ count inductionHypothesis =>
      unfold Decimal.trim
      split
      · exact (inductionHypothesis _).trans (Nat.div_le_self _ _)
      · exact le_rfl

/-- The power of ten behind the points of some digits loses its zeros. -/
theorem trimLt (count : Nat) {digits : Nat} {decimal : Decimal}
    (most : decimal.coefficient ≤ 10 ^ (digits + 1)) :
    (decimal.trim (count + 1)).coefficient < 10 ^ (digits + 1) := by
  have grows : 10 ^ (digits + 1) = 10 * 10 ^ digits := pow_succ' 10 digits
  have positive : 0 < 10 ^ digits := by positivity
  unfold Decimal.trim
  split
  · have tenth := trimLe count ⟨decimal.coefficient / 10, decimal.exponent + 1⟩
    change _ ≤ decimal.coefficient / 10 at tenth
    omega
  · case isFalse ends =>
      simp only [Bool.and_eq_true, bne_iff_ne, beq_iff_eq] at ends
      omega

/-- The first grid of a search comes with the failure of all grids before it. -/
theorem firstOfRange {α : Type} {search : Nat → Option α} {bound : Nat} {found : α}
    (first : (List.range bound).findSome? search = some found) :
    ∃ count < bound, search count = some found ∧ ∀ before < count, search before = none := by
  obtain ⟨earlier, count, later, split, here, nowhere⟩ := List.findSome?_eq_some_iff.mp first
  have ordered := List.pairwise_lt_range (n := bound)
  rw [split, List.pairwise_append, List.pairwise_cons] at ordered
  obtain ⟨-, ⟨behind, -⟩, -⟩ := ordered
  have inside : count < bound := List.mem_range.mp (by simp [split])
  refine ⟨count, inside, here, fun before less => nowhere before ?_⟩
  have listed : before ∈ earlier ++ count :: later := by
    rw [← split]
    exact List.mem_range.mpr (less.trans inside)
  rcases List.mem_append.mp listed with before | other
  · exact before
  · rcases List.mem_cons.mp other with same | after
    · exact absurd same less.ne
    · exact absurd (behind before after) less.asymm

theorem pointPositive (positive : 0 < rank) (rounds : RoundsTo (gridUnits exponent point) rank) :
    point ≠ 0 := by
  rintro rfl
  have zero : gridUnits exponent 0 = 0 := by rw [gridUnits, Nat.cast_zero, zero_mul, zero_mul]
  have low : 0 < lowEnd rank := by
    have units : (0 : ℚ) < unitsOfRank rank := by exact_mod_cast unitsPositive positive
    unfold lowEnd
    positivity
  exact absurd (low.trans_le (rounds.above.trans zero.le)) (lt_irrefl 0)

variable {number : Binary64}

theorem leadingBounds (positive : 0 < number.rank) :
    10 ^ leadingExponent number.units * unitsOfOne ≤ (number.units : ℚ) ∧
      (number.units : ℚ) < 10 ^ (leadingExponent number.units + 1) * unitsOfOne :=
  leadingExponentSpec (unitsPositive positive)

theorem seventeenDigitsFound (tie : Tie) (positive : 0 < number.rank) :
    (gridPoint? tie number.rank (leadingExponent number.units - (16 : ℕ))).isSome := by
  have least := (leadingBounds positive).1
  generalize leadingExponent number.units = leading at *
  have few : (number.units : ℚ) < 10 ^ 16 * width number.rank := unitsLtWidth positive
  have split : (10 : ℚ) ^ leading = 10 ^ 16 * 10 ^ (leading - (16 : ℕ)) := by
    rw [← zpow_natCast, ← zpow_add₀ (by norm_num)]
    congr 1
    omega
  rw [split, mul_assoc] at least
  exact fineGridFound positive (lt_of_mul_lt_mul_left (least.trans_lt few) (by positivity))

/-- The points next to a magnitude have no more digits than the grid, but for the power of ten
behind them. -/
theorem pointBounded {leading : Int} {count units : Nat}
    (most : (units : ℚ) < 10 ^ (leading + 1) * unitsOfOne)
    (before : gridUnits (leading - count) (point - 1) ≤ units) : point ≤ 10 ^ (count + 1) := by
  refine Nat.le_of_pred_lt ?_
  have scale : (0 : ℚ) < 10 ^ (leading - count) := zpow_pos (by norm_num) _
  have split : (10 : ℚ) ^ (leading + 1) = 10 ^ (count + 1) * 10 ^ (leading - count) := by
    rw [← zpow_natCast, ← zpow_add₀ (by norm_num)]
    congr 1
    push_cast
    ring
  rw [split] at most
  have less := lt_of_mul_lt_mul_right (before.trans_lt most) unitsOfOnePositive.le
  exact_mod_cast lt_of_mul_lt_mul_right less scale.le

/-- The shortest decimal of a number is this point of the grid that lies `count` places below the
leading digit, and no grid before has a point that reads back. -/
structure IsFirstPoint (tie : Tie) (number : Binary64) (count point : Nat) : Prop where
  few : count < 17
  value : (number.shortest tie).value = point * 10 ^ (leadingExponent number.units - count)
  nonzero : (number.shortest tie).coefficient ≠ 0
  short : (number.shortest tie).coefficient < 10 ^ (count + 1)
  rounds : RoundsTo (gridUnits (leadingExponent number.units - count) point) number.rank
  first : ∀ before other : Nat, before < count →
    ¬RoundsTo (gridUnits (leadingExponent number.units - before) other) number.rank

/-- The search finds a point for every positive number. -/
theorem firstPointFound (tie : Tie) (positive : 0 < number.rank) :
    ∃ count point, IsFirstPoint tie number count point := by
  have most := (leadingBounds positive).2
  have last := seventeenDigitsFound tie positive
  obtain ⟨leading, same⟩ : ∃ leading, leading = leadingExponent number.units := ⟨_, rfl⟩
  rw [← same] at most last
  have search : ∃ found, (List.range 17).findSome? (fun (count : Nat) =>
      (gridPoint? tie number.rank (leading - count)).map fun point =>
        Decimal.mk point (leading - count)) = some found := by
    refine Option.isSome_iff_exists.mp (List.findSome?_isSome_iff.mpr ⟨16, by decide, ?_⟩)
    rw [Option.isSome_map]
    exact last
  obtain ⟨found, first⟩ := search
  obtain ⟨count, few, here, nowhere⟩ := firstOfRange first
  obtain ⟨point, grid, rfl⟩ := Option.map_eq_some_iff.mp here
  obtain ⟨rounds, before⟩ := gridPointSpec grid
  have nonzero : number.isZero = false := by
    simpa [isZero] using positive.ne'
  have shortest : number.shortest tie = Decimal.trim 17 ⟨point, leading - count⟩ := by
    simp only [Binary64.shortest, ← same, nonzero, first, Option.getD_some]
    rfl
  obtain ⟨sameValue, sameZero⟩ := trimSpec 17 ⟨point, leading - count⟩
  have short : (Decimal.trim 17 ⟨point, leading - count⟩).coefficient < 10 ^ (count + 1) :=
    trimLt 16 (pointBounded most before)
  rw [← shortest] at sameValue sameZero short
  refine ⟨count, point, few, same ▸ sameValue, sameZero.not.mpr (pointPositive positive rounds),
    short, same ▸ rounds, fun before other less reads => ?_⟩
  have missing := Option.map_eq_none_iff.mp (nowhere before less)
  rw [← same] at reads
  exact absurd (gridPointFound reads) (by rw [missing]; decide)

theorem shortestZero (tie : Tie) (zero : number.rank = 0) : number.shortest tie = ⟨0, 0⟩ := by
  have isZero : number.isZero = true := by simpa [Binary64.isZero] using zero
  simp only [shortest, isZero, if_true]

/-- The shortest decimal reads back. -/
theorem shortestRounds (tie : Tie) (number : Binary64) :
    RoundsTo ((number.shortest tie).value * unitsOfOne) number.rank := by
  rcases Nat.eq_zero_or_pos number.rank with zero | positive
  · have units := roundsToSelf 0
    rw [unitsZero] at units
    rw [shortestZero tie zero, zero, Decimal.value, zpow_zero, mul_one]
    change RoundsTo ((0 : ℕ) * _) 0
    rwa [Nat.cast_zero, zero_mul, ← Nat.cast_zero (R := ℚ)]
  · obtain ⟨count, point, found⟩ := firstPointFound tie positive
    rw [found.value]
    exact found.rounds

theorem shortestDenotes (tie : Tie) (number : Binary64) :
    Text.Denotes (number.shortest tie).plain (number.shortest tie).value := by
  refine Decimal.plainDenotes ?_
  rcases Nat.eq_zero_or_pos number.rank with zero | positive
  · right
    rw [shortestZero tie zero]
  · obtain ⟨count, point, found⟩ := firstPointFound tie positive
    exact .inl found.nonzero

/-- No decimal that reads back has fewer digits. -/
theorem shortestFewest (tie : Tie) {number : Binary64} {other : Decimal}
    (reads : RoundsTo (other.value * unitsOfOne) number.rank) :
    (number.shortest tie).digits.length ≤ other.digits.length := by
  have filled : 0 < other.digits.length := Nat.length_toDigits_pos
  rcases Nat.eq_zero_or_pos number.rank with zero | positive
  · rw [shortestZero tie zero]
    exact filled
  · obtain ⟨count, point, found⟩ := firstPointFound tie positive
    have short := found.short
    have first := found.first
    have least := (leadingBounds positive).1
    have most : other.coefficient < 10 ^ other.digits.length := by
      rw [← other.numberOfDigits]
      exact Text.numberOfLt other.isDigitsDigits
    have few : (number.shortest tie).digits.length ≤ count + 1 :=
      (Nat.length_toDigits_le_iff (by decide) (Nat.succ_pos count)).mpr short
    generalize leadingExponent number.units = leading at *
    generalize other.digits.length = length at *
    obtain ⟨before, rfl⟩ := Nat.exists_eq_add_one_of_ne_zero filled.ne'
    by_contra fewer
    have ten : (10 : ℚ) ≠ 0 := by norm_num
    rcases lt_or_ge other.exponent (leading - before) with fine | coarse
    · -- All its digits stand below the leading one, so the power of ten is nearer.
      have under : other.value ≤ 10 ^ leading := by
        have cast : (other.coefficient : ℚ) ≤ 10 ^ (before + 1) := by exact_mod_cast most.le
        calc other.value ≤ 10 ^ (before + 1) * 10 ^ other.exponent :=
              mul_le_mul_of_nonneg_right cast (zpow_nonneg (by norm_num) _)
          _ = 10 ^ (((before + 1 : ℕ) : ℤ) + other.exponent) := by
              rw [← zpow_natCast, ← zpow_add₀ ten]
          _ ≤ 10 ^ leading := zpow_le_zpow_right₀ (by norm_num) (by push_cast; omega)
      have power : gridUnits (leading - before) (10 ^ before) = 10 ^ leading * unitsOfOne := by
        rw [gridUnits, Nat.cast_pow, Nat.cast_ofNat, ← zpow_natCast, ← zpow_add₀ ten,
          add_sub_cancel]
      refine first before (10 ^ before) (by omega) ?_
      rw [power]
      exact reads.between (roundsToSelf _)
        (mul_le_mul_of_nonneg_right under unitsOfOnePositive.le) least
    · obtain ⟨zeros, added⟩ := Int.le.dest coarse
      have same : gridUnits (leading - before) (other.coefficient * 10 ^ zeros) =
          other.value * unitsOfOne := by
        rw [gridUnits, Decimal.value, ← added, zpow_add₀ ten, zpow_natCast]
        push_cast
        ring
      exact first before _ (by omega) (same ▸ reads)

/-- A decimal reads back as a number, apart from the sign, and none that does has fewer digits. -/
structure IsShortest (decimal : Decimal) (number : Binary64) : Prop where
  reads : NearestTo decimal.value number
  fewest : ∀ other : Decimal, NearestTo other.value number →
    decimal.digits.length ≤ other.digits.length

theorem shortestIsShortest (tie : Tie) (finite : number.isFinite = true) :
    IsShortest (number.shortest tie) number where
  reads := ⟨fun _ => shortestRounds tie number,
    fun infinite => absurd (finiteIff.mp finite) infinite.not_gt⟩
  fewest := fun _ reads => shortestFewest tie (reads.finite (finiteIff.mp finite))

/-- A grid coarser than the width has one point at most that reads back, where the search ends. -/
theorem shortestOfCoarse (tie : Tie) {count : Nat} (positive : 0 < number.rank)
    (rounds : RoundsTo (gridUnits (leadingExponent number.units - count) point) number.rank)
    (coarse : width number.rank < 10 ^ (leadingExponent number.units - count) * unitsOfOne) :
    (number.shortest tie).value = point * 10 ^ (leadingExponent number.units - count) := by
  obtain ⟨found, other, firstPoint⟩ := firstPointFound tie positive
  have atMost : found ≤ count := by
    by_contra late
    exact firstPoint.first count point (Nat.lt_of_not_le late) rounds
  have foundRounds := firstPoint.rounds
  rw [firstPoint.value]
  clear firstPoint
  generalize leadingExponent number.units = leading at *
  -- The point that was found is a point of the given grid, too.
  have refined : (other : ℚ) * 10 ^ (leading - found) =
      (other * 10 ^ (count - found) : ℕ) * 10 ^ (leading - count) := by
    push_cast
    rw [mul_assoc, ← zpow_natCast, ← zpow_add₀ (by norm_num)]
    congr 2
    omega
  rw [gridUnits, refined] at foundRounds
  rw [refined]
  generalize other * 10 ^ (count - found) = candidate at *
  have step : (0 : ℚ) < 10 ^ (leading - count) * unitsOfOne :=
    mul_pos (zpow_pos (by norm_num) _) unitsOfOnePositive
  unfold width at coarse
  have near := rounds.above
  have nearHigh := rounds.below
  have foundNear := foundRounds.above
  have foundHigh := foundRounds.below
  rw [gridUnits] at near nearHigh
  rw [mul_assoc] at near nearHigh foundNear foundHigh
  rcases Nat.lt_trichotomy candidate point with less | same | greater
  · have apart : (candidate : ℚ) + 1 ≤ point := by exact_mod_cast less
    nlinarith
  · rw [same]
  · have apart : (point : ℚ) + 1 ≤ candidate := by exact_mod_cast greater
    nlinarith

/-- A decimal of at most fifteen digits that reads as a normal number is the shortest decimal of
that number. -/
theorem shortestOfFewDigits (tie : Tie) {coefficient : Nat} (few : coefficient < 10 ^ 15)
    (normal : fractions ≤ number.rank)
    (rounds : RoundsTo (gridUnits exponent coefficient) number.rank) :
    (number.shortest tie).value = coefficient * 10 ^ exponent := by
  have positive : 0 < number.rank := Nat.lt_of_lt_of_le (by decide) normal
  have last := widthLe normal
  have most := (leadingBounds positive).2
  change width number.rank * fractions ≤ number.units at last
  have ten : (10 : ℚ) ≠ 0 := by norm_num
  have fractionsCast : (fractions : ℚ) = 4503599627370496 := by norm_num [fractions]
  rw [fractionsCast] at last
  obtain ⟨leading, same⟩ : ∃ leading, leading = leadingExponent number.units := ⟨_, rfl⟩
  rw [← same] at most
  rcases le_total leading exponent with below | above
  · -- The decimal is a multiple of the leading power of ten.
    obtain ⟨zeros, added⟩ := Int.le.dest below
    have units : gridUnits (leading - (0 : ℕ)) (coefficient * 10 ^ zeros) =
        gridUnits exponent coefficient := by
      rw [gridUnits, gridUnits, ← added, zpow_add₀ ten, zpow_natCast, Nat.cast_zero, sub_zero]
      push_cast
      ring
    have step : (0 : ℚ) < 10 ^ leading * unitsOfOne :=
      mul_pos (zpow_pos (by norm_num) _) unitsOfOnePositive
    have coarse : width number.rank < 10 ^ (leading - (0 : ℕ)) * unitsOfOne := by
      rw [zpow_add₀ ten, zpow_one] at most
      rw [Nat.cast_zero, sub_zero]
      linarith
    rw [← units, same] at rounds
    rw [same] at coarse
    have found := shortestOfCoarse tie positive rounds coarse
    rw [found, ← added, zpow_add₀ ten, zpow_natCast, Nat.cast_zero, sub_zero, ← same]
    push_cast
    ring
  · obtain ⟨count, added⟩ := Int.le.dest above
    have place : exponent = leading - count := by omega
    have step : (0 : ℚ) < 10 ^ exponent * unitsOfOne :=
      mul_pos (zpow_pos (by norm_num) _) unitsOfOnePositive
    -- A magnitude is at most twice what rounds to it.
    have twice : (number.units : ℚ) ≤ 2 * gridUnits exponent coefficient := by
      have low := rounds.above
      have before : (0 : ℚ) ≤ unitsOfRank (number.rank - 1) := Nat.cast_nonneg _
      change (number.units : ℚ) ≤ _
      unfold lowEnd at low
      change (_ + (number.units : ℚ)) / 2 ≤ _ at low
      linarith
    have coarse : width number.rank < 10 ^ exponent * unitsOfOne := by
      have cast : (coefficient : ℚ) < 10 ^ 15 := by exact_mod_cast few
      have under := mul_lt_mul_of_pos_right cast step
      rw [gridUnits, mul_assoc] at twice
      linarith
    rw [place, same] at rounds coarse ⊢
    exact shortestOfCoarse tie positive rounds coarse

end FleetPanel.Binary64
