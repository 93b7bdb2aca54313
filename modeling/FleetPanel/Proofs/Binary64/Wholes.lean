/-
This file shows that the whole numbers up to 2 ^ 53 are binary64 numbers, and that each of them is
its own shortest decimal.
-/

import FleetPanel.Proofs.Binary64.Crossover

namespace FleetPanel.Binary64

variable {whole : Nat} {number : Binary64}

/-- A whole number of at most 53 bits is the magnitude of a rank. Its neighbours are at most one
apart from it. -/
theorem rankOfWhole (positive : 0 < whole) (few : whole < 2 ^ 53) :
    ∃ rank, unitsOfRank rank = whole * unitsOfOne ∧ width rank ≤ unitsOfOne := by
  obtain ⟨bits, counted, units⟩ := unitsOfOneEq
  obtain ⟨length, shift, excess, sum, placed, least, most⟩ : ∃ length shift excess,
      length + shift = 52 ∧ shift + excess = bits ∧ 2 ^ length ≤ whole ∧
        whole < 2 ^ (length + 1) := by
    have short : whole.log2 < 53 := (Nat.log2_lt positive.ne').mpr few
    exact ⟨whole.log2, 52 - whole.log2, bits - (52 - whole.log2), by omega, by omega,
      Nat.log2_self_le positive.ne', Nat.lt_log2_self⟩
  have full : fractions ≤ whole * 2 ^ shift :=
    calc fractions = 2 ^ length * 2 ^ shift := by
          rw [← pow_add, sum]
          decide
      _ ≤ whole * 2 ^ shift := Nat.mul_le_mul_right _ least
  have below : whole * 2 ^ shift < 2 * fractions :=
    calc whole * 2 ^ shift < 2 ^ (length + 1) * 2 ^ shift :=
          Nat.mul_lt_mul_of_pos_right most (by positivity)
      _ = 2 * fractions := by
          rw [← pow_add, show length + 1 + shift = 53 by omega]
          decide
  have fits : Fits excess (whole * 2 ^ shift) := ⟨.inr full, below.le⟩
  refine ⟨fractions * excess + whole * 2 ^ shift, ?_, ?_⟩
  · rw [unitsOfFits fits, mul_assoc, ← pow_add, placed, units]
  · have narrow : width (fractions * excess + whole * 2 ^ shift) ≤ 2 ^ bits :=
      widthBelow (by omega) (by simp only [fractions] at *; omega)
    rw [units]
    exact_mod_cast narrow

/-- A number has one whole number at most that is closer than its neighbours. -/
theorem wholeOfNear {other : Nat} (exact : number.units = whole * unitsOfOne)
    (positive : 0 < number.rank) (narrow : width number.rank ≤ unitsOfOne)
    (reads : RoundsTo (other * unitsOfOne) number.rank) : other = whole := by
  have unit := unitsOfOnePositive
  have low := lowEndLt positive
  have high := ltHighEnd number.rank
  have above := reads.above
  have below := reads.below
  change number.units = _ at exact
  rw [show unitsOfRank number.rank = number.units from rfl, exact] at low high
  push_cast at low high
  unfold width at narrow
  have less : (other : ℚ) < whole + 1 := lt_of_mul_lt_mul_right (by linarith) unit.le
  have more : (whole : ℚ) < other + 1 := lt_of_mul_lt_mul_right (by linarith) unit.le
  have lessCast : other < whole + 1 := by exact_mod_cast less
  have moreCast : whole < other + 1 := by exact_mod_cast more
  omega

/-- The number 2 ^ 53 is shown with all its digits, although the next whole number reads back as it,
too. -/
theorem shortestOfGreatest (tie : Tie) (same : number.rank = fractions * 1076) :
    number.shortest tie = ⟨9007199254740992, 0⟩ := by
  have finite : fractions * 1076 ≤ infiniteRank := by decide
  have named : number.shortest tie = (ofRank false (fractions * 1076)).shortest tie := by
    simp only [shortest, units, isZero, same, rankOfRank false finite]
  rw [named]
  cases tie <;> decide +kernel

/-- A whole number of at most 2 ^ 53 is the shortest decimal of the number that it is read as. -/
theorem shortestOfWhole (tie : Tie) (few : whole ≤ 2 ^ 53)
    (rounds : RoundsTo (whole * unitsOfOne) number.rank) :
    (number.shortest tie).value = whole := by
  rcases Nat.eq_zero_or_pos whole with rfl | positive
  · have self := roundsToSelf 0
    rw [unitsZero] at self
    rw [Nat.cast_zero, zero_mul, ← Nat.cast_zero] at rounds
    rw [shortestZero tie (rounds.unique self), Decimal.value]
    norm_num
  rcases Nat.lt_or_eq_of_le few with inside | rfl
  · obtain ⟨rank, exact, narrow⟩ := rankOfWhole positive inside
    have self := roundsToSelf rank
    rw [exact, Nat.cast_mul] at self
    obtain rfl : number.rank = rank := rounds.unique self
    have large : (unitsOfOne : ℚ) ≤ number.units := by
      have grown := Nat.le_mul_of_pos_left unitsOfOne positive
      rw [← exact] at grown
      exact_mod_cast grown
    have filled : 0 < number.rank := by
      refine Nat.pos_of_ne_zero fun zero => ?_
      rw [units, zero, unitsZero, Nat.cast_zero] at large
      exact absurd unitsOfOnePositive large.not_gt
    have leading := leadingBeforePoint large
    obtain ⟨count, counted⟩ : ∃ count : Nat, leadingExponent number.units - count = 0 :=
      ⟨(leadingExponent number.units).toNat, by omega⟩
    have reads : RoundsTo (gridUnits (leadingExponent number.units - count) whole) number.rank := by
      rwa [counted, gridUnits, zpow_zero, mul_one]
    obtain ⟨other, value⟩ := shortestOnGrid tie filled reads
    rw [counted, zpow_zero, mul_one] at value
    have again := shortestRounds tie number
    rw [value] at again
    rw [value, wholeOfNear exact filled narrow again]
  · have same : number.rank = fractions * 1076 := by
      obtain ⟨bits, counted, units⟩ := unitsOfOneEq
      have self := roundsToSelf (fractions * (bits + 1 + 1))
      rw [unitsOfPower, show 52 + (bits + 1) = 53 + bits by omega, pow_add, ← units,
        Nat.cast_mul] at self
      rw [rounds.unique self, counted]
    rw [shortestOfGreatest tie same, Decimal.value]
    norm_num

end FleetPanel.Binary64
