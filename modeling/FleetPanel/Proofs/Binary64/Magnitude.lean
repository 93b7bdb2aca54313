/-
This file places the magnitudes of all ranks. A rank is a significand and an excess of bits: the
magnitude is the significand times two to the excess, and the next rank has the next significand.
-/

import FleetPanel.Binary64.Nearest
import Mathlib.Algebra.Order.Field.Rat
import Mathlib.Data.Nat.Cast.Order.Field
import Mathlib.Order.Monotone.Basic
import Mathlib.Tactic.Linarith
import Mathlib.Tactic.Positivity
import Mathlib.Tactic.Ring

namespace FleetPanel.Binary64

/-- A significand that belongs to an excess: only without excess it may be short. The greatest one
stands for the least of the next excess. -/
structure Fits (excess significand : Nat) : Prop where
  normal : excess = 0 ∨ fractions ≤ significand
  bounded : significand ≤ 2 * fractions

variable {excess significand rank : Nat}

theorem unitsOfFits (fits : Fits excess significand) :
    unitsOfRank (fractions * excess + significand) = significand * 2 ^ excess := by
  obtain ⟨normal, bounded⟩ := fits
  by_cases short : significand < fractions
  · obtain rfl : excess = 0 := by omega
    simp [unitsOfRank, short]
  · have outside : ¬fractions * excess + significand < fractions := by omega
    rw [unitsOfRank, if_neg outside, Nat.pow_eq]
    by_cases greatest : significand = 2 * fractions
    · have quotient : (fractions * excess + significand) / fractions = excess + 2 := by
        simp only [fractions] at *
        omega
      have remainder : (fractions * excess + significand) % fractions = 0 := by
        simp only [fractions] at *
        omega
      rw [quotient, remainder, greatest, show excess + 2 - 1 = excess + 1 by omega, pow_succ]
      ring
    · have quotient : (fractions * excess + significand) / fractions = excess + 1 := by
        simp only [fractions] at *
        omega
      have remainder : (fractions * excess + significand) % fractions = significand - fractions := by
        simp only [fractions] at *
        omega
      rw [quotient, remainder, Nat.add_sub_cancel, Nat.add_sub_cancel' (Nat.le_of_not_lt short)]

/-- Every rank has an excess and a significand. -/
theorem fitsOfRank (rank : Nat) : ∃ excess significand, Fits excess significand ∧
    significand < 2 * fractions ∧ rank = fractions * excess + significand := by
  refine ⟨rank / fractions - 1, rank - fractions * (rank / fractions - 1), ⟨?_, ?_⟩, ?_, ?_⟩
  all_goals
    simp only [fractions]
    omega

theorem unitsSucc (fits : Fits excess significand) (below : significand < 2 * fractions) :
    unitsOfRank (fractions * excess + significand + 1) = (significand + 1) * 2 ^ excess :=
  unitsOfFits ⟨fits.normal.imp_right Nat.le_succ_of_le, below⟩

theorem unitsStrictMono : StrictMono unitsOfRank := by
  refine strictMono_nat_of_lt_succ fun rank => ?_
  obtain ⟨excess, significand, fits, below, rfl⟩ := fitsOfRank rank
  rw [unitsOfFits fits, unitsSucc fits below]
  exact Nat.mul_lt_mul_of_pos_right (Nat.lt_succ_self _) (by positivity)

theorem unitsZero : unitsOfRank 0 = 0 := by
  decide

theorem unitsPositive (positive : 0 < rank) : 0 < unitsOfRank rank := by
  have grows := unitsStrictMono positive
  rwa [unitsZero] at grows

/-- The middle between the magnitude of a rank and that of the rank before. -/
def lowEnd (rank : Nat) : ℚ :=
  (unitsOfRank (rank - 1) + unitsOfRank rank) / 2

/-- The middle between the magnitude of a rank and that of the rank behind. -/
def highEnd (rank : Nat) : ℚ :=
  (unitsOfRank rank + unitsOfRank (rank + 1)) / 2

theorem highEndOfFits (fits : Fits excess significand) (below : significand < 2 * fractions) :
    highEnd (fractions * excess + significand) = (significand + 1 / 2) * 2 ^ excess := by
  rw [highEnd, unitsOfFits fits, unitsSucc fits below]
  push_cast
  ring

theorem lowEndOfFits (fits : Fits excess significand) (positive : 0 < significand)
    (inner : excess = 0 ∨ fractions < significand) :
    lowEnd (fractions * excess + significand) = (significand - 1 / 2) * 2 ^ excess := by
  obtain ⟨before, rfl⟩ := Nat.exists_eq_succ_of_ne_zero positive.ne'
  have bounded := fits.bounded
  have fitsBefore : Fits excess before := ⟨inner.imp_right Nat.le_of_lt_succ, by omega⟩
  rw [lowEnd, unitsOfFits fits, Nat.add_succ_sub_one, unitsOfFits fitsBefore]
  push_cast
  ring

/-- Before the least significand of an excess the magnitudes lie closer. -/
theorem lowEndOfLeast (excess : Nat) :
    lowEnd (fractions * (excess + 1) + fractions) = (fractions - 1 / 4) * 2 ^ (excess + 1) := by
  have fitsBefore : Fits excess (2 * fractions - 1) := ⟨.inr (by decide), by decide⟩
  have fits : Fits (excess + 1) fractions := ⟨.inr le_rfl, by decide⟩
  have before : fractions * (excess + 1) + fractions - 1 =
      fractions * excess + (2 * fractions - 1) := by
    simp only [fractions]
    omega
  rw [lowEnd, unitsOfFits fits, before, unitsOfFits fitsBefore]
  push_cast
  ring

theorem lowEndLt (positive : 0 < rank) : lowEnd rank < unitsOfRank rank := by
  have grows := unitsStrictMono (Nat.sub_lt positive Nat.one_pos)
  rw [lowEnd, div_lt_iff₀ (by norm_num)]
  have : (unitsOfRank (rank - 1) : ℚ) < unitsOfRank rank := by exact_mod_cast grows
  linarith

theorem ltHighEnd (rank : Nat) : (unitsOfRank rank : ℚ) < highEnd rank := by
  have grows := unitsStrictMono (Nat.lt_succ_self rank)
  rw [highEnd, lt_div_iff₀ (by norm_num)]
  have : (unitsOfRank rank : ℚ) < unitsOfRank (rank + 1) := by exact_mod_cast grows
  linarith

theorem lowEndZero : lowEnd 0 = 0 := by
  simp [lowEnd, unitsZero]

theorem lowEndSucc (rank : Nat) : lowEnd (rank + 1) = highEnd rank :=
  rfl

end FleetPanel.Binary64
