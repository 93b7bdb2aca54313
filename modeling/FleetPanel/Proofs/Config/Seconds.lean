/-
This file says which texts are read as a number of seconds.
-/

import FleetPanel.Config.Seconds
import FleetPanel.Proofs.Text.Digits

namespace FleetPanel.Config

open Text

/-- A text spells a number of 64 bits: digits, of which there is at least one, behind an optional
plus sign. -/
structure SpellsSeconds (text : String) (seconds : Nat) : Prop where
  digits : ∃ digits, (text.toList = digits ∨ text.toList = '+' :: digits) ∧ digits ≠ [] ∧
    IsDigits digits ∧ numberOf digits = seconds
  fits : seconds < 2 ^ 64

variable {text : String} {digits : List Char} {sofar seconds : Nat}

/-- Digits continue the number before them, and no part of the number may be too large. -/
theorem readDigitsIff (fits : sofar < UInt64.size) : readDigits sofar digits = .ok seconds ↔
    IsDigits digits ∧ sofar * 10 ^ digits.length + numberOf digits = seconds ∧
      seconds < UInt64.size := by
  induction digits generalizing sofar with
  | nil =>
      simp only [readDigits, Except.ok.injEq, isDigitsNil, List.length_nil, pow_zero, mul_one,
        numberOfNil, add_zero, true_and]
      exact ⟨fun same => ⟨same, same ▸ fits⟩, And.left⟩
  | cons digit rest inductionHypothesis =>
      have continued : sofar * 10 ^ (digit :: rest).length + numberOf (digit :: rest) =
          (10 * sofar + digitValue digit) * 10 ^ rest.length + numberOf rest := by
        rw [numberOfCons, List.length_cons]
        ring
      have value : digit.toNat - '0'.toNat = digitValue digit := rfl
      rw [readDigits, continued, isDigitsCons, and_assoc, value]
      by_cases isDigit : digit.isDigit = true
      · by_cases small : 10 * sofar + digitValue digit < UInt64.size
        · simp only [isDigit, small, if_true, true_and]
          exact inductionHypothesis small
        · have grows : 10 * sofar + digitValue digit ≤
              (10 * sofar + digitValue digit) * 10 ^ rest.length :=
            Nat.le_mul_of_pos_right _ (by positivity)
          simp only [isDigit, small, if_true, if_false, reduceCtorEq, false_iff]
          omega
      · simp [isDigit]

/-- One plus sign may stand before the digits. -/
theorem readSecondsParts : readSeconds text = .ok seconds ↔ ∃ digits,
    (text.toList = digits ∨ text.toList = '+' :: digits) ∧ digits ≠ [] ∧
      readDigits 0 digits = .ok seconds := by
  have plusIsNone (rest : List Char) : readDigits 0 ('+' :: rest) ≠ .ok seconds := by
    simp [readDigits]
  unfold readSeconds
  split
  · case h_1 empty => simp [empty]
  · case h_2 plus => simp [plus, plusIsNone]
  · case h_3 digits notPlusAlone signed =>
    have filled : digits ≠ [] := notPlusAlone
    simp [signed, plusIsNone, filled]
  · case h_4 filled _ unsigned =>
    constructor
    · intro read
      exact ⟨_, .inl rfl, filled, read⟩
    · rintro ⟨digits, rfl | signed, -, read⟩
      · exact read
      · exact absurd signed (unsigned digits)

/-- A text is read as a number of seconds if it spells one. -/
theorem readSecondsIff : readSeconds text = .ok seconds ↔ SpellsSeconds text seconds := by
  have start : 0 < UInt64.size := by decide
  have size : UInt64.size = 2 ^ 64 := by decide
  simp only [readSecondsParts, readDigitsIff start, Nat.zero_mul, Nat.zero_add, size]
  constructor
  · rintro ⟨digits, written, filled, isDigits, number, fits⟩
    exact ⟨⟨digits, written, filled, isDigits, number⟩, fits⟩
  · rintro ⟨⟨digits, written, filled, isDigits, number⟩, fits⟩
    exact ⟨digits, written, filled, isDigits, number, fits⟩

theorem SpellsSeconds.unique {other : Nat} (spells : SpellsSeconds text seconds)
    (others : SpellsSeconds text other) : seconds = other :=
  Except.ok.inj ((readSecondsIff.mpr spells).symm.trans (readSecondsIff.mpr others))

/-- A text that spells no number of seconds is refused. -/
theorem readSecondsFails (spelled : ∀ seconds, ¬ SpellsSeconds text seconds) :
    ∃ fault, readSeconds text = .error fault := by
  cases read : readSeconds text with
  | ok seconds => exact absurd (readSecondsIff.mp read) (spelled seconds)
  | error fault => exact ⟨fault, rfl⟩

end FleetPanel.Config
