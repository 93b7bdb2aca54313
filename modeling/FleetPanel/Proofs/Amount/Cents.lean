/-
This file shows that an amount of up to fifteen digits passes from its text to its cell without
losing a cent, although the number between them has only binary digits.
-/

import FleetPanel.Proofs.Amount.Dollars
import FleetPanel.Proofs.Amount.Longest
import FleetPanel.Table.Column
import FleetPanel.Table.Rows

namespace FleetPanel.Amount

open Text Numeral Scan

variable {text : List Char} {negative : Bool} {value : ℚ} {magnitude : Magnitude}

theorem notLeadingBlank {character : Char} (low : 0x20 < character.toNat)
    (high : character.toNat < 0x7F) : isLeadingBlank character = false := by
  have notMark : character ≠ '\uFEFF' := by
    rintro rfl
    exact absurd high (by decide)
  simp only [isLeadingBlank, isBlank, Bool.or_eq_false_iff, beq_eq_false_iff_ne,
    Bool.and_eq_false_iff, decide_eq_false_iff_not]
  refine ⟨?_, notMark⟩
  omega

/-- No numeral begins with a blank. -/
theorem Numeral.Spells.notBlank (spells : Spells text negative magnitude) :
    text.dropWhile isLeadingBlank = text := by
  have first : ∃ character more, text = character :: more ∧ 0x20 < character.toNat ∧
      character.toNat < 0x7F := by
    cases spells with
    | infinity signed => cases signed <;> exact ⟨_, _, rfl, by decide⟩
    | decimal signed digits _ =>
        cases signed with
        | plus => exact ⟨_, _, rfl, by decide⟩
        | minus => exact ⟨_, _, rfl, by decide⟩
        | none =>
            obtain ⟨character, more, rfl, isDigit | rfl⟩ := digits.first
            · obtain ⟨low, high⟩ := Char.isDigit_iff_toNat.mp isDigit
              change 48 ≤ character.toNat at low
              change character.toNat ≤ 57 at high
              exact ⟨character, _, rfl, by omega⟩
            · exact ⟨'.', _, rfl, by decide⟩
  obtain ⟨character, more, rfl, low, high⟩ := first
  exact List.dropWhile_cons_of_neg (by rw [notLeadingBlank low high]; decide)

/-- A text that is a numeral as a whole gives the number that it spells. -/
theorem ofTextOfNumeral (spells : Spells text negative (.finite value)) :
    (ofText (String.ofList text)).negative = negative ∧
      Binary64.NearestTo value (ofText (String.ofList text)) := by
  obtain ⟨finding, found, spec⟩ := findFound text
  have taken : ofText (String.ofList text) = finding.value := by
    refine ofTextFound _ ?_
    rwa [String.toList_ofList, spells.notBlank]
  have whole : ∀ {numeral : List Char}, IsLongest numeral text → numeral = text :=
    fun longest => longest.1.eq_of_length_le (longest.2 _ _ _ spells (List.prefix_refl text))
  cases spec with
  | nothing none => exact absurd (List.prefix_refl text) (none _ _ _ spells)
  | infinite others longest =>
      obtain rfl := whole longest
      cases (spells.unique others).2
  | literal others longest handed =>
      obtain rfl := whole longest
      obtain ⟨rfl, same⟩ := spells.unique others
      obtain rfl := Magnitude.finite.inj same
      obtain ⟨number, accepted, sign, nearest⟩ := handed.read
      rw [taken, Finding.value, accepted]
      exact ⟨sign, nearest⟩

/-- An amount as it is written: the dollars without superfluous zeros, a point and two digits. -/
def centsText (negative : Bool) (cents : Nat) : List Char :=
  (if negative then ['-'] else []) ++
    (Nat.toDigits 10 (cents / 100) ++ '.' :: padded 2 (cents % 100))

theorem centsSpell (negative : Bool) (cents : Nat) :
    Spells (centsText negative cents) negative (.finite (cents / 100)) := by
  have two := lengthPadded (show cents % 100 < 10 ^ 2 from Nat.mod_lt _ (by decide)) (by decide)
  have spells := Spells.decimal (signOfNegative negative)
    (.pointed (isDigitsToDigits (cents / 100)) (isDigitsPadded 2 (cents % 100))
      (.inl (unpaddedToDigits _).1)) .none
  have number : numberOf (Nat.toDigits 10 (cents / 100) ++ padded 2 (cents % 100)) = cents := by
    rw [numberOfAppend, two, numberOfToDigits, numberOfPadded]
    exact Nat.div_add_mod' cents 100
  have scale : (cents : ℚ) * 10 ^ ((0 : ℤ) - (2 : ℕ)) = cents / 100 := by
    norm_num [div_eq_mul_inv]
  rwa [number, two, scale, List.append_nil] at spells

variable {number : Binary64} {cents : Nat}

theorem finiteOfCents (few : cents < 10 ^ 15) (nearest : Binary64.NearestTo (cents / 100) number) :
    number.rank < Binary64.infiniteRank := by
  have fewCast : (cents : ℚ) < 10 ^ 15 := by exact_mod_cast few
  have nonneg : (0 : ℚ) ≤ cents := Nat.cast_nonneg cents
  exact Binary64.finiteOfNearest nearest (by linarith)

/-- The number nearest to some cents has them as its shortest decimal. -/
theorem shortestOfCents (tie : Binary64.Tie) (few : cents < 10 ^ 15)
    (nearest : Binary64.NearestTo (cents / 100) number) :
    (number.shortest tie).value = cents / 100 := by
  have rounds := nearest.finite (finiteOfCents few nearest)
  have hundredth : (cents : ℚ) * 10 ^ (-2 : ℤ) = cents / 100 := by
    norm_num [div_eq_mul_inv]
  rcases Nat.eq_zero_or_pos cents with rfl | positive
  · rw [Nat.cast_zero, zero_div, zero_mul] at rounds
    have self := Binary64.roundsToSelf 0
    rw [Binary64.unitsZero, Nat.cast_zero] at self
    rw [Binary64.shortestZero tie (rounds.unique self), Decimal.value]
    norm_num
  · have place : Binary64.gridUnits (-2) cents = cents / 100 * Binary64.unitsOfOne := by
      rw [Binary64.gridUnits, hundredth]
    have large : (Binary64.fractions : ℚ) ≤ cents / 100 * Binary64.unitsOfOne := by
      have one : (1 : ℚ) ≤ cents := by exact_mod_cast positive
      have units : (2 : ℚ) ^ 60 ≤ Binary64.unitsOfOne := by
        exact_mod_cast Binary64.unitsOfOneLarge
      calc (Binary64.fractions : ℚ) ≤ 1 / 100 * 2 ^ 60 := by norm_num [Binary64.fractions]
        _ ≤ cents / 100 * Binary64.unitsOfOne := by gcongr
    have normal := Binary64.normalOfNearest rounds large
    rw [← place] at rounds
    rw [Binary64.shortestOfFewDigits tie few normal rounds, hundredth]

/-- The cell of a row with a text as its amount. -/
theorem cellOfText (text : String) :
    (Table.Column.amount.cell (Json.ofMembers [("amount", .string text)]).row).text =
      dollars (ofText text) := by
  have member : (Json.ofMembers [("amount", .string text)]).row "amount" = some (.string text) :=
    Json.memberInsertSame "amount" (.string text) []
  simp only [Table.Column.amount, Table.Cell.medium, Table.Cell.right, member, ofField]

/-- The cell of an amount in cents shows the digits that were written, in groups of three. -/
theorem centsKept (negative : Bool) {cents : Nat} (few : cents < 10 ^ 15) :
    (Table.Column.amount.cell
        (Json.ofMembers [("amount", .string (String.ofList (centsText negative cents)))]).row).text =
      String.ofList ((if negative then ['-'] else []) ++
        '$' :: groupThousands (Nat.toDigits 10 (cents / 100)) ++ '.' :: padded 2 (cents % 100)) ∧
      IsGrouped (groupThousands (Nat.toDigits 10 (cents / 100))) (Nat.toDigits 10 (cents / 100)) := by
  refine ⟨?_, isGroupedThousands (unpaddedToDigits _).1⟩
  obtain ⟨sign, nearest⟩ := ofTextOfNumeral (centsSpell negative cents)
  rw [cellOfText]
  generalize ofText (String.ofList (centsText negative cents)) = number at *
  have finite := Binary64.finiteIff.mpr (finiteOfCents few nearest)
  have shown := Binary64.shortestDenotes .up number
  rw [shortestOfCents .up few nearest] at shown
  obtain ⟨found, rounded, text⟩ := dollarsOfFinite finite shown
  have same : found = cents := by
    have whole : ⌊100 * ((cents : ℚ) / 100) + 1 / 2⌋ = cents := by
      rw [Int.floor_eq_iff]
      push_cast
      constructor <;> linarith
    exact_mod_cast rounded.trans whole
  rw [text, same, sign]
  rfl

theorem mostCentsKept :
    999999999999999 < 10 ^ 15 ∧
      (Table.Column.amount.cell
        (Json.ofMembers [("amount", .string "-9999999999999.99")]).row).text =
          "-$9,999,999,999,999.99" := by
  have few : 999999999999999 < 10 ^ 15 := by decide
  have written : String.ofList (centsText true 999999999999999) = "-9999999999999.99" := by decide
  have kept := (centsKept true few).1
  rw [written] at kept
  exact ⟨few, kept.trans (by decide)⟩

end FleetPanel.Amount
