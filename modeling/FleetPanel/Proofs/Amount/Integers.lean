/-
This file shows that a whole amount is the same number and has the same cell whether it is written
as a number or as a text, also where neither can hold all of its digits.
-/

import FleetPanel.Proofs.Amount.Cents
import FleetPanel.Proofs.Binary64.Product
import FleetPanel.Proofs.Binary64.Wholes
import FleetPanel.Proofs.Json.Compact

namespace FleetPanel.Amount

open Text Numeral

variable {value : Int} {number : Binary64}

theorem integerSpells (value : Int) :
    Spells (Json.integerText value) (decide (value < 0)) (.finite value.natAbs) := by
  have spells := Spells.decimal (signOfNegative (decide (value < 0)))
    (.plain (isDigitsToDigits value.natAbs) (unpaddedToDigits value.natAbs).1) .none
  have sign : (if decide (value < 0) = true then ['-'] else []) =
      if value < 0 then ['-'] else [] := by simp only [decide_eq_true_eq]
  rw [sign, List.append_nil, numberOfToDigits, List.length_nil, Nat.cast_zero,
    sub_zero, zpow_zero, mul_one] at spells
  exact spells

/-- An integer is rounded once. -/
theorem ofIntNearest (value : Int) :
    (Binary64.ofInt value).negative = decide (value < 0) ∧
      Binary64.NearestTo value.natAbs (Binary64.ofInt value) :=
  ⟨Binary64.ofRankNegative _ _, Binary64.ofWholeNearest _ _⟩

/-- The digits of an integer are read as the number that the integer is rounded to. -/
theorem ofTextOfInteger (value : Int) :
    ofText (String.ofList (Json.integerText value)) = Binary64.ofInt value := by
  obtain ⟨sign, nearest⟩ := ofIntNearest value
  obtain ⟨textSign, textNearest⟩ := ofTextOfNumeral (integerSpells value)
  exact textNearest.unique nearest (textSign.trans sign.symm)

/-- The dollars of a whole number up to 2 ^ 53 are its digits in groups, without cents. -/
theorem dollarsOfWhole {whole : Nat} (few : whole ≤ 2 ^ 53)
    (nearest : Binary64.NearestTo whole number) :
    dollars number = String.ofList (signText number.negative ++
      '$' :: groupThousands (Nat.toDigits 10 whole) ++ ".00".toList) := by
  have inside : number.rank < Binary64.infiniteRank := by
    have cast : (whole : ℚ) ≤ 2 ^ 53 := by exact_mod_cast few
    exact Binary64.finiteOfBelow nearest (show 16 ≤ 308 by decide) (by linarith)
  have shown := Binary64.shortestDenotes .up number
  rw [Binary64.shortestOfWhole .up few (nearest.finite inside)] at shown
  obtain ⟨cents, rounded, text⟩ := dollarsOfFinite (Binary64.finiteIff.mpr inside) shown
  obtain rfl : cents = 100 * whole := by
    have hundredfold : ⌊100 * (whole : ℚ) + 1 / 2⌋ = (100 * whole : ℕ) := by
      rw [Int.floor_eq_iff]
      push_cast
      constructor <;> linarith
    exact_mod_cast rounded.trans hundredfold
  rw [text, Nat.mul_div_cancel_left whole (by decide), Nat.mul_mod_right]
  rfl

theorem ofFieldNumber {field : Json} (known : Json.number? field = some number) :
    ofField (some field) = number := by
  cases field with
  | string text => simp [Json.number?] at known
  | _ =>
      rw [ofField, known, Option.getD_some]
      exact fun _ same => Json.noConfusion same

theorem ofFieldInteger (value : Int) :
    ofField (some (.integer value)) = Binary64.ofInt value :=
  ofFieldNumber (by rw [Json.number?])

theorem ofFieldText (text : String) : ofField (some (.string text)) = ofText text := by
  rw [ofField]

variable {row : Row}

theorem cellOfAmount {field : Json} (amount : row "amount" = some field) :
    Table.Column.amount.cell row = (Table.Cell.right (dollars (ofField (some field)))).medium := by
  simp only [Table.Column.amount, amount]

/-- A whole amount that is written as a number is the same number as the one that is written as a
text: the nearest one to the integer, a tie going to the even neighbour. Rows with the two have the
same cell of the amount. Up to 2 ^ 53 the cell shows all digits of the integer, in groups of
three. -/
theorem integersAreTexts (fits : Json.FitsInteger value) :
    let text := String.ofList (Json.integerText value)
    let number := ofField (some (.integer value))
    let digits := Nat.toDigits 10 value.natAbs
    Json.ofText text = .ok (.integer value) ∧
      ofField (some (.string text)) = number ∧
      number.negative = decide (value < 0) ∧ Binary64.NearestTo value.natAbs number ∧
      IsGrouped (groupThousands digits) digits ∧
      ∀ row textRow : Row,
        row "amount" = some (.integer value) → textRow "amount" = some (.string text) →
          Table.Column.amount.cell textRow = Table.Column.amount.cell row ∧
          (value.natAbs ≤ 2 ^ 53 →
            (Table.Column.amount.cell row).text = String.ofList
              ((if value < 0 then ['-'] else []) ++ '$' :: groupThousands digits ++
                ".00".toList)) := by
  intro text number digits
  obtain ⟨sign, nearest⟩ := ofIntNearest value
  rw [← ofFieldInteger] at sign nearest
  have same : ofField (some (.string text)) = number := by
    rw [ofFieldText, ofTextOfInteger, ← ofFieldInteger]
  have read := Json.readCompact (.integer Json.deepest fits)
  rw [Json.compact, Json.characters] at read
  have grouped := isGroupedThousands (unpaddedToDigits value.natAbs).1
  refine ⟨read, same, sign, nearest, grouped, ?_⟩
  intro row textRow amount textAmount
  rw [cellOfAmount amount, cellOfAmount textAmount, same]
  refine ⟨rfl, fun few => ?_⟩
  have shown := dollarsOfWhole few nearest
  simp only [sign, signText, decide_eq_true_eq] at shown
  simp only [Table.Cell.medium, Table.Cell.right]
  exact shown

/-- The greatest integer of 64 bits is rounded up to a power of two in both rows. Minus 2 ^ 53 is
shown with all its digits. -/
theorem extremeIntegersAgree :
    let row (amount : Json) : Row := (Json.ofMembers [("amount", amount)]).row
    Json.FitsInteger 18446744073709551615 ∧ Json.FitsInteger (-9007199254740992) ∧
      Table.Column.amount.cell (row (.string "18446744073709551615")) =
        Table.Column.amount.cell (row (.integer 18446744073709551615)) ∧
      (Table.Column.amount.cell (row (.integer (-9007199254740992)))).text =
        "-$9,007,199,254,740,992.00" := by
  intro row
  have amountOf (amount : Json) : row amount "amount" = some amount :=
    Json.memberInsertSame "amount" amount []
  have fits : Json.FitsInteger 18446744073709551615 := ⟨by decide, by decide⟩
  have otherFits : Json.FitsInteger (-9007199254740992) := ⟨by decide, by decide⟩
  have written : String.ofList (Json.integerText 18446744073709551615) =
      "18446744073709551615" := by decide
  obtain ⟨-, -, -, -, -, cells⟩ := integersAreTexts fits
  obtain ⟨-, -, -, -, -, otherCells⟩ := integersAreTexts otherFits
  rw [written] at cells
  have same := (cells (row _) (row _) (amountOf _) (amountOf _)).1
  have text := (otherCells (row _) (row _) (amountOf _) (amountOf _)).2 (by decide)
  exact ⟨fits, otherFits, same, text.trans (by decide)⟩

end FleetPanel.Amount
