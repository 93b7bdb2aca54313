/-
This file shows that the dollars of a number are its shortest decimal, rounded once to cents and
written in groups of three digits.
-/

import FleetPanel.Amount.Dollars
import FleetPanel.Proofs.Binary64.Shortest
import Mathlib.Data.Rat.Floor
import Mathlib.Tactic.IntervalCases

namespace FleetPanel.Amount

open Text

variable {digits whole fraction text : List Char}

theorem splitPointOfParts (isDigits : IsDigits whole) :
    splitPoint (whole ++ (if fraction = [] then [] else '.' :: fraction)) = (whole, fraction) := by
  have noPoint : ∀ digit ∈ whole, (digit != '.') = true := by
    intro digit inside
    refine bne_iff_ne.mpr fun point => ?_
    have isDigit := isDigits digit inside
    rw [point] at isDigit
    exact absurd isDigit (by decide)
  simp only [splitPoint, List.span_eq_takeWhile_dropWhile,
    List.takeWhile_append_of_pos noPoint, List.dropWhile_append_of_pos noPoint]
  split
  · case isTrue none =>
      rw [none]
      simp
  · simp

/-- A raised digit stands for the next number. -/
theorem nextDigit {digit : Char} (isDigit : digit.isDigit = true) (below : digit ≠ '9') :
    (Char.ofNat (digit.toNat + 1)).isDigit = true ∧
      digitValue (Char.ofNat (digit.toNat + 1)) = digitValue digit + 1 := by
  obtain ⟨bounded, code⟩ := digitValueSpec isDigit
  have notNine : digitValue digit ≠ 9 := fun nine => below (digitValueInjective isDigit rfl nine)
  rw [code]
  generalize digitValue digit = value at *
  interval_cases value <;> first | exact absurd rfl notNine | decide

/-- Raising keeps the length. With the carry as a digit in front the number is one greater. -/
theorem incrementSpec (isDigits : IsDigits digits) :
    IsDigits (increment digits).2 ∧ (increment digits).2.length = digits.length ∧
      (increment digits).1.toNat * 10 ^ digits.length + numberOf (increment digits).2 =
        numberOf digits + 1 := by
  induction digits with
  | nil => exact ⟨isDigitsNil, rfl, rfl⟩
  | cons digit rest inductionHypothesis =>
      obtain ⟨isDigit, restIsDigits⟩ := isDigitsCons.mp isDigits
      obtain ⟨raisedIsDigits, sameLength, number⟩ := inductionHypothesis restIsDigits
      rw [increment]
      split
      · case h_1 raised kept =>
          rw [kept] at raisedIsDigits sameLength number
          refine ⟨isDigitsCons.mpr ⟨isDigit, raisedIsDigits⟩, by simp [sameLength], ?_⟩
          simp only [Bool.toNat_false, zero_mul, zero_add] at number ⊢
          rw [numberOfCons, numberOfCons, sameLength, number]
          ring
      · case h_2 raised carried =>
          rw [carried] at raisedIsDigits sameLength number
          rw [Bool.toNat_true, one_mul] at number
          split
          · case isTrue nine =>
              refine ⟨isDigitsCons.mpr ⟨rfl, raisedIsDigits⟩, by simp [sameLength], ?_⟩
              have zero : digitValue '0' = 0 := rfl
              have last : digitValue '9' = 9 := rfl
              rw [numberOfCons, numberOfCons, nine, zero, last, List.length_cons, pow_succ,
                Bool.toNat_true]
              linarith
          · case isFalse below =>
              obtain ⟨nextIsDigit, nextValue⟩ := nextDigit isDigit below
              refine ⟨isDigitsCons.mpr ⟨nextIsDigit, raisedIsDigits⟩, by simp [sameLength], ?_⟩
              rw [numberOfCons, numberOfCons, sameLength, nextValue, Bool.toNat_false]
              linarith

/-- A run of digits for a number of cents: at least one digit of dollars, and no superfluous zero in
front. -/
structure IsCents (digits : List Char) : Prop where
  isDigits : IsDigits digits
  filled : 3 ≤ digits.length
  least : digits.length = 3 ∨ 10 ^ (digits.length - 1) ≤ numberOf digits

/-- The last two digits are the cents, and the digits before them are those of the dollars. -/
theorem IsCents.splitAt (cents : IsCents digits) :
    digits.splitAt (digits.length - 2) =
      (Nat.toDigits 10 (numberOf digits / 100), padded 2 (numberOf digits % 100)) := by
  obtain ⟨isDigits, filled, least⟩ := cents
  rw [List.splitAt_eq]
  have joined := List.take_append_drop (digits.length - 2) digits
  have beforeLength : (digits.take (digits.length - 2)).length = digits.length - 2 := by simp
  have behindLength : (digits.drop (digits.length - 2)).length = 2 := by simp; omega
  generalize digits.take (digits.length - 2) = before at *
  generalize digits.drop (digits.length - 2) = behind at *
  subst joined
  obtain ⟨beforeIsDigits, behindIsDigits⟩ := isDigitsAppend.mp isDigits
  have small := numberOfLt behindIsDigits
  have number := numberOfAppend before behind
  rw [behindLength] at small number
  have dollars : numberOf (before ++ behind) / 100 = numberOf before := by omega
  have rest : numberOf (before ++ behind) % 100 = numberOf behind := by omega
  rw [dollars, rest]
  refine Prod.ext (toDigitsOfBounds beforeIsDigits ?_ ?_).symm ?_
  · exact List.ne_nil_of_length_pos (by simp at filled; omega)
  · rw [List.length_append, behindLength] at least
    rcases least with single | least
    · exact .inl (by omega)
    · right
      obtain ⟨more, counted⟩ : ∃ more, before.length = more + 1 := ⟨before.length - 1, by
        simp at filled; omega⟩
      rw [counted, show more + 1 + 2 - 1 = more + 2 by omega, pow_add] at least
      rw [counted, Nat.add_sub_cancel]
      omega
  · exact numberOfInjective behindIsDigits (isDigitsPadded _ _)
      (by rw [behindLength, lengthPadded small (by decide)]) (numberOfPadded _ _).symm

theorem isCentsOfWhole {tenths hundredths : Char} (isDigits : IsDigits whole)
    (unpadded : IsUnpadded whole)
    (tenthsIsDigit : tenths.isDigit = true) (hundredthsIsDigit : hundredths.isDigit = true) :
    IsCents (whole ++ [tenths, hundredths]) := by
  have filled := List.length_pos_iff.mpr unpadded.1
  refine ⟨isDigitsAppend.mpr ⟨isDigits, isDigitsCons.mpr ⟨tenthsIsDigit,
    isDigitsCons.mpr ⟨hundredthsIsDigit, isDigitsNil⟩⟩⟩, by simp; omega, ?_⟩
  rw [List.length_append, numberOfAppend]
  refine (leastOfUnpadded isDigits unpadded).imp (fun single => by simp [single]) fun least => ?_
  obtain ⟨more, counted⟩ : ∃ more, whole.length = more + 1 := ⟨whole.length - 1, by omega⟩
  rw [counted, Nat.add_sub_cancel] at least
  rw [counted]
  change 10 ^ (more + 2) ≤ numberOf whole * 10 ^ 2 + _
  rw [pow_add]
  exact (Nat.mul_le_mul_right _ least).trans (Nat.le_add_right _ _)

/-- One cent more is a number of cents again, also where the carry makes it longer. -/
theorem IsCents.increment (cents : IsCents digits) :
    let raised := match increment digits with
      | (true, raised) => '1' :: raised
      | (false, raised) => raised
    IsCents raised ∧ numberOf raised = numberOf digits + 1 := by
  obtain ⟨isDigits, filled, least⟩ := cents
  obtain ⟨raisedIsDigits, sameLength, number⟩ := incrementSpec isDigits
  split
  · case h_1 raised carried =>
      rw [carried] at raisedIsDigits sameLength number
      have one : digitValue '1' = 1 := rfl
      have total : numberOf ('1' :: raised) = numberOf digits + 1 := by
        rw [numberOfCons, one, sameLength, ← number, Bool.toNat_true]
      simp only at sameLength
      refine ⟨⟨isDigitsCons.mpr ⟨rfl, raisedIsDigits⟩, by simp; omega, .inr ?_⟩, total⟩
      rw [numberOfCons, one, List.length_cons, Nat.add_sub_cancel, one_mul]
      exact Nat.le_add_right _ _
  · case h_2 raised kept =>
      rw [kept] at raisedIsDigits sameLength number
      rw [Bool.toNat_false, zero_mul, zero_add] at number
      simp only at sameLength number
      refine ⟨⟨raisedIsDigits, by omega, ?_⟩, number⟩
      rw [sameLength, number]
      exact least.imp_right Nat.le_succ_of_le

/-- The digits behind the cents are a part of one cent. -/
theorem hundredfold (whole fraction : List Char) :
    100 * ((numberOf (whole ++ fraction) : ℚ) / 10 ^ fraction.length) =
      numberOf (whole ++ [fraction.getD 0 '0', fraction.getD 1 '0']) +
        numberOf (fraction.drop 2) / 10 ^ (fraction.drop 2).length := by
  have zero : digitValue '0' = 0 := rfl
  match fraction with
  | [] =>
      simp [numberOfAppend, numberOfCons, numberOfNil, zero]
      ring
  | [tenths] =>
      simp [numberOfAppend, numberOfCons, numberOfNil, zero]
      ring
  | tenths :: hundredths :: rest =>
      have scale : (10 : ℚ) ^ rest.length ≠ 0 := by positivity
      simp [numberOfAppend, numberOfCons, numberOfNil, pow_succ]
      field_simp
      ring

/-- A part of a cent is at least a half if its first digit is at least five. -/
theorem halfIff (isDigits : IsDigits digits) :
    (digits.head?.any ('5' ≤ ·) = true ↔ 1 / 2 ≤ (numberOf digits : ℚ) / 10 ^ digits.length) ∧
      (numberOf digits : ℚ) / 10 ^ digits.length < 1 := by
  have scale : (0 : ℚ) < 10 ^ digits.length := by positivity
  constructor
  · cases digits with
    | nil => norm_num [numberOfNil]
    | cons digit rest =>
        obtain ⟨isDigit, restIsDigits⟩ := isDigitsCons.mp isDigits
        have small := numberOfLt restIsDigits
        have code := (digitValueSpec isDigit).2
        have five : '5' ≤ digit ↔ 5 ≤ digitValue digit := by
          rw [Char.le_def, UInt32.le_iff_toNat_le]
          change 53 ≤ digit.toNat ↔ _
          omega
        rw [List.head?_cons, Option.any_some, decide_eq_true_iff, five,
          div_le_div_iff₀ two_pos scale, one_mul, numberOfCons, List.length_cons, pow_succ]
        have positive : 0 < 10 ^ rest.length := by positivity
        rw [show ((10 : ℚ) ^ rest.length * 10 ≤
          (digitValue digit * 10 ^ rest.length + numberOf rest : ℕ) * 2 ↔
          10 ^ rest.length * 10 ≤ (digitValue digit * 10 ^ rest.length + numberOf rest) * 2) by
            exact_mod_cast Iff.rfl]
        constructor
        · intro large
          nlinarith
        · intro large
          by_contra below
          have few : digitValue digit * 10 ^ rest.length ≤ 4 * 10 ^ rest.length :=
            Nat.mul_le_mul_right _ (by omega)
          omega
  · rw [div_lt_one scale]
    exact_mod_cast numberOfLt isDigits

/-- The digits of a decimal text are rounded to the nearest number of cents, a half going up. -/
theorem roundToCentsSpec (isDigits : IsDigits whole) (unpadded : IsUnpadded whole)
    (fractionIsDigits : IsDigits fraction) :
    ∃ cents : Nat, (cents : ℤ) =
        ⌊100 * ((numberOf (whole ++ fraction) : ℚ) / 10 ^ fraction.length) + 1 / 2⌋ ∧
      roundToCents whole fraction = (Nat.toDigits 10 (cents / 100), padded 2 (cents % 100)) := by
  have digitAt : ∀ place, (fraction.getD place '0').isDigit = true := by
    intro place
    rw [List.getD_eq_getElem?_getD]
    cases inside : fraction[place]? with
    | none => rfl
    | some digit => exact fractionIsDigits digit (List.mem_of_getElem? inside)
  have cents := isCentsOfWhole isDigits unpadded (digitAt 0) (digitAt 1)
  have restIsDigits : IsDigits (fraction.drop 2) :=
    fun digit inside => fractionIsDigits digit (List.mem_of_mem_drop inside)
  obtain ⟨half, small⟩ := halfIff restIsDigits
  have nonneg : (0 : ℚ) ≤ numberOf (fraction.drop 2) / 10 ^ (fraction.drop 2).length := by positivity
  rw [hundredfold]
  rw [List.head?_drop] at half
  simp only [roundToCents]
  generalize whole ++ [fraction.getD 0 '0', fraction.getD 1 '0'] = digits at *
  generalize (numberOf (fraction.drop 2) : ℚ) / 10 ^ (fraction.drop 2).length = rest at *
  split
  · case isTrue up =>
      have large := half.mp up
      obtain ⟨raisedCents, raised⟩ := cents.increment
      refine ⟨_, ?_, raisedCents.splitAt⟩
      rw [raised]
      symm
      rw [Int.floor_eq_iff]
      push_cast
      exact ⟨by linarith, by linarith⟩
  · case isFalse down =>
      have less : rest < 1 / 2 := not_le.mp fun large => down (half.mpr large)
      refine ⟨_, ?_, cents.splitAt⟩
      symm
      rw [Int.floor_eq_iff]
      push_cast
      exact ⟨by linarith, by linarith⟩

/-- The dollars of a finite number, from the rational that its decimal text denotes. -/
theorem dollarsOfFinite {number : Binary64} (finite : number.isFinite = true) {value : ℚ}
    (denotes : Denotes (magnitudeText number) value) :
    ∃ cents : Nat, (cents : ℤ) = ⌊100 * value + 1 / 2⌋ ∧
      dollars number = String.ofList (signText number.negative ++
        '$' :: groupThousands (Nat.toDigits 10 (cents / 100)) ++ '.' :: padded 2 (cents % 100)) := by
  obtain ⟨whole, fraction, text, isDigits, unpadded, fractionIsDigits, rfl⟩ := denotes
  obtain ⟨cents, rounded, parts⟩ := roundToCentsSpec isDigits unpadded fractionIsDigits
  have notFull : number.exponent ≠ 2047 := bne_iff_ne.mp finite
  refine ⟨cents, rounded, ?_⟩
  simp [dollars, Binary64.isNaN, Binary64.isInfinite, notFull, text, splitPointOfParts isDigits,
    parts]

/-- A text of digits in groups, with a comma between two of them: the first group has one to three
digits and every other one has three. -/
def IsGrouped (text digits : List Char) : Prop :=
  ∃ (first : List Char) (others : List (List Char)),
    text = first ++ others.flatMap (',' :: ·) ∧ digits = first ++ others.flatten ∧
    1 ≤ first.length ∧ first.length ≤ 3 ∧ ∀ group ∈ others, group.length = 3

theorem lengthGroups {others : List (List Char)} (three : ∀ group ∈ others, group.length = 3) :
    others.flatten.length = 3 * others.length := by
  rw [List.length_flatten, List.map_congr_left three, List.map_const', List.sum_replicate,
    nsmul_eq_mul, Nat.cast_id, mul_comm]

theorem isGroupedThousands (filled : digits ≠ []) : IsGrouped (groupThousands digits) digits := by
  induction digits with
  | nil => exact absurd rfl filled
  | cons digit rest inductionHypothesis =>
      rw [groupThousands]
      cases none : rest with
      | nil => exact ⟨[digit], [], rfl, rfl, le_rfl, by simp, nofun⟩
      | cons next more =>
          rw [← none]
          have restFilled : rest ≠ [] := by simp [none]
          obtain ⟨first, others, grouped, same, least, most, three⟩ := inductionHypothesis restFilled
          have count : rest.length = first.length + 3 * others.length := by
            rw [← lengthGroups three, ← List.length_append, ← same]
          split
          · case isTrue full =>
              simp only [Bool.and_eq_true, decide_eq_true_eq] at full
              refine ⟨[digit], first :: others, by simp [grouped], by simp [same], le_rfl, by simp,
                List.forall_mem_cons.mpr ⟨by omega, three⟩⟩
          · case isFalse short =>
              simp only [Bool.and_eq_true, decide_eq_true_eq, not_and, Bool.not_eq_true,
                Bool.not_eq_false', List.isEmpty_iff] at short
              have part : rest.length % 3 ≠ 0 := fun whole => restFilled (short whole)
              refine ⟨digit :: first, others, by simp [grouped], by simp [same], ?_, ?_, three⟩ <;>
                rw [List.length_cons] <;> omega

/-- The text of a number in dollars. A finite number has the cents that are nearest to its shortest
decimal, a half going up, without a superfluous zero in front; the sign is that of the number, also
where the cents are zero. -/
inductive IsDollars (number : Binary64) : List Char → Prop where
  | nan (isNaN : number.isNaN = true) : IsDollars number "NaN".toList
  | infinite (isInfinite : number.isInfinite = true) :
      IsDollars number ((if number.negative then ['-'] else []) ++ ['$', '∞'])
  | finite (isFinite : number.isFinite = true) {decimal : Decimal} {grouped whole cents : List Char}
      (shortest : Binary64.IsShortest decimal number)
      (shown : Denotes (magnitudeText number) decimal.value)
      (groups : IsGrouped grouped whole) (isDigits : IsDigits (whole ++ cents))
      (unpadded : IsUnpadded whole) (two : cents.length = 2)
      (rounded : (numberOf (whole ++ cents) : ℤ) = ⌊100 * decimal.value + 1 / 2⌋) :
      IsDollars number
        ((if number.negative then ['-'] else []) ++ '$' :: grouped ++ '.' :: cents)

theorem dollarsOfNaN {number : Binary64} (isNaN : number.isNaN = true) : dollars number = "NaN" :=
  if_pos isNaN

theorem dollarsOfInfinite {number : Binary64} (isInfinite : number.isInfinite = true) :
    dollars number = String.ofList (signText number.negative ++ ['$', '∞']) := by
  have notNaN : number.isNaN = false := by
    have full := (Bool.and_eq_true_iff.mp isInfinite).2
    rw [Binary64.isNaN, bne, full, Bool.not_true, Bool.and_false]
  simp [dollars, notNaN, isInfinite]

/-- Every number is shown as its dollars. -/
theorem dollarsRoundShortest (number : Binary64) : IsDollars number (dollars number).toList := by
  by_cases isNaN : number.isNaN = true
  · rw [dollarsOfNaN isNaN]
    exact .nan isNaN
  · by_cases isInfinite : number.isInfinite = true
    · rw [dollarsOfInfinite isInfinite, String.toList_ofList]
      exact .infinite isInfinite
    · have isFinite : number.isFinite = true := by
        simp only [Binary64.isNaN, Binary64.isInfinite, Binary64.isFinite] at *
        grind
      have shown := Binary64.shortestDenotes .up number
      obtain ⟨cents, rounded, text⟩ := dollarsOfFinite isFinite shown
      have few : cents % 100 < 10 ^ 2 := Nat.mod_lt _ (by decide)
      have two := lengthPadded few (by decide)
      rw [text, String.toList_ofList]
      refine .finite isFinite (Binary64.shortestIsShortest .up isFinite) shown
        (isGroupedThousands (unpaddedToDigits _).1)
        (isDigitsAppend.mpr ⟨isDigitsToDigits _, isDigitsPadded _ _⟩) (unpaddedToDigits _) two ?_
      rw [numberOfAppend, two, numberOfToDigits, numberOfPadded, ← rounded]
      exact congrArg Nat.cast (Nat.div_add_mod' cents 100)

end FleetPanel.Amount
