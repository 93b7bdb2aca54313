/-
This file shows that every number of the grammar is read to its end: it gives its value if that is
within range, and fails otherwise.
-/

import FleetPanel.Proofs.Amount.Numeral
import FleetPanel.Proofs.Json.Grammar

namespace FleetPanel.Json

open Text
open Amount.Numeral (Stops spanDigits dropWhileDigits stopsOfMark)

/-- What may stand behind a value: nothing, space, or a character that goes on with a list or closes
one. -/
def Bounded (rest : List Char) : Prop :=
  ∀ character, rest.head? = some character →
    isSpace character = true ∨ character ∈ [',', ']', '\x7d']

variable {digits rest whole fraction : List Char} {negative : Bool} {significand : Nat}
  {power : Int} {exponent? : Option Exponent}

theorem boundedNil : Bounded [] :=
  fun _ found => nomatch found

theorem boundedCons (rest : List Char) {character : Char}
    (bounds : isSpace character = true ∨ character ∈ [',', ']', '\x7d']) :
    Bounded (character :: rest) := by
  intro other found
  exact Option.some.inj found ▸ bounds

theorem boundedOfSpaces {space : List Char} (spaces : IsSpaces space) (bounded : Bounded rest) :
    Bounded (space ++ rest) := by
  cases space with
  | nil => exact bounded
  | cons first more => exact boundedCons _ (.inl (spaces first List.mem_cons_self))

/-- A number does not go on behind its end. -/
theorem boundedSpec {character : Char} (bounded : Bounded (character :: rest)) :
    character.isDigit = false ∧ character ≠ '.' ∧ isExponentMark character = false := by
  rcases bounded character rfl with space | closes
  · simp only [isSpace, Bool.or_eq_true, beq_iff_eq] at space
    rcases space with ((rfl | rfl) | rfl) | rfl <;> decide
  · simp only [List.mem_cons, List.not_mem_nil, or_false] at closes
    rcases closes with rfl | rfl | rfl <;> decide

theorem Bounded.stops (bounded : Bounded rest) : Stops rest := by
  cases rest with
  | nil => exact fun _ found => nomatch found
  | cons character more =>
      intro other found
      exact Option.some.inj found ▸ (boundedSpec bounded).1

theorem toOptionBind {Value Next : Type} (outcome : Outcome Value) (next : Value → Outcome Next) :
    (outcome >>= next).toOption = outcome.toOption.bind fun value => (next value).toOption := by
  cases outcome <;> rfl

theorem toOptionMap {Fault Value Next : Type} (change : Value → Next)
    (outcome : Except Fault Value) :
    (outcome.map change).toOption = outcome.toOption.map change := by
  cases outcome <;> rfl

@[simp] theorem toOptionOk {Value : Type} (value : Value) :
    (.ok value : Outcome Value).toOption = some value :=
  rfl

@[simp] theorem toOptionFailAt {Value : Type} (fault : Fault) (rest : List Char) :
    (failAt fault rest : Outcome Value).toOption = none :=
  rfl

@[simp] theorem toOptionFailPast {Value : Type} (fault : Fault) (rest : List Char) :
    (failPast fault rest : Outcome Value).toOption = none :=
  rfl

def exponentText (exponent? : Option Exponent) : List Char :=
  (exponent?.map Exponent.text).getD []

theorem stopsOfExponent (exponent? : Option Exponent) (bounded : Bounded rest) :
    Stops (exponentText exponent? ++ rest) := by
  cases exponent? with
  | none => exact bounded.stops
  | some exponent =>
      intro character found
      obtain rfl := Option.some.inj found
      cases exponent.capital <;> decide

theorem readScaledSpec (negative : Bool) (significand : Nat) (power : Int) (rest : List Char) :
    (readScaled negative significand power rest).toOption =
      (scaled? negative significand power).map (·, rest) := by
  unfold readScaled scaled?
  cases scale? significand power <;> rfl

/-- The digits of an exponent are read to the end, or until they pass the greatest exponent. -/
theorem readExponentDigitsSpec (isDigits : IsDigits digits) (stops : Stops rest) {sofar : Nat}
    (small : sofar ≤ greatestExponent) :
    if greatestExponent < Nat.ofDigitChars 10 digits sofar then
      ∃ passed left, IsDigits left ∧
        readExponentDigits sofar (digits ++ rest) = ((passed, true), left ++ rest)
    else
      readExponentDigits sofar (digits ++ rest) =
        ((Nat.ofDigitChars 10 digits sofar, false), rest) := by
  induction digits generalizing sofar with
  | nil =>
      rw [Nat.ofDigitChars_nil, if_neg (Nat.not_lt.mpr small), List.nil_append]
      cases rest with
      | nil => rfl
      | cons character more => simp [readExponentDigits, stops character rfl]
  | cons digit others inductionHypothesis =>
      obtain ⟨isDigit, othersAreDigits⟩ := isDigitsCons.mp isDigits
      rw [Nat.ofDigitChars_cons, List.cons_append, readExponentDigits, if_pos isDigit]
      by_cases passes : greatestExponent < 10 * sofar + (digit.toNat - '0'.toNat)
      · have grown : greatestExponent <
            Nat.ofDigitChars 10 others (10 * sofar + (digit.toNat - '0'.toNat)) := by
          rw [ofDigitCharsFrom]
          have scaled := Nat.le_mul_of_pos_right (10 * sofar + (digit.toNat - '0'.toNat))
            (Nat.pow_pos (n := others.length) (show 0 < 10 by decide))
          omega
        rw [if_pos grown, if_pos passes]
        exact ⟨_, others, othersAreDigits, rfl⟩
      · rw [if_neg passes]
        exact inductionHypothesis othersAreDigits (Nat.not_lt.mp passes)

theorem readExponentSpec (exponent : Exponent) (negative : Bool) (significand : Nat) (power : Int)
    (stops : Stops rest) :
    (readExponent negative significand power
      (exponent.direction.text ++ (exponent.digits ++ rest))).toOption =
        (scaledBy? negative significand power (some exponent)).map (·, rest) := by
  obtain ⟨capital, direction, digits, isDigits, filled⟩ := exponent
  obtain ⟨digit, others, rfl⟩ := List.exists_cons_of_ne_nil filled
  have isDigit := (isDigitsCons.mp isDigits).1
  have signed : ∀ places passed left,
      readExponentDigits 0 (digit :: others ++ rest) = ((places, passed), left) →
      readExponent negative significand power (direction.text ++ (digit :: others ++ rest)) =
        if passed then
          if significand ≠ 0 ∧ direction ≠ .down then failAt .numberOutOfRange left
          else .ok (float (.zero negative), left.dropWhile Char.isDigit)
        else
          readScaled negative significand
            (if direction = .down then power - places else power + places) left := by
    intro places passed left read
    rw [List.cons_append] at read
    cases direction with
    | up | down => cases passed <;> simp [readExponent, Direction.text, isDigit, read]
    | unmarked =>
        obtain ⟨notPlus, notMinus⟩ := Amount.Numeral.notSignOfIsDigit isDigit
        cases passed <;> simp [readExponent, Direction.text, isDigit, notPlus, notMinus, read]
  have digitsRead := readExponentDigitsSpec isDigits stops (Nat.zero_le greatestExponent)
  simp only [scaledBy?]
  change if greatestExponent < numberOf (digit :: others) then _ else _ at digitsRead
  split at digitsRead
  · case isTrue passes =>
      obtain ⟨passed, left, leftIsDigits, read⟩ := digitsRead
      rw [signed passed true (left ++ rest) read, if_pos rfl, if_pos passes]
      split
      · rfl
      · rw [dropWhileDigits leftIsDigits stops]
        rfl
  · case isFalse within =>
      rw [signed _ false rest digitsRead, if_neg (by decide), if_neg within]
      exact readScaledSpec negative significand _ rest

/-- What follows the digits of a fraction, or of a whole number with digits to spare. -/
theorem readTailSpec (exponent? : Option Exponent) (negative : Bool) (significand : Nat)
    (power : Int) (bounded : Bounded rest) :
    (match exponentText exponent? ++ rest with
      | mark :: after =>
          if isExponentMark mark then readExponent negative significand power after
          else readScaled negative significand power (exponentText exponent? ++ rest)
      | [] => readScaled negative significand power (exponentText exponent? ++ rest)).toOption =
      (scaledBy? negative significand power exponent?).map (·, rest) := by
  cases exponent? with
  | none =>
      change (match rest with
        | mark :: after =>
            if isExponentMark mark then readExponent negative significand power after
            else readScaled negative significand power rest
        | [] => readScaled negative significand power rest).toOption = _
      cases rest with
      | nil => exact readScaledSpec negative significand power []
      | cons character more =>
          simp only [(boundedSpec bounded).2.2, Bool.false_eq_true, ↓reduceIte]
          exact readScaledSpec negative significand power _
  | some exponent =>
      have marked : isExponentMark (if exponent.capital then 'E' else 'e') = true := by
        cases exponent.capital <;> rfl
      change (if isExponentMark (if exponent.capital then 'E' else 'e') then
        readExponent negative significand power
          (exponent.direction.text ++ exponent.digits ++ rest) else _).toOption = _
      rw [if_pos marked, List.append_assoc]
      exact readExponentSpec exponent negative significand power bounded.stops

theorem readFractionSpec (isDigits : IsDigits fraction) (filled : fraction ≠ [])
    (bounded : Bounded rest) :
    (readFraction negative significand power
      (fraction ++ (exponentText exponent? ++ rest))).toOption =
        (scaledBy? negative (gather significand fraction).1
          (power - (fraction.length - (gather significand fraction).2 : Nat)) exponent?).map
            (·, rest) := by
  have stops := stopsOfExponent exponent? bounded
  simp only [readFraction, spanDigits isDigits stops, List.isEmpty_eq_false_iff.mpr filled,
    Bool.false_eq_true, ↓reduceIte]
  exact readTailSpec exponent? negative _ _ bounded

theorem textOfUnsigned (numeral : Numeral) (rest : List Char) :
    numeral.unsignedText ++ rest = numeral.whole ++ (Numeral.fractionText numeral.fraction ++
      (exponentText numeral.exponent? ++ rest)) := by
  simp [Numeral.unsignedText, exponentText]

theorem stopsOfFraction (fraction : List Char) (exponent? : Option Exponent)
    (bounded : Bounded rest) :
    Stops (Numeral.fractionText fraction ++ (exponentText exponent? ++ rest)) := by
  cases fraction with
  | nil => exact stopsOfExponent exponent? bounded
  | cons digit others => exact stopsOfMark (by decide) _

theorem readAfterWholeSpec (numeral : Numeral) (bounded : Bounded rest) :
    (readAfterWhole numeral.negative numeral.whole (Numeral.fractionText numeral.fraction ++
      (exponentText numeral.exponent? ++ rest))).toOption = numeral.value?.map (·, rest) := by
  obtain ⟨negative, whole, fraction, exponent?, isDigits, unpadded, fractionIsDigits⟩ := numeral
  cases fraction with
  | cons digit others =>
      simp only [Numeral.fractionText, readAfterWhole, List.cons_append, Numeral.value?,
        Numeral.significand, reduceCtorEq, false_and, ↓reduceIte]
      exact readFractionSpec fractionIsDigits (List.cons_ne_nil digit others) bounded
  | nil =>
      cases exponent? with
      | some exponent =>
          have marked : isExponentMark (if exponent.capital then 'E' else 'e') = true := by
            cases exponent.capital <;> rfl
          have noPoint : (if exponent.capital then 'E' else 'e') ≠ '.' := by
            cases exponent.capital <;> decide
          simp only [Numeral.fractionText, exponentText, Option.map_some, Option.getD_some,
            Exponent.text, List.nil_append, List.cons_append, readAfterWhole, marked, ↓reduceIte,
            Numeral.value?, Numeral.significand, gather, reduceCtorEq, false_and, and_false,
            List.length_nil, List.append_assoc]
          exact readExponentSpec exponent negative _ _ bounded.stops
      | none =>
          have ends : readAfterWhole negative whole rest =
              readAfterWhole.finish negative rest (gather 0 whole).1 (gather 0 whole).2 := by
            cases rest with
            | nil => rfl
            | cons character more =>
                obtain ⟨_, noPoint, unmarked⟩ := boundedSpec bounded
                simp [readAfterWhole, unmarked]
          change (readAfterWhole negative whole rest).toOption = _
          rw [ends, readAfterWhole.finish]
          simp only [Numeral.value?, Numeral.significand, gather, scaledBy?, List.length_nil]
          by_cases exact : (gather 0 whole).2 = 0
          · simp [exact]
          · simpa [exact] using readScaledSpec negative _ _ rest

/-- A number whose sign was taken is read to its end. -/
theorem readNumberSpec (numeral : Numeral) (bounded : Bounded rest) :
    (readNumber numeral.negative (numeral.unsignedText ++ rest)).toOption =
      numeral.value?.map (·, rest) := by
  rw [← readAfterWholeSpec numeral bounded, textOfUnsigned]
  have stops := stopsOfFraction numeral.fraction numeral.exponent? bounded
  obtain ⟨filled, leading⟩ := numeral.unpadded
  obtain ⟨first, others, split⟩ := List.exists_cons_of_ne_nil filled
  have isDigit := (isDigitsCons.mp (split ▸ numeral.isDigits)).1
  by_cases zero : first = '0'
  · have single : numeral.whole = ['0'] := leading (by rw [split, zero]; rfl)
    rw [single]
    generalize Numeral.fractionText numeral.fraction ++ _ = tail at *
    have noDigit : (tail.head?.map Char.isDigit).getD false = false := by
      cases tail with
      | nil => rfl
      | cons character more => exact stops character rfl
    simp [readNumber, noDigit]
  · have spanned := spanDigits numeral.isDigits stops
    rw [split] at spanned ⊢
    rw [List.cons_append] at spanned ⊢
    rw [readNumber]
    · simp only [isDigit, ↓reduceIte, spanned]
    · exact zero

theorem firstOfUnsigned (numeral : Numeral) :
    ∃ digit others, numeral.unsignedText = digit :: others ∧ digit.isDigit = true := by
  obtain ⟨digit, others, split⟩ := List.exists_cons_of_ne_nil numeral.unpadded.1
  have isDigit := (isDigitsCons.mp (split ▸ numeral.isDigits)).1
  exact ⟨digit, _, by rw [Numeral.unsignedText, split, List.cons_append], isDigit⟩

end FleetPanel.Json
