/-
This file says which texts spell a number, and which number. What spells a finite number is read as
a literal.
-/

import FleetPanel.Binary64.Literal
import FleetPanel.Proofs.Binary64.Rounding

namespace FleetPanel.Amount.Numeral

open Text

/-- An optional sign, and whether it is a minus. -/
inductive Sign : (mark : List Char) → (negative : Bool) → Prop where
  | none : Sign [] false
  | plus : Sign ['+'] false
  | minus : Sign ['-'] true

theorem signOfNegative (negative : Bool) :
    Sign (if negative then ['-'] else []) negative := by
  cases negative
  · exact .none
  · exact .minus

/-- Digits with an optional point among them: at least one digit in front of it or behind it. -/
inductive Digits : (text whole fraction : List Char) → Prop where
  | plain {whole : List Char} (isDigits : IsDigits whole) (filled : whole ≠ []) :
      Digits whole whole []
  | pointed {whole fraction : List Char} (isDigits : IsDigits whole)
      (fractionIsDigits : IsDigits fraction) (filled : whole ≠ [] ∨ fraction ≠ []) :
      Digits (whole ++ '.' :: fraction) whole fraction

/-- An optional exponent with at least one digit, and the power of ten for it. -/
inductive Exponent : (text : List Char) → (power : Int) → Prop where
  | none : Exponent [] 0
  | marked {mark : Char} {sign digits : List Char} {negative : Bool}
      (marks : mark = 'e' ∨ mark = 'E') (signed : Sign sign negative)
      (isDigits : IsDigits digits) (filled : digits ≠ []) :
      Exponent (mark :: (sign ++ digits)) (if negative then -numberOf digits else numberOf digits)

inductive Magnitude where
  | infinite
  | finite (value : ℚ)

/-- A text that spells a number, the sign apart from the magnitude. -/
inductive Spells : (text : List Char) → (negative : Bool) → Magnitude → Prop where
  | infinity {sign : List Char} {negative : Bool} (signed : Sign sign negative) :
      Spells (sign ++ "Infinity".toList) negative .infinite
  | decimal {sign body tail whole fraction : List Char} {negative : Bool} {power : Int}
      (signed : Sign sign negative) (digits : Digits body whole fraction)
      (exponent : Exponent tail power) :
      Spells (sign ++ (body ++ tail)) negative
        (.finite (numberOf (whole ++ fraction) * 10 ^ (power - fraction.length)))

/-- No digit stands at the front of a text. -/
def Stops (text : List Char) : Prop :=
  ∀ character, text.head? = some character → character.isDigit = false

/-- A text begins with something other than a sign. -/
def Unsigned (text : List Char) : Prop :=
  ∃ character, text.head? = some character ∧ character ≠ '+' ∧ character ≠ '-'

variable {text sign body tail whole fraction digits rest other : List Char} {negative : Bool}
  {power : Int} {value : ℚ} {magnitude : Magnitude}

theorem notSignOfIsDigit {character : Char} (isDigit : character.isDigit = true) :
    character ≠ '+' ∧ character ≠ '-' := by
  constructor <;> rintro rfl <;> exact absurd isDigit (by decide)

theorem unsignedOfDigits (isDigits : IsDigits digits) (filled : digits ≠ []) (rest : List Char) :
    Unsigned (digits ++ rest) := by
  obtain ⟨digit, more, rfl⟩ := List.exists_cons_of_ne_nil filled
  exact ⟨digit, rfl, notSignOfIsDigit (isDigitsCons.mp isDigits).1⟩

theorem Digits.first (digits : Digits body whole fraction) :
    ∃ character more, body = character :: more ∧
      (character.isDigit = true ∨ character = '.') := by
  cases digits with
  | plain isDigits filled =>
      obtain ⟨digit, more, rfl⟩ := List.exists_cons_of_ne_nil filled
      exact ⟨digit, more, rfl, .inl (isDigitsCons.mp isDigits).1⟩
  | pointed isDigits _ _ =>
      cases whole with
      | nil => exact ⟨'.', _, rfl, .inr rfl⟩
      | cons digit more => exact ⟨digit, _, rfl, .inl (isDigitsCons.mp isDigits).1⟩

theorem Digits.unsigned (digits : Digits body whole fraction) (rest : List Char) :
    Unsigned (body ++ rest) := by
  obtain ⟨character, more, rfl, isDigit | rfl⟩ := digits.first
  · exact ⟨character, rfl, notSignOfIsDigit isDigit⟩
  · exact ⟨'.', rfl, by decide⟩

theorem Exponent.stops (exponent : Exponent tail power) : Stops tail := by
  intro character first
  cases exponent with
  | none => cases first
  | marked marks _ _ _ =>
      obtain rfl := Option.some.inj first
      rcases marks with rfl | rfl <;> decide

theorem stopsOfMark {mark : Char} (noDigit : mark.isDigit = false) (text : List Char) :
    Stops (mark :: text) :=
  fun _ first => Option.some.inj first ▸ noDigit

theorem takeWhileDigits (isDigits : IsDigits digits) (stops : Stops rest) :
    (digits ++ rest).takeWhile Char.isDigit = digits := by
  rw [List.takeWhile_append_of_pos isDigits]
  cases rest with
  | nil => simp
  | cons character more => simp [stops character rfl]

theorem dropWhileDigits (isDigits : IsDigits digits) (stops : Stops rest) :
    (digits ++ rest).dropWhile Char.isDigit = rest := by
  rw [List.dropWhile_append_of_pos isDigits]
  cases rest with
  | nil => rfl
  | cons character more => simp [stops character rfl]

theorem stopsDropWhile (text : List Char) : Stops (text.dropWhile Char.isDigit) := by
  intro character first
  have stop := List.head?_dropWhile_not Char.isDigit text
  rw [first] at stop
  exact stop

theorem isDigitsTakeWhile (text : List Char) : IsDigits (text.takeWhile Char.isDigit) :=
  List.all_eq_true.mp List.all_takeWhile

theorem spanDigits (isDigits : IsDigits digits) (stops : Stops rest) :
    (digits ++ rest).span Char.isDigit = (digits, rest) := by
  rw [List.span_eq_takeWhile_dropWhile, takeWhileDigits isDigits stops,
    dropWhileDigits isDigits stops]

/-- The sign that a reader of literals takes is the one that is written. -/
theorem Sign.read (signed : Sign sign negative) (unsigned : Unsigned rest) :
    Binary64.Literal.sign (sign ++ rest) = (negative, rest) := by
  obtain ⟨character, first, notPlus, notMinus⟩ := unsigned
  cases signed with
  | none =>
      cases rest with
      | nil => cases first
      | cons head more =>
          obtain rfl := Option.some.inj first
          simp [Binary64.Literal.sign, notPlus, notMinus]
  | plus => rfl
  | minus => rfl

theorem Exponent.read (exponent : Exponent tail power) :
    Binary64.Literal.exponent? tail = some power := by
  cases exponent with
  | none => rfl
  | @marked mark sign digits negative marks signed isDigits filled =>
      have unsigned := unsignedOfDigits isDigits filled []
      rw [List.append_nil] at unsigned
      have all : digits.all Char.isDigit = true := List.all_eq_true.mpr isDigits
      have marked : (mark == 'e' || mark == 'E') = true := by
        rcases marks with rfl | rfl <;> rfl
      simp [Binary64.Literal.exponent?, signed.read unsigned, marked, filled, all]

/-- The parts that a reader of literals finds: the sign, the digits before and behind a point, and
the exponent if it is one. -/
def parts (text : List Char) : Bool × List Char × List Char × Option Int :=
  let (negative, unsigned) := Binary64.Literal.sign text
  let (whole, rest) := unsigned.span Char.isDigit
  let (fraction, rest) := Binary64.Literal.fraction rest
  (negative, whole, fraction, Binary64.Literal.exponent? rest)

theorem partsOfDecimal (signed : Sign sign negative) (digits : Digits body whole fraction)
    (exponent : Exponent tail power) :
    parts (sign ++ (body ++ tail)) = (negative, whole, fraction, some power) := by
  have read := signed.read (digits.unsigned tail)
  have stops := exponent.stops
  cases digits with
  | plain isDigits _ =>
      have none : Binary64.Literal.fraction tail = ([], tail) := by
        cases exponent with
        | none => rfl
        | marked marks _ _ _ => rcases marks with rfl | rfl <;> rfl
      simp only [parts, read, spanDigits isDigits stops, none, exponent.read]
  | pointed isDigits fractionIsDigits _ =>
      have point : Stops ('.' :: (fraction ++ tail)) := stopsOfMark (by decide) _
      rw [List.append_assoc, List.cons_append] at read
      simp only [parts, List.append_assoc, List.cons_append, read, spanDigits isDigits point,
        Binary64.Literal.fraction, spanDigits fractionIsDigits stops, exponent.read]

theorem partsOfInfinity (signed : Sign sign negative) :
    parts (sign ++ "Infinity".toList) = (negative, [], [], none) := by
  cases signed <;> decide

theorem Digits.filled (digits : Digits body whole fraction) : whole ≠ [] ∨ fraction ≠ [] := by
  cases digits with
  | plain _ filled => exact .inl filled
  | pointed _ _ filled => exact filled

/-- A text spells one number only. -/
theorem Spells.unique {otherNegative : Bool} {otherMagnitude : Magnitude}
    (spells : Spells text negative magnitude) (others : Spells text otherNegative otherMagnitude) :
    negative = otherNegative ∧ magnitude = otherMagnitude := by
  generalize same : text = copy at others
  cases spells with
  | infinity signed =>
      cases others with
      | infinity otherSigned =>
          have found := congrArg parts same
          rw [partsOfInfinity signed, partsOfInfinity otherSigned] at found
          exact ⟨congrArg Prod.fst found, rfl⟩
      | decimal otherSigned otherDigits otherExponent =>
          have found := congrArg parts same
          rw [partsOfInfinity signed, partsOfDecimal otherSigned otherDigits otherExponent] at found
          simp at found
  | decimal signed digits exponent =>
      cases others with
      | infinity otherSigned =>
          have found := congrArg parts same
          rw [partsOfDecimal signed digits exponent, partsOfInfinity otherSigned] at found
          simp at found
      | decimal otherSigned otherDigits otherExponent =>
          have found := congrArg parts same
          rw [partsOfDecimal signed digits exponent,
            partsOfDecimal otherSigned otherDigits otherExponent] at found
          simp only [Prod.mk.injEq, Option.some.injEq] at found
          obtain ⟨rfl, rfl, rfl, rfl⟩ := found
          exact ⟨rfl, rfl⟩

/-- What spells a finite number is a literal, and it is read as the number nearest to it. -/
theorem Spells.read (spells : Spells text negative (.finite value)) :
    ∃ number, Binary64.ofLiteral? text = some number ∧ number.negative = negative ∧
      Binary64.NearestTo value number := by
  cases spells with
  | @decimal sign body tail whole fraction negative power signed digits exponent =>
      have found := partsOfDecimal signed digits exponent
      have filled : (whole.isEmpty && fraction.isEmpty) = false := by
        have one := digits.filled
        rw [← List.isEmpty_eq_false_iff, ← List.isEmpty_eq_false_iff] at one
        rcases one with one | one <;> simp [one]
      refine ⟨Binary64.ofDecimal negative (numberOf (whole ++ fraction))
        (power - fraction.length), ?_, Binary64.ofDecimalNegative _ _ _,
        Binary64.ofDecimalNearest _ _ _⟩
      simp only [parts, Prod.mk.injEq] at found
      obtain ⟨sameSign, sameWhole, sameFraction, samePower⟩ := found
      simp only [Binary64.ofLiteral?, sameSign, sameWhole, sameFraction, samePower, filled]
      rfl

end FleetPanel.Amount.Numeral
