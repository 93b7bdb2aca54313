/-
This file puts the parts of the scan together: reading a text gives the number that the longest
numeral at its front spells.
-/

import FleetPanel.Proofs.Amount.Scan

namespace FleetPanel.Amount

open Text Numeral Scan

/-- A text at the front of another one is not shorter than any numeral there. -/
def IsLongest (numeral text : List Char) : Prop :=
  numeral <+: text ∧ ∀ other negative magnitude,
    Spells other negative magnitude → other <+: text → other.length ≤ numeral.length

/-- What a scan is to find at the front of a text. The literal that it hands on need not be the
numeral of the text, but it spells the same number. -/
inductive Found (text : List Char) : Finding → Prop where
  | nothing (none : ∀ other negative magnitude, Spells other negative magnitude → ¬other <+: text) :
      Found text .nothing
  | infinite {numeral : List Char} {negative : Bool} (spells : Spells numeral negative .infinite)
      (longest : IsLongest numeral text) : Found text (.infinite negative)
  | literal {numeral literal : List Char} {negative : Bool} {value : ℚ}
      (spells : Spells numeral negative (.finite value)) (longest : IsLongest numeral text)
      (handed : Spells literal negative (.finite value)) : Found text (.literal literal)

variable {text mark unsigned whole behind tail fraction rest exponent other : List Char}
  {negative : Bool} {power : Int}

/-- No decimal begins with the word for infinity. -/
theorem wordOrDecimal {body otherTail : List Char} (digits : Digits body whole fraction)
    (front : body ++ otherTail <+: text) : ¬infinityWord <+: text := by
  intro word
  obtain ⟨last, rfl⟩ := word
  obtain ⟨character, more, rfl, kind⟩ := digits.first
  obtain ⟨rfl, -⟩ := List.cons_prefix_cons.mp front
  exact absurd kind (by decide)

theorem unsignedWord : Unsigned infinityWord :=
  ⟨'I', rfl, by decide, by decide⟩

theorem infinityLongest (here : SignAt text mark negative unsigned)
    (word : infinityWord <+: unsigned) : IsLongest (mark ++ infinityWord) text := by
  refine ⟨here.split.1 ▸ (List.prefix_append_right_inj mark).mpr word,
    fun other otherNegative magnitude spells front => ?_⟩
  cases spells with
  | infinity signed =>
      obtain ⟨rfl, -⟩ := here.same signed unsignedWord front
      exact le_rfl
  | decimal signed digits exponent =>
      obtain ⟨-, behind⟩ := here.same signed (digits.unsigned _) front
      exact absurd word (wordOrDecimal digits behind)

/-- What a scan takes from a text one after the other: the sign, the digits, the point with its
digits and the exponent. -/
structure PartsAt (text mark whole behind tail fraction rest exponent : List Char) (negative : Bool)
    (power : Int) : Prop where
  signed : SignAt text mark negative (whole ++ behind)
  isDigits : IsDigits whole
  stops : Stops behind
  point : FractionAt whole behind tail fraction rest
  last : ExponentAt rest exponent power

/-- The parts are at least as long as any decimal, and a decimal at this place comes with digits. -/
theorem PartsAt.decimalWithin
    (parts : PartsAt text mark whole behind tail fraction rest exponent negative power)
    {sign body otherTail otherWhole otherFraction : List Char} {otherNegative : Bool}
    {otherPower : Int} (signed : Sign sign otherNegative)
    (digits : Digits body otherWhole otherFraction) (exponentOther : Exponent otherTail otherPower)
    (front : sign ++ (body ++ otherTail) <+: text) :
    (whole ≠ [] ∨ fraction ≠ []) ∧
      (sign ++ (body ++ otherTail)).length ≤ (mark ++ (whole ++ tail ++ exponent)).length := by
  obtain ⟨here, isDigits, stops, point, last⟩ := parts
  obtain ⟨rfl, inside⟩ := here.same signed (digits.unsigned _) front
  simp only [List.length_append]
  cases digits with
  | plain otherIsDigits filled =>
      rcases runEnds otherIsDigits exponentOther.stops isDigits stops inside with
        ⟨rfl, behindOther⟩ | ⟨rfl, shorter⟩
      · refine ⟨.inl filled, ?_⟩
        rcases point.skipped exponentOther behindOther with rfl | ⟨rfl, restOther⟩
        · simp only [List.length_nil]
          omega
        · have most := last.longest exponentOther restOther
          omega
      · have most := shorter.length_le
        refine ⟨.inl fun none => filled (List.prefix_nil.mp (none ▸ shorter)), ?_⟩
        simp only [List.length_nil]
        omega
  | pointed otherIsDigits fractionIsDigits filled =>
      rw [List.append_assoc, List.cons_append] at inside
      rcases runEnds otherIsDigits (stopsOfMark (by decide) _) isDigits stops inside with
        ⟨rfl, behindOther⟩ | ⟨impossible, -⟩
      · obtain ⟨rfl, ends⟩ := point.longest fractionIsDigits filled exponentOther.stops behindOther
        simp only [List.length_append, List.length_cons]
        rcases ends with ⟨rfl, restOther⟩ | ⟨rfl, shorter⟩
        · have most := last.longest exponentOther restOther
          exact ⟨filled, by omega⟩
        · have most := shorter.length_le
          refine ⟨filled.imp_right fun some none => some (List.prefix_nil.mp (none ▸ shorter)), ?_⟩
          simp only [List.length_nil]
          omega
      · cases impossible

theorem PartsAt.within
    (parts : PartsAt text mark whole behind tail fraction rest exponent negative power)
    (noWord : ¬infinityWord <+: whole ++ behind) {otherNegative : Bool} {magnitude : Magnitude}
    (spells : Spells other otherNegative magnitude) (front : other <+: text) :
    (whole ≠ [] ∨ fraction ≠ []) ∧
      other.length ≤ (mark ++ (whole ++ tail ++ exponent)).length := by
  cases spells with
  | infinity signed => exact absurd (parts.signed.same signed unsignedWord front).2 noWord
  | decimal signed digits exponent => exact parts.decimalWithin signed digits exponent front

theorem PartsAt.front
    (parts : PartsAt text mark whole behind tail fraction rest exponent negative power) :
    mark ++ (whole ++ tail ++ exponent) <+: text := by
  rw [parts.signed.split.1, parts.point.split, List.append_assoc whole,
    List.prefix_append_right_inj, List.prefix_append_right_inj, List.prefix_append_right_inj]
  exact parts.last.spec.1

theorem PartsAt.fractionIsDigits
    (parts : PartsAt text mark whole behind tail fraction rest exponent negative power) :
    IsDigits fraction := by
  cases parts.point with
  | pointed isDigits _ _ => exact isDigits
  | none => exact isDigitsNil

theorem PartsAt.spells
    (parts : PartsAt text mark whole behind tail fraction rest exponent negative power)
    (filled : whole ≠ [] ∨ fraction ≠ []) :
    Spells (mark ++ (whole ++ tail ++ exponent)) negative
      (.finite (numberOf (whole ++ fraction) * 10 ^ (power - fraction.length))) := by
  have digits : Digits (whole ++ tail) whole fraction := by
    cases parts.point with
    | pointed isDigits _ _ => exact .pointed parts.isDigits isDigits filled
    | none =>
        have filledWhole := filled.resolve_right fun some => some rfl
        exact (List.append_nil whole).symm ▸ .plain parts.isDigits filledWhole
  exact .decimal parts.signed.split.2 digits parts.last.spec.2

/-- The literal with digits on both sides of a point spells the same number. -/
theorem literalSpells (negative : Bool) (isDigits : IsDigits whole)
    (fractionIsDigits : IsDigits fraction) (exponent : Exponent tail power) :
    Spells (literal negative whole fraction tail) negative
      (.finite (numberOf (whole ++ fraction) * 10 ^ (power - fraction.length))) := by
  have zero : digitValue '0' = 0 := rfl
  have zeroIsDigits : IsDigits ['0'] := isDigitsCons.mpr ⟨rfl, isDigitsNil⟩
  obtain ⟨wholeShown, shownWhole, wholeFilled, wholeIsDigits, sameWhole⟩ :
      ∃ shown, (if whole.isEmpty then ['0'] else whole) = shown ∧ shown ≠ [] ∧ IsDigits shown ∧
        numberOf shown = numberOf whole := by
    cases whole with
    | nil => exact ⟨_, rfl, by simp, zeroIsDigits, rfl⟩
    | cons digit more => exact ⟨_, rfl, by simp, isDigits, rfl⟩
  obtain ⟨fractionShown, shownFraction, shownIsDigits, sameValue⟩ :
      ∃ shown, (if fraction.isEmpty then ['0'] else fraction) = shown ∧ IsDigits shown ∧
        (numberOf (wholeShown ++ shown) : ℚ) * 10 ^ (power - shown.length) =
          numberOf (whole ++ fraction) * 10 ^ (power - fraction.length) := by
    cases fraction with
    | nil =>
        refine ⟨_, rfl, zeroIsDigits, ?_⟩
        simp [numberOfAppend, sameWhole, numberOfCons, zero, numberOfNil, zpow_sub₀]
        ring
    | cons digit more =>
        refine ⟨_, rfl, fractionIsDigits, ?_⟩
        simp [numberOfAppend, sameWhole]
  have shape : literal negative whole fraction tail =
      (if negative then ['-'] else []) ++ (wholeShown ++ '.' :: fractionShown ++ tail) := by
    simp only [literal, shownWhole, shownFraction, List.append_assoc, List.cons_append]
  rw [shape, ← sameValue]
  exact .decimal (signOfNegative negative)
    (.pointed wholeIsDigits shownIsDigits (.inl wholeFilled)) exponent

/-- The parts make up what is to be found: nothing without digits, and a literal with them. -/
theorem PartsAt.found
    (parts : PartsAt text mark whole behind tail fraction rest exponent negative power)
    (noWord : ¬infinityWord <+: whole ++ behind) :
    Found text (if whole.isEmpty && fraction.isEmpty then .nothing
      else .literal (literal negative whole fraction exponent)) := by
  split
  · case isTrue empty =>
      refine .nothing fun other otherNegative magnitude spells front => ?_
      obtain ⟨filled, -⟩ := parts.within noWord spells front
      simp only [Bool.and_eq_true, List.isEmpty_iff] at empty
      exact filled.elim (fun some => some empty.1) fun some => some empty.2
  · case isFalse some =>
      rw [Bool.and_eq_true, List.isEmpty_iff, List.isEmpty_iff] at some
      refine .literal (parts.spells (not_and_or.mp some)) ⟨parts.front, ?_⟩
        (literalSpells negative parts.isDigits parts.fractionIsDigits parts.last.spec.2)
      exact fun other otherNegative magnitude spells front => (parts.within noWord spells front).2

/-- Every text has parts, and the scan comes to them without cutting a character. -/
theorem partsFound (here : SignAt text mark negative unsigned)
    (noWord : ¬infinityWord <+: unsigned) :
    ∃ whole behind tail fraction rest exponent power, unsigned = whole ++ behind ∧
      PartsAt text mark whole behind tail fraction rest exponent negative power ∧
      find? text = some (if whole.isEmpty && fraction.isEmpty then .nothing
        else .literal (literal negative whole fraction exponent)) := by
  have split := here.split.1
  have cutSign := Utf8.sliceAt mark unsigned []
  rw [List.append_nil, ← split] at cutSign
  have noPrefix : infinityWord.isPrefixOf unsigned = false :=
    Bool.eq_false_iff.mpr fun word => noWord (List.isPrefixOf_iff_prefix.mp word)
  simp only [find?, here.scan, cutSign, Option.bind_some, noPrefix, Bool.false_eq_true, if_false]
  have cutWhole := Utf8.sliceAt mark (unsigned.takeWhile Char.isDigit)
    (unsigned.dropWhile Char.isDigit)
  have past := pastDigitsSpec mark unsigned
  have joined := List.takeWhile_append_dropWhile (p := Char.isDigit) (l := unsigned)
  have isDigits := isDigitsTakeWhile unsigned
  have stops := stopsDropWhile unsigned
  generalize unsigned.takeWhile Char.isDigit = whole at *
  generalize unsigned.dropWhile Char.isDigit = behind at *
  subst joined
  obtain ⟨tail, fraction, rest, point, foundPoint⟩ := fractionFound whole (mark ++ whole) behind
  obtain ⟨exponent, power, last, foundExponent⟩ := exponentFound (mark ++ whole ++ tail) rest
  rw [List.append_assoc, ← split] at foundPoint
  rw [List.append_assoc _ tail, ← point.split, List.append_assoc, ← split] at foundExponent
  rw [← split] at past cutWhole
  refine ⟨whole, behind, tail, fraction, rest, exponent, power, rfl,
    ⟨here, isDigits, stops, point, last⟩, ?_⟩
  simp only [past, cutWhole, foundPoint, foundExponent, Option.bind_some, Option.map_some]
  split <;> rfl

/-- A scan cuts no character, and it finds the longest numeral. -/
theorem findFound (text : List Char) :
    ∃ finding, find? text = some finding ∧ Found text finding := by
  obtain ⟨mark, negative, unsigned, here⟩ := signAt text
  by_cases word : infinityWord <+: unsigned
  · have cutSign := Utf8.sliceAt mark unsigned []
    rw [List.append_nil, ← here.split.1] at cutSign
    refine ⟨.infinite negative, ?_, .infinite (.infinity here.split.2) (infinityLongest here word)⟩
    simp only [find?, here.scan, cutSign, Option.bind_some, List.isPrefixOf_iff_prefix.mpr word,
      if_true]
  · obtain ⟨whole, behind, tail, fraction, rest, exponent, power, rfl, parts, found⟩ :=
      partsFound here word
    exact ⟨_, found, parts.found word⟩

/-- How the text behind the leading blanks is read. The reader of literals accepts what it is given,
so no number is lost on the way. -/
inductive IsRead (text : List Char) : Binary64 → Prop where
  | nothing (none : ∀ other negative magnitude, Spells other negative magnitude → ¬other <+: text)
      (found : find? text = some .nothing) : IsRead text .nan
  | infinite {numeral : List Char} {negative : Bool} (spells : Spells numeral negative .infinite)
      (longest : IsLongest numeral text) (found : find? text = some (.infinite negative)) :
      IsRead text (.infinity negative)
  | finite {numeral literal : List Char} {negative : Bool} {value : ℚ} {number : Binary64}
      (spells : Spells numeral negative (.finite value)) (longest : IsLongest numeral text)
      (found : find? text = some (.literal literal))
      (handed : Spells literal negative (.finite value))
      (accepted : Binary64.ofLiteral? literal = some number) (sign : number.negative = negative)
      (nearest : Binary64.NearestTo value number) : IsRead text number

theorem ofTextFound (text : String) {finding : Finding}
    (found : find? (text.toList.dropWhile isLeadingBlank) = some finding) :
    ofText text = finding.value := by
  rw [ofText, found]
  rfl

/-- The number of a text is that of the longest numeral behind its leading blanks. -/
theorem ofTextReadsLongest (text : String) :
    IsRead (text.toList.dropWhile isLeadingBlank) (ofText text) := by
  obtain ⟨finding, found, spec⟩ := findFound (text.toList.dropWhile isLeadingBlank)
  rw [ofTextFound text found]
  cases spec with
  | nothing none => exact .nothing none found
  | infinite spells longest => exact .infinite spells longest found
  | @literal numeral literal negative value spells longest handed =>
      obtain ⟨number, accepted, sign, nearest⟩ := handed.read
      have same : Finding.value (.literal literal) = number := by
        rw [Finding.value, accepted, Option.getD_some]
      rw [same]
      exact .finite spells longest found handed accepted sign nearest

end FleetPanel.Amount
