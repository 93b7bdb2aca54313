/-
This file shows that a scan finds the longest numeral at the front of a text and cuts no character.

Every position of a scan is the number of octets of the characters before it, so each part of the
scan is described on characters: what it takes, and that no other numeral goes further there.
-/

import FleetPanel.Amount.Numeral
import FleetPanel.Proofs.Amount.Numeral
import FleetPanel.Proofs.Text.Octets

namespace FleetPanel.Amount

open Text Numeral

namespace Scan

variable {rest digits behind other : List Char} {negative : Bool} {power : Int}

theorem holdsSpec (characters : List Char)
    (ascii : characters.all (·.toNat < 128) = true) (before rest : List Char) :
    holds (Utf8.encode (before ++ rest)) (Utf8.encode before).length characters = true ↔
      ∃ character ∈ characters, rest.head? = some character := by
  rw [holds, Utf8.octetAt]
  cases rest with
  | nil => simp [Utf8.encode]
  | cons first more =>
      obtain ⟨octet, others, encoded, low, high⟩ := Utf8.firstOctet first more
      rw [encoded]
      simp only [List.head?_cons, Option.any_some, List.any_eq_true, beq_iff_eq, Option.some.injEq]
      refine exists_congr fun character => and_congr_right fun listed => ?_
      have bounded := of_decide_eq_true (List.all_eq_true.mp ascii character listed)
      constructor
      · rintro rfl
        rcases Nat.lt_or_ge first.toNat 128 with small | large
        · exact Utf8.asciiInjective small bounded (low small).1.symm
        · have above := high large
          rw [Utf8.codeOfAscii bounded] at above
          omega
      · rintro rfl
        exact (low bounded).1.symm

theorem isDigitOctet {octet : UInt8} {others : List UInt8} {first : Char} {more : List Char}
    (encoded : Utf8.encode (first :: more) = octet :: others) :
    isDigit octet = first.isDigit := by
  obtain ⟨octet, others, same, low, high⟩ := Utf8.firstOctet first more
  obtain ⟨rfl, rfl⟩ := List.cons.inj (encoded.symm.trans same)
  rw [Bool.eq_iff_iff, Char.isDigit_iff_toNat, isDigit, Bool.and_eq_true, decide_eq_true_eq,
    decide_eq_true_eq, UInt8.le_iff_toNat_le, UInt8.le_iff_toNat_le]
  change 48 ≤ octet.toNat ∧ octet.toNat ≤ 57 ↔ 48 ≤ first.toNat ∧ first.toNat ≤ 57
  rcases Nat.lt_or_ge first.toNat 128 with small | large
  · rw [(low small).1, Utf8.codeOfAscii small]
  · have above := high large
    omega

theorem takeWhileOctets (text : List Char) :
    (Utf8.encode text).takeWhile isDigit = Utf8.encode (text.takeWhile Char.isDigit) := by
  induction text with
  | nil => rfl
  | cons first more inductionHypothesis =>
      obtain ⟨octet, others, encoded, low, -⟩ := Utf8.firstOctet first more
      rw [encoded, List.takeWhile_cons, List.takeWhile_cons, isDigitOctet encoded]
      split
      · case isTrue digit =>
          have small : first.toNat < 128 := by
            have most := (Char.isDigit_iff_toNat.mp digit).2
            change first.toNat ≤ 57 at most
            omega
          obtain ⟨octet', others', encoded', low', -⟩ :=
            Utf8.firstOctet first (more.takeWhile Char.isDigit)
          rw [encoded', (low small).1, (low small).2, (low' small).1, (low' small).2,
            inductionHypothesis]
      · rfl

theorem pastDigitsSpec (before rest : List Char) :
    pastDigits (Utf8.encode (before ++ rest)) (Utf8.encode before).length =
      (Utf8.encode (before ++ rest.takeWhile Char.isDigit)).length := by
  rw [pastDigits, Utf8.encodeAppend, List.drop_left, takeWhileOctets, Utf8.encodeAppend,
    List.length_append]

/-- A run of digits at the front of a text is the whole run there, unless it ends inside it. -/
theorem runEnds {run : List Char} (runIsDigits : IsDigits run) (ends : Stops behind)
    (isDigits : IsDigits digits) (stops : Stops rest) (front : run ++ behind <+: digits ++ rest) :
    run = digits ∧ behind <+: rest ∨ behind = [] ∧ run <+: digits := by
  rcases List.prefix_or_prefix_of_prefix ((List.prefix_append run behind).trans front)
    (List.prefix_append digits rest) with shorter | longer
  · obtain ⟨more, rfl⟩ := shorter
    rw [List.append_assoc, List.prefix_append_right_inj] at front
    cases more with
    | nil => exact .inl ⟨(List.append_nil run).symm, front⟩
    | cons digit more =>
        refine .inr ⟨?_, List.prefix_append _ _⟩
        cases behind with
        | nil => rfl
        | cons character others =>
            obtain ⟨rfl, -⟩ := List.cons_prefix_cons.mp front
            have isDigit := (isDigitsCons.mp (isDigitsAppend.mp isDigits).2).1
            exact absurd isDigit (by rw [ends character rfl]; decide)
  · obtain ⟨more, rfl⟩ := longer
    rw [List.append_assoc, List.prefix_append_right_inj] at front
    cases more with
    | nil => exact .inl ⟨List.append_nil digits, front⟩
    | cons digit more =>
        obtain ⟨last, rfl⟩ := front
        have isDigit := (isDigitsCons.mp (isDigitsAppend.mp runIsDigits).2).1
        exact absurd isDigit (by rw [stops digit rfl]; decide)

/-- The sign at the front of a text and what stands behind it. -/
inductive SignAt : (text mark : List Char) → (negative : Bool) → (rest : List Char) → Prop where
  | minus (rest : List Char) : SignAt ('-' :: rest) ['-'] true rest
  | plus (rest : List Char) : SignAt ('+' :: rest) ['+'] false rest
  | none {text : List Char} (notPlus : text.head? ≠ some '+') (notMinus : text.head? ≠ some '-') :
      SignAt text [] false text

theorem signAt (text : List Char) : ∃ mark negative rest, SignAt text mark negative rest := by
  by_cases minus : text.head? = some '-'
  · obtain ⟨rest, rfl⟩ := List.head?_eq_some_iff.mp minus
    exact ⟨_, _, _, .minus rest⟩
  · by_cases plus : text.head? = some '+'
    · obtain ⟨rest, rfl⟩ := List.head?_eq_some_iff.mp plus
      exact ⟨_, _, _, .plus rest⟩
    · exact ⟨_, _, _, .none plus minus⟩

variable {text mark : List Char}

theorem SignAt.split (here : SignAt text mark negative rest) :
    text = mark ++ rest ∧ Sign mark negative := by
  cases here with
  | minus => exact ⟨rfl, .minus⟩
  | plus => exact ⟨rfl, .plus⟩
  | none => exact ⟨rfl, .none⟩

theorem SignAt.read (here : SignAt text mark negative rest) :
    Binary64.Literal.sign text = (negative, rest) := by
  cases here with
  | minus => rfl
  | plus => rfl
  | none notPlus notMinus =>
      unfold Binary64.Literal.sign
      split
      · exact absurd rfl notMinus
      · exact absurd rfl notPlus
      · rfl

/-- Whatever is signed at the front of a text has the sign there. -/
theorem SignAt.same (here : SignAt text mark negative rest) {otherNegative : Bool}
    (signed : Sign other otherNegative) (unsigned : Unsigned behind)
    (front : other ++ behind <+: text) : other = mark ∧ behind <+: rest := by
  obtain ⟨last, rfl⟩ := front
  have unsignedLast : Unsigned (behind ++ last) := by
    obtain ⟨character, first, others⟩ := unsigned
    exact ⟨character, by rw [List.head?_append, first, Option.some_or], others⟩
  have found := here.read
  have split := here.split.1
  rw [List.append_assoc, signed.read unsignedLast] at found
  obtain ⟨-, rfl⟩ := Prod.mk.inj found
  rw [List.append_assoc] at split
  exact ⟨List.append_cancel_right split, List.prefix_append _ _⟩

/-- The scan takes the sign in front of a text. -/
theorem SignAt.scan (here : SignAt text mark negative rest) :
    sign (Utf8.encode text) = (negative, (Utf8.encode mark).length) := by
  have minus := holdsSpec ['-'] (by decide) [] text
  have plus := holdsSpec ['+'] (by decide) [] text
  simp only [List.nil_append, List.mem_singleton, exists_eq_left] at minus plus
  change holds (Utf8.encode text) 0 ['-'] = true ↔ _ at minus
  change holds (Utf8.encode text) 0 ['+'] = true ↔ _ at plus
  simp only [sign, minus, plus]
  cases here with
  | minus => rfl
  | plus => rfl
  | none notPlus notMinus =>
      rw [if_neg notMinus, if_neg notPlus]
      rfl

/-- The scan steps over the sign of an exponent. -/
theorem SignAt.skip (here : SignAt text mark negative rest) (before : List Char) :
    (if holds (Utf8.encode (before ++ text)) (Utf8.encode before).length ['+', '-'] then
      (Utf8.encode before).length + 1 else (Utf8.encode before).length) =
        (Utf8.encode (before ++ mark)).length := by
  have either := holdsSpec ['+', '-'] (by decide) before text
  rw [Utf8.encodeAppend before mark, List.length_append]
  cases here with
  | minus => exact if_pos (either.mpr ⟨'-', List.mem_pair.mpr (.inr rfl), rfl⟩)
  | plus => exact if_pos (either.mpr ⟨'+', List.mem_pair.mpr (.inl rfl), rfl⟩)
  | none notPlus notMinus =>
      refine if_neg (either.not.mpr ?_)
      rintro ⟨character, listed, first⟩
      rcases List.mem_pair.mp listed with rfl | rfl
      · exact notPlus first
      · exact notMinus first

/-- The point with its digits at the front of what follows the digits `whole`, if there is one that
belongs to a number. -/
inductive FractionAt (whole : List Char) : (text tail fraction rest : List Char) → Prop where
  | pointed {fraction rest : List Char} (isDigits : IsDigits fraction) (stops : Stops rest)
      (filled : whole ≠ [] ∨ fraction ≠ []) :
      FractionAt whole ('.' :: (fraction ++ rest)) ('.' :: fraction) fraction rest
  | none {text : List Char} (alone : ∀ more, text = '.' :: more → whole = [] ∧ Stops more) :
      FractionAt whole text [] [] text

variable {whole tail fraction : List Char}

theorem FractionAt.split (here : FractionAt whole text tail fraction rest) :
    text = tail ++ rest := by
  cases here <;> rfl

theorem fractionFound (whole before text : List Char) :
    ∃ tail fraction rest, FractionAt whole text tail fraction rest ∧
      fraction? (before ++ text) whole (Utf8.encode before).length =
        some (fraction, (Utf8.encode (before ++ tail)).length) := by
  have point := holdsSpec ['.'] (by decide) before text
  simp only [List.mem_singleton, exists_eq_left] at point
  simp only [fraction?, point]
  split
  · case isTrue first =>
      obtain ⟨more, rfl⟩ := List.head?_eq_some_iff.mp first
      have behind := (Utf8.lengthBehindAscii before (show '.'.toNat < 128 by decide)).symm
      have joined : before ++ '.' :: more = before ++ ['.'] ++ more := by simp
      have longer : decide ((Utf8.encode (before ++ ['.'])).length <
          (Utf8.encode (before ++ ['.'] ++ more.takeWhile Char.isDigit)).length) =
            !(more.takeWhile Char.isDigit).isEmpty := by
        rw [Bool.eq_iff_iff, decide_eq_true_eq, Utf8.longerIff, Bool.not_eq_true',
          List.isEmpty_eq_false_iff]
      rw [joined, behind, pastDigitsSpec, longer, ← joined]
      have cut := List.takeWhile_append_dropWhile (p := Char.isDigit) (l := more)
      have isDigits := isDigitsTakeWhile more
      have stops := stopsDropWhile more
      generalize more.takeWhile Char.isDigit = fraction at *
      generalize more.dropWhile Char.isDigit = rest at *
      subst cut
      split
      · case isTrue taken =>
          have filled : whole ≠ [] ∨ fraction ≠ [] := by simpa using taken
          refine ⟨_, _, _, .pointed isDigits stops filled, ?_⟩
          rw [joined, Utf8.sliceAt, List.append_assoc]
          rfl
      · case isFalse left =>
          have none : whole = [] ∧ fraction = [] := by simpa using left
          refine ⟨_, _, _, .none fun more same => ⟨none.1, ?_⟩, by rw [List.append_nil]⟩
          rw [none.2] at same
          exact (List.cons.inj same).2 ▸ stops
  · case isFalse noPoint =>
      exact ⟨_, _, _, .none fun more same => absurd (by rw [same]; rfl) noPoint, by
        rw [List.append_nil]⟩

/-- No other point with digits goes further. -/
theorem FractionAt.longest (here : FractionAt whole text tail fraction rest)
    (otherIsDigits : IsDigits other) (filled : whole ≠ [] ∨ other ≠ []) (ends : Stops behind)
    (front : '.' :: (other ++ behind) <+: text) :
    tail = '.' :: fraction ∧
      (other = fraction ∧ behind <+: rest ∨ behind = [] ∧ other <+: fraction) := by
  cases here with
  | pointed isDigits stops _ =>
      exact ⟨rfl, runEnds otherIsDigits ends isDigits stops (List.cons_prefix_cons.mp front).2⟩
  | none alone =>
      obtain ⟨last, rfl⟩ := front
      obtain ⟨noWhole, stops⟩ := alone _ rfl
      have present := filled.resolve_left fun some => some noWhole
      obtain ⟨digit, more, rfl⟩ := List.exists_cons_of_ne_nil present
      have isDigit := (isDigitsCons.mp otherIsDigits).1
      exact absurd isDigit (by rw [stops digit rfl]; decide)

/-- An exponent that follows the digits in front of a point follows them without a point. -/
theorem FractionAt.skipped (here : FractionAt whole text tail fraction rest)
    (exponent : Exponent other power) (front : other <+: text) :
    other = [] ∨ tail = [] ∧ other <+: rest := by
  cases here with
  | pointed =>
      cases exponent with
      | none => exact .inl rfl
      | marked marks _ _ _ =>
          obtain ⟨rfl, -⟩ := List.cons_prefix_cons.mp front
          exact absurd marks (by decide)
  | none => exact .inr ⟨rfl, front⟩

/-- The exponent at the front of a text, if there is one. -/
inductive ExponentAt : (text exponent : List Char) → (power : Int) → Prop where
  | marked {mark : Char} {text sign digits rest : List Char} {negative : Bool}
      (marks : mark = 'e' ∨ mark = 'E') (signed : SignAt text sign negative (digits ++ rest))
      (isDigits : IsDigits digits) (stops : Stops rest) (filled : digits ≠ []) :
      ExponentAt (mark :: text) (mark :: (sign ++ digits))
        (if negative then -numberOf digits else numberOf digits)
  | none {text : List Char} (alone : ∀ mark more sign negative rest, mark = 'e' ∨ mark = 'E' →
      text = mark :: more → SignAt more sign negative rest → Stops rest) : ExponentAt text [] 0

variable {exponent : List Char}

theorem ExponentAt.spec (here : ExponentAt text exponent power) :
    exponent <+: text ∧ Exponent exponent power := by
  cases here with
  | marked marks signed isDigits stops filled =>
      refine ⟨?_, .marked marks signed.split.2 isDigits filled⟩
      rw [signed.split.1, ← List.append_assoc]
      exact List.cons_prefix_cons.mpr ⟨rfl, List.prefix_append _ _⟩
  | none => exact ⟨List.nil_prefix, .none⟩

theorem SignAt.unique {otherMark otherRest : List Char} {otherNegative : Bool}
    (here : SignAt text mark negative rest)
    (others : SignAt text otherMark otherNegative otherRest) : rest = otherRest :=
  congrArg Prod.snd (here.read.symm.trans others.read)

theorem exponentFound (before text : List Char) :
    ∃ exponent power, ExponentAt text exponent power ∧
      exponent? (before ++ text) (Utf8.encode before).length = some exponent := by
  have marked := holdsSpec ['e', 'E'] (by decide) before text
  simp only [exponent?]
  split
  · case isTrue held =>
      obtain ⟨mark, listed, first⟩ := marked.mp held
      have marks := List.mem_pair.mp listed
      obtain ⟨more, rfl⟩ := List.head?_eq_some_iff.mp first
      have ascii : mark.toNat < 128 := by rcases marks with rfl | rfl <;> decide
      obtain ⟨sign, negative, unsigned, signed⟩ := signAt more
      have joined : before ++ mark :: more = before ++ [mark] ++ more := by simp
      have joinedSign : before ++ [mark] ++ more = before ++ [mark] ++ sign ++ unsigned := by
        rw [signed.split.1, List.append_assoc _ sign]
      rw [← Utf8.lengthBehindAscii before ascii, joined, signed.skip (before ++ [mark]), joinedSign,
        pastDigitsSpec]
      have cut := List.takeWhile_append_dropWhile (p := Char.isDigit) (l := unsigned)
      have isDigits := isDigitsTakeWhile unsigned
      have stops := stopsDropWhile unsigned
      generalize unsigned.takeWhile Char.isDigit = digits at *
      generalize unsigned.dropWhile Char.isDigit = rest at *
      subst cut
      split
      · case isTrue longer =>
          have filled := (Utf8.longerIff _ _).mp longer
          refine ⟨_, _, .marked marks signed isDigits stops filled, ?_⟩
          have cut := Utf8.sliceAt before (mark :: (sign ++ digits)) rest
          simpa using cut
      · case isFalse short =>
          have none : digits = [] := not_not.mp (mt (Utf8.longerIff _ _).mpr short)
          refine ⟨_, _, .none fun _ _ _ _ _ _ same others => ?_, rfl⟩
          obtain ⟨-, rfl⟩ := List.cons.inj same
          rw [none] at signed
          exact signed.unique others ▸ stops
  · case isFalse absent =>
      refine ⟨_, _, .none fun mark more sign negative rest marks same _ => ?_, rfl⟩
      exact absurd (marked.mpr ⟨mark, List.mem_pair.mpr marks, by rw [same]; rfl⟩) absent

/-- No other exponent goes further. -/
theorem ExponentAt.longest (here : ExponentAt text exponent power) {otherPower : Int}
    (others : Exponent other otherPower) (front : other <+: text) :
    other.length ≤ exponent.length := by
  cases others with
  | none => exact Nat.zero_le _
  | @marked otherMark otherSign otherDigits otherNegative otherMarks otherSigned otherIsDigits
      otherFilled =>
      have unsigned := unsignedOfDigits otherIsDigits otherFilled []
      rw [List.append_nil] at unsigned
      cases here with
      | @marked _ _ _ digits _ _ _ signed isDigits stops _ =>
          obtain ⟨sameSign, behind⟩ :=
            signed.same otherSigned unsigned (List.cons_prefix_cons.mp front).2
          have ends : Stops [] := nofun
          have inside := runEnds otherIsDigits ends isDigits stops (by rwa [List.append_nil])
          have shorter : otherDigits.length ≤ digits.length := by
            rcases inside with ⟨same, -⟩ | ⟨-, same⟩
            · exact same ▸ le_rfl
            · exact same.length_le
          simp only [sameSign, List.length_cons, List.length_append]
          omega
      | none alone =>
          obtain ⟨last, rfl⟩ := front
          obtain ⟨sign, negative, rest, signed⟩ := signAt (otherSign ++ otherDigits ++ last)
          obtain ⟨-, behind⟩ := signed.same otherSigned unsigned (List.prefix_append _ _)
          obtain ⟨digit, more, rfl⟩ := List.exists_cons_of_ne_nil otherFilled
          obtain ⟨end', rfl⟩ := behind
          have stops := alone _ _ _ _ _ otherMarks rfl signed
          have isDigit := (isDigitsCons.mp otherIsDigits).1
          exact absurd isDigit (by rw [stops digit rfl]; decide)

end Scan

end FleetPanel.Amount
