/-
This file shows that the text of a value is read back as the value, as long as it holds no float and
its brackets nest no deeper than they may.
-/

import FleetPanel.Json.Compact
import FleetPanel.Proofs.Json.Members
import FleetPanel.Proofs.Json.Values

namespace FleetPanel.Json

open Text

/-- An integer that is read as one. -/
def FitsInteger (value : Int) : Prop :=
  -(2 ^ 63) ≤ value ∧ value < 2 ^ 64

/-- A value without floats, whose members ascend and whose brackets nest no deeper than `depth`. -/
inductive Exact : Nat → Json → Prop where
  | null (depth : Nat) : Exact depth .null
  | boolean (depth : Nat) (value : Bool) : Exact depth (.boolean value)
  | integer (depth : Nat) {value : Int} (fits : FitsInteger value) : Exact depth (.integer value)
  | string (depth : Nat) (text : String) : Exact depth (.string text)
  | array {depth : Nat} {items : List Json} (exact : ∀ item ∈ items, Exact depth item) :
      Exact (depth + 1) (.array items)
  | object {depth : Nat} {members : List (String × Json)} (sorted : Sorted members)
      (exact : ∀ member ∈ members, Exact depth member.2) : Exact (depth + 1) (.object members)

variable {value : Json} {depth : Nat}

/-- An object of exact members is exact. -/
theorem exactOfMembers {members : List (String × Json)}
    (exact : ∀ member ∈ members, Exact depth member.2) : Exact (depth + 1) (ofMembers members) := by
  obtain ⟨sorted, made, ascends⟩ := sortedOfMembers members
  rw [made]
  refine .object ascends fun member inside => ?_
  obtain rfl := object.inj made
  rcases memOfInserted inside with inside | nothing
  · exact exact member inside
  · exact nomatch nothing

theorem hexadecimalDigit : ∀ value < 16, IsHexadecimal (Nat.digitChar value) := by
  unfold IsHexadecimal
  decide

/-- The digits of a control character are its code unit. -/
theorem unitOfControl : ∀ code < 0x20,
    codeUnit? ['0', '0', Nat.digitChar (code / 16), Nat.digitChar (code % 16)] = some code := by
  decide

theorem hexadecimalOfControl {code : Nat} (control : code < 0x20) :
    ∀ digit ∈ ['0', '0', Nat.digitChar (code / 16), Nat.digitChar (code % 16)],
      IsHexadecimal digit := by
  have zero : IsHexadecimal '0' := .inl rfl
  have high := hexadecimalDigit (code / 16) (by omega)
  have low := hexadecimalDigit (code % 16) (by omega)
  simp [zero, high, low]

/-- A character is written as one piece that stands for it. -/
theorem pieceOfCharacter (character : Char) :
    ∃ piece : Piece, piece.text = escaped character ∧
      ∀ rest, Piece.content? (piece :: rest) = (Piece.content? rest).map (character :: ·) := by
  have ofMark : ∀ mark, mark ∈ escapeMarks → escapedCharacter? mark = some character →
      escaped character = ['\\', mark] → ∃ piece : Piece, piece.text = escaped character ∧
        ∀ rest, Piece.content? (piece :: rest) = (Piece.content? rest).map (character :: ·) := by
    intro mark known denotes written
    refine ⟨.escape mark known, written.symm, fun rest => ?_⟩
    rw [Piece.content?, denotes]
    cases Piece.content? rest <;> rfl
  unfold escaped at *
  split at *
  · exact ofMark '"' (by decide) rfl rfl
  · exact ofMark '\\' (by decide) rfl rfl
  · exact ofMark 'b' (by decide) rfl rfl
  · exact ofMark 'f' (by decide) rfl rfl
  · exact ofMark 'n' (by decide) rfl rfl
  · exact ofMark 'r' (by decide) rfl rfl
  · exact ofMark 't' (by decide) rfl rfl
  · case h_8 noQuote noBackslash _ _ _ _ _ =>
      by_cases control : character.toNat < 0x20
      · have unit := unitOfControl _ control
        refine ⟨.unit _ _ _ _ (hexadecimalOfControl control), by simp [Piece.text, control],
          fun rest => ?_⟩
        have single : isTrailing character.toNat = false ∧ isLeading character.toNat = false := by
          constructor <;> simp [isTrailing, isLeading] <;> omega
        rw [Piece.content?, unit, Option.bind_some, single.1, single.2]
        simp
      · refine ⟨.plain character (Nat.not_lt.mp control) noQuote noBackslash, ?_, fun rest => ?_⟩
        · simp [Piece.text, control]
        · rw [Piece.content?]

/-- A text is written as pieces that stand for its characters. -/
theorem piecesOfText (text : List Char) :
    ∃ pieces : List Piece, pieces.flatMap Piece.text = text.flatMap escaped ∧
      Piece.content? pieces = some text := by
  induction text with
  | nil => exact ⟨[], rfl, rfl⟩
  | cons character rest inductionHypothesis =>
      obtain ⟨pieces, written, content⟩ := inductionHypothesis
      obtain ⟨piece, pieceWritten, stands⟩ := pieceOfCharacter character
      exact ⟨piece :: pieces, by simp [written, pieceWritten], by simp [stands, content]⟩

theorem quotedPieces (text : String) :
    ∃ pieces, quotedText pieces = quoted text ∧ Piece.content? pieces = some text.toList := by
  obtain ⟨pieces, written, content⟩ := piecesOfText text.toList
  exact ⟨pieces, by simp [quotedText, quoted, written], content⟩

/-- Digits that fit 64 bits are all gathered. -/
theorem gatherAll {digits : List Char} {start : Nat}
    (fits : Nat.ofDigitChars 10 digits start < UInt64.size) :
    gather start digits = (Nat.ofDigitChars 10 digits start, 0) := by
  induction digits generalizing start with
  | nil => rfl
  | cons digit rest inductionHypothesis =>
      rw [Nat.ofDigitChars_cons] at fits ⊢
      have grows := ofDigitCharsFrom (10 * start + (digit.toNat - '0'.toNat)) rest
      have inside : 10 * start + (digit.toNat - '0'.toNat) < UInt64.size := by
        refine lt_of_le_of_lt ?_ (grows ▸ fits)
        exact le_add_right (Nat.le_mul_of_pos_right _ (Nat.pow_pos (by decide)))
      rw [gather, if_pos inside, inductionHypothesis fits]

/-- An integer is written as a number of the grammar. -/
theorem numeralOfInteger {value : Int} (fits : FitsInteger value) :
    ∃ numeral : Numeral, numeral.text = integerText value ∧
      numeral.value? = some (.integer value) := by
  obtain ⟨low, high⟩ := fits
  have denotes := numberOfToDigits value.natAbs
  rw [numberOf] at denotes
  have gathered : gather 0 (Nat.toDigits 10 value.natAbs) = (value.natAbs, 0) := by
    rw [gatherAll, denotes]
    rw [denotes, UInt64.size]
    omega
  refine ⟨⟨value < 0, Nat.toDigits 10 value.natAbs, [], none, isDigitsToDigits _,
    unpaddedToDigits _, isDigitsNil⟩, ?_, ?_⟩
  · simp [Numeral.text, Numeral.unsignedText, Numeral.fractionText, integerText]
  · have whole : wholeValue (value < 0) value.natAbs = .integer value := by
      by_cases below : value < 0
      · have small : ¬ UInt64.size / 2 < value.natAbs := by
          rw [UInt64.size]
          omega
        have filled : value.natAbs ≠ 0 := by omega
        simp only [wholeValue, below, decide_true, Bool.not_true, Bool.false_eq_true, ↓reduceIte,
          small, filled, decide_false, Bool.or_false]
        congr 1
        omega
      · simp only [wholeValue, below, decide_false, Bool.not_false, ↓reduceIte]
        congr 1
        omega
    simp [Numeral.value?, Numeral.significand, gathered, gather, whole]

theorem itemsListed (items : List Json) :
    itemCharacters items = listed [] (items.map characters) := by
  induction items with
  | nil => rfl
  | cons item rest inductionHypothesis =>
      cases rest with
      | nil => simp [itemCharacters, listed]
      | cons next others =>
          rw [itemCharacters, inductionHypothesis]
          · simp [listed]
          · simp

/-- What a member is written as. -/
def memberText (member : String × Json) : List Char :=
  quoted member.1 ++ ':' :: member.2.characters

theorem membersListed (members : List (String × Json)) :
    memberCharacters members = listed [] (members.map memberText) := by
  induction members with
  | nil => rfl
  | cons member rest inductionHypothesis =>
      cases rest with
      | nil => simp [memberCharacters, listed, memberText]
      | cons next others =>
          rw [memberCharacters, inductionHypothesis]
          · simp [listed, memberText]
          · simp

/-- The text of a value spells what is read from it within a depth. -/
def IsReadAs (depth : Nat) (value read : Json) : Prop :=
  ∃ reading, Spells value.characters reading ∧ reading.within depth = some read

/-- The text of a value spells it within a depth. -/
def IsSpelled (depth : Nat) (value : Json) : Prop :=
  IsReadAs depth value value

theorem isSpelledOfScalar {value : Json} (spells : Spells value.characters ⟨0, some value⟩)
    (depth : Nat) : IsSpelled depth value :=
  ⟨_, spells, if_pos (Nat.zero_le depth)⟩

/-- Values that are spelled are the items of an array of the grammar. -/
theorem partsOfItems {items : List Json} (spelled : ∀ item ∈ items, IsSpelled depth item) :
    ∃ parts : List Part, parts.map Part.whole = items.map characters ∧
      (∀ part ∈ parts, part.IsSpaced ∧ Spells part.text part.reading) ∧
      (parts.mapM fun part : Part => part.reading.within depth) = some items := by
  induction items with
  | nil => exact ⟨[], rfl, nofun, rfl⟩
  | cons item rest inductionHypothesis =>
      obtain ⟨⟨reading, spells, within⟩, others⟩ := List.forall_mem_cons.mp spelled
      obtain ⟨parts, written, spaced, values⟩ := inductionHypothesis others
      refine ⟨⟨[], item.characters, [], reading⟩ :: parts, ?_, ?_, ?_⟩
      · simp [written, Part.whole]
      · exact List.forall_mem_cons.mpr ⟨⟨⟨spacesNil, spacesNil⟩, spells⟩, spaced⟩
      · simp [List.mapM_cons, within, values]

/-- Two members have the same key, and from the text of one value the other is read. -/
def MemberReadAs (depth : Nat) (member read : String × Json) : Prop :=
  member.1 = read.1 ∧ IsReadAs depth member.2 read.2

/-- Members with values that are read are the members of an object of the grammar. -/
theorem writtenMembers {members read : List (String × Json)}
    (reads : List.Forall₂ (MemberReadAs depth) members read) :
    ∃ written : List Member, written.map Member.whole = members.map memberText ∧
      (∀ member ∈ written, member.IsSpaced ∧ Spells member.value.text member.value.reading) ∧
      written.mapM (Member.value? fun part => part.reading.within depth) = some read := by
  induction reads with
  | nil => exact ⟨[], rfl, nofun, rfl⟩
  | @cons member other members others reads _ inductionHypothesis =>
      obtain ⟨key, value⟩ := member
      obtain ⟨otherKey, otherValue⟩ := other
      obtain ⟨rfl, reading, spells, within⟩ := reads
      obtain ⟨written, same, spaced, values⟩ := inductionHypothesis
      obtain ⟨pieces, keyWritten, content⟩ := quotedPieces key
      refine ⟨⟨[], pieces, [], ⟨[], value.characters, [], reading⟩⟩ :: written, ?_, ?_, ?_⟩
      · simp [same, Member.whole, Part.whole, memberText, keyWritten]
      · exact List.forall_mem_cons.mpr
          ⟨⟨⟨spacesNil, spacesNil, spacesNil, spacesNil⟩, spells⟩, spaced⟩
      · simp [List.mapM_cons, Member.value?, content, within, values]

/-- The text of an object is read as an object, whose members are put in their order. -/
theorem objectReadAs {members read : List (String × Json)}
    (reads : List.Forall₂ (MemberReadAs depth) members read) :
    IsReadAs (depth + 1) (.object members) (ofMembers read) := by
  obtain ⟨parts, written, spelled, values⟩ := writtenMembers reads
  refine ⟨_, ?_, (withinOfMembers parts depth).trans (by rw [values, Option.map_some])⟩
  rw [characters, membersListed, ← written]
  exact .object spacesNil (fun part inside => (spelled part inside).1)
    fun part inside => (spelled part inside).2

/-- Every exact value is spelled by its text. -/
theorem spelledOfExact (exact : Exact depth value) : IsSpelled depth value := by
  induction exact with
  | null depth => exact isSpelledOfScalar (by simpa [characters] using Spells.null) depth
  | boolean depth value =>
      cases value with
      | true => exact isSpelledOfScalar (by simpa [characters] using Spells.true) depth
      | false => exact isSpelledOfScalar (by simpa [characters] using Spells.false) depth
  | integer depth fits =>
      obtain ⟨numeral, written, denotes⟩ := numeralOfInteger fits
      refine isSpelledOfScalar ?_ depth
      rw [characters, ← written, ← denotes]
      exact .number numeral
  | string depth text =>
      obtain ⟨pieces, written, content⟩ := quotedPieces text
      have spells := Spells.string pieces
      rw [written, content, Option.map_some, String.ofList_toList] at spells
      exact isSpelledOfScalar (by rwa [characters]) depth
  | @array depth items exact inductionHypothesis =>
      obtain ⟨parts, written, spelled, values⟩ := partsOfItems inductionHypothesis
      refine ⟨_, ?_, (withinOfItems parts depth).trans (by rw [values]; rfl)⟩
      rw [characters, itemsListed, ← written]
      exact .array spacesNil (fun part inside => (spelled part inside).1)
        fun part inside => (spelled part inside).2
  | @object depth members sorted exact inductionHypothesis =>
      have reads : List.Forall₂ (MemberReadAs depth) members members :=
        List.forall₂_same.mpr fun member inside => ⟨rfl, inductionHypothesis member inside⟩
      have spelled := objectReadAs reads
      rwa [ofMembersSorted sorted] at spelled

theorem readSpelled {read : Json} (reads : IsReadAs deepest value read) :
    ofText value.compact = .ok read := by
  obtain ⟨reading, spells, within⟩ := reads
  have heard := ofCharactersSpec spells spacesNil spacesNil
  rw [List.nil_append, List.append_nil, within] at heard
  rw [ofText, compact, String.toList_ofList]
  cases outcome : ofCharacters value.characters with
  | error fault => simp [outcome, Except.toOption] at heard
  | ok other =>
      obtain rfl : other = read := by simpa [outcome, Except.toOption] using heard
      rfl

/-- An exact value is read back from its text. -/
theorem readCompact (exact : Exact deepest value) : ofText value.compact = .ok value :=
  readSpelled (spelledOfExact exact)

end FleetPanel.Json
