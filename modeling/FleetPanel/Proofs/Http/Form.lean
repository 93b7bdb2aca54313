/-
This file spells texts and pairs as form-encoded queries. A character stands for itself, a plus sign
for a space, and a percent sign with two digits for an octet of a character. A query is read as its
pairs, however they are spelled.
-/

import FleetPanel.Http.Query
import FleetPanel.Proofs.Text.Encoded
import Mathlib.Data.List.Forall2
import Mathlib.Data.List.TakeDrop

namespace FleetPanel.Http

open Text

/-- Octets that are written as a percent sign and two hexadecimal digits each. -/
inductive Escaped : List Char → List UInt8 → Prop where
  | nil : Escaped [] []
  | cons {high low : Char} {first second : Nat} {escapes : List Char} {octets : List UInt8}
      (highDigit : digitIn? 16 high = some first) (lowDigit : digitIn? 16 low = some second)
      (others : Escaped escapes octets) :
      Escaped ('%' :: high :: low :: escapes) (.ofNat (16 * first + second) :: octets)

/-- A form-encoded text. Every character may be written as the escapes of its octets. -/
inductive Spelled : List Char → List Char → Prop where
  | nil : Spelled [] []
  | plain {character : Char} {spelling text : List Char} (isPlain : character ∉ ['%', '+', '&'])
      (others : Spelled spelling text) : Spelled (character :: spelling) (character :: text)
  | plus {spelling text : List Char} (others : Spelled spelling text) :
      Spelled ('+' :: spelling) (' ' :: text)
  | escapes {character : Char} {escapes spelling text : List Char}
      (escaped : Escaped escapes (String.utf8EncodeChar character))
      (others : Spelled spelling text) : Spelled (escapes ++ spelling) (character :: text)

/-- A form-encoded pair. An empty value needs no equals sign. -/
inductive SpelledPair : List Char → String × String → Prop where
  | valued {key value : List Char} {pair : String × String} (noEquals : '=' ∉ key)
      (keySpelled : Spelled key pair.1.toList) (valueSpelled : Spelled value pair.2.toList) :
      SpelledPair (key ++ '=' :: value) pair
  | bare {key : List Char} {name : String} (noEquals : '=' ∉ key) (filled : key ≠ [])
      (keySpelled : Spelled key name.toList) : SpelledPair key (name, "")

/-- A form-encoded query holds its pairs with an ampersand between each two. -/
def SpelledQuery (query : List Char) (pairs : List (String × String)) : Prop :=
  ∃ parts, List.Forall₂ SpelledPair parts pairs ∧ query = ['&'].intercalate parts

variable {high low character : Char} {value : Nat} {octet : UInt8} {octets rest : List UInt8}
  {escapes spelling text part key : List Char} {pairs : List (String × String)}

/-- A text without the three marks spells itself. -/
theorem spelledItself (isPlain : text.all (· ∉ ['%', '+', '&']) = true) : Spelled text text := by
  induction text with
  | nil => exact .nil
  | cons first others inductionHypothesis =>
      rw [List.all_cons, Bool.and_eq_true, decide_eq_true_iff] at isPlain
      exact .plain isPlain.1 (inductionHypothesis isPlain.2)

theorem codeOfDigit (digit : digitIn? 16 character = some value) :
    48 ≤ character.toNat ∧ character.toNat ≤ 102 := by
  have ofCode : ∀ left right : Char, left ≤ right → left.toNat ≤ right.toNat := fun _ _ => id
  simp only [digitIn?, Option.filter_eq_some_iff] at digit
  obtain ⟨written, -⟩ := digit
  split_ifs at written with isDigit small capital
  · obtain ⟨low, high⟩ := Char.isDigit_iff_toNat.mp isDigit
    exact ⟨low, Nat.le_trans high (by decide)⟩
  · simp only [Bool.and_eq_true, decide_eq_true_eq] at small
    exact ⟨Nat.le_trans (by decide) (ofCode 'a' character small.1), ofCode character 'f' small.2⟩
  · simp only [Bool.and_eq_true, decide_eq_true_eq] at capital
    exact ⟨Nat.le_trans (by decide) (ofCode 'A' character capital.1),
      Nat.le_trans (ofCode character 'F' capital.2) (by decide)⟩

/-- A digit is one octet, from which it is read. -/
theorem octetOfDigit (digit : digitIn? 16 character = some value) :
    ∃ octet, String.utf8EncodeChar character = [octet] ∧ hexadecimal? octet = some value := by
  have code := codeOfDigit digit
  have same : character.val.toNat = character.toNat := rfl
  refine ⟨.ofNat character.toNat, ?_, ?_⟩
  · rw [String.utf8EncodeChar, same, if_pos (by omega)]
  · rw [hexadecimal?, Utf8.toNatOfSmall (by omega), Char.ofNat_toNat, digit]

theorem decodePercentPlain (notPercent : octet ≠ 0x25) :
    decodePercent (octet :: rest) = octet :: decodePercent rest := by
  cases rest with
  | nil => rfl
  | cons high others =>
      cases others with
      | nil => rfl
      | cons low others => simp [decodePercent, notPercent]

theorem decodePercentEscape {first second : UInt8} {high low : Nat}
    (highDigit : hexadecimal? first = some high) (lowDigit : hexadecimal? second = some low) :
    decodePercent (0x25 :: first :: second :: rest) =
      .ofNat (16 * high + low) :: decodePercent rest := by
  simp [decodePercent, highDigit, lowDigit]

theorem decodePercentBehind (noPercent : 0x25 ∉ octets) :
    decodePercent (octets ++ rest) = octets ++ decodePercent rest := by
  induction octets with
  | nil => rfl
  | cons first others inductionHypothesis =>
      obtain ⟨notPercent, noneLater⟩ := not_or.mp (mt List.mem_cons.mpr noPercent)
      rw [List.cons_append, decodePercentPlain (Ne.symm notPercent), inductionHypothesis noneLater]
      rfl

/-- A percent sign stands among the octets of no other character. -/
theorem noPercentOctet (notPercent : character ≠ '%') : 0x25 ∉ String.utf8EncodeChar character := by
  intro inside
  rcases Utf8.codeOfOctet character 0x25 inside with same | high
  · exact notPercent (Char.toNat_inj.mp same.symm)
  · exact absurd high (by decide)

theorem decodePercentCharacter (notPercent : character ≠ '%') (text : List Char) :
    decodePercent (Utf8.encode (character :: text)) =
      String.utf8EncodeChar character ++ decodePercent (Utf8.encode text) :=
  decodePercentBehind (noPercentOctet notPercent)

/-- Escapes are read as the octets that they spell. -/
theorem decodePercentEscaped (escaped : Escaped escapes octets) (text : List Char) :
    decodePercent (Utf8.encode (escapes ++ text)) =
      octets ++ decodePercent (Utf8.encode text) := by
  induction escaped with
  | nil => rfl
  | cons highDigit lowDigit others inductionHypothesis =>
      obtain ⟨_, highOctet, highRead⟩ := octetOfDigit highDigit
      obtain ⟨_, lowOctet, lowRead⟩ := octetOfDigit lowDigit
      have percent : String.utf8EncodeChar '%' = [0x25] := rfl
      simp only [Utf8.encode, List.cons_append, List.flatMap_cons, percent, highOctet, lowOctet,
        List.nil_append, decodePercentEscape highRead lowRead]
      exact congrArg _ inductionHypothesis

theorem digitOfEscaped (escaped : Escaped escapes octets) :
    ∀ character ∈ escapes, character = '%' ∨ (digitIn? 16 character).isSome := by
  induction escaped with
  | nil => exact List.forall_mem_nil _
  | cons highDigit lowDigit _ inductionHypothesis =>
      simp only [List.forall_mem_cons, highDigit, lowDigit]
      exact ⟨.inl trivial, .inr rfl, .inr rfl, inductionHypothesis⟩

theorem notMemEscaped (escaped : Escaped escapes octets) (notPercent : character ≠ '%')
    (noDigit : digitIn? 16 character = none) : character ∉ escapes := by
  intro inside
  rcases digitOfEscaped escaped character inside with same | isDigit
  · exact notPercent same
  · rw [noDigit] at isDigit
    cases isDigit

/-- A text with its plus signs read as spaces. -/
def spaced (text : List Char) : List Char :=
  text.map fun character => if character == '+' then ' ' else character

theorem spacedCons (notPlus : character ≠ '+') :
    spaced (character :: text) = character :: spaced text := by
  simp [spaced, notPlus]

theorem spacedPlus (text : List Char) : spaced ('+' :: text) = ' ' :: spaced text :=
  rfl

theorem spacedBehind (noPlus : '+' ∉ escapes) : spaced (escapes ++ text) = escapes ++ spaced text := by
  induction escapes with
  | nil => rfl
  | cons first others inductionHypothesis =>
      obtain ⟨notPlus, noneLater⟩ := not_or.mp (mt List.mem_cons.mpr noPlus)
      rw [List.cons_append, spacedCons (Ne.symm notPlus), inductionHypothesis noneLater]
      rfl

theorem decodePercentSpelled (spelled : Spelled spelling text) :
    decodePercent (Utf8.encode (spaced spelling)) = Utf8.encode text := by
  induction spelled with
  | nil => rfl
  | plain isPlain _ inductionHypothesis =>
      simp only [List.mem_cons, List.not_mem_nil, or_false, not_or] at isPlain
      rw [spacedCons isPlain.2.1, decodePercentCharacter isPlain.1, inductionHypothesis]
      rfl
  | plus _ inductionHypothesis =>
      rw [spacedPlus, decodePercentCharacter (by decide), inductionHypothesis]
      rfl
  | escapes escaped _ inductionHypothesis =>
      rw [spacedBehind (notMemEscaped escaped (by decide) (by decide)),
        decodePercentEscaped escaped, inductionHypothesis]
      rfl

/-- A text is read from each of its spellings. -/
theorem formTextSpelled (spelled : Spelled spelling text) :
    formText spelling = String.ofList text := by
  change String.ofList (Utf8.decodeLossy (decodePercent (Utf8.encode (spaced spelling)))) = _
  rw [decodePercentSpelled spelled, Utf8.decodeLossyEncoded]

theorem noAmpersand (spelled : Spelled spelling text) : '&' ∉ spelling := by
  induction spelled with
  | nil => exact List.not_mem_nil
  | plain isPlain _ inductionHypothesis =>
      simp only [List.mem_cons, List.not_mem_nil, or_false, not_or] at isPlain
      exact List.not_mem_cons_of_ne_of_not_mem (Ne.symm isPlain.2.2) inductionHypothesis
  | plus _ inductionHypothesis => simpa using inductionHypothesis
  | escapes escaped _ inductionHypothesis =>
      have none := notMemEscaped escaped (by decide : '&' ≠ '%') (by decide)
      simpa using ⟨none, inductionHypothesis⟩

theorem spanBehind {mark : Char} (none : mark ∉ key) (rest : List Char) :
    (key ++ rest).span (· != mark) =
      (key ++ rest.takeWhile (· != mark), rest.dropWhile (· != mark)) := by
  have passed : ∀ character ∈ key, (character != mark) = true := by
    intro character inside
    simpa using fun same : character = mark => none (same ▸ inside)
  rw [List.span_eq_takeWhile_dropWhile, List.takeWhile_append_of_pos passed,
    List.dropWhile_append_of_pos passed]

/-- A pair is read from each of its spellings. -/
theorem formPairSpelled {pair : String × String} (spelled : SpelledPair part pair) :
    formPair part = pair := by
  cases spelled with
  | @valued key value _ noEquals keySpelled valueSpelled =>
      have split : (key ++ '=' :: value).span (· != '=') = (key, '=' :: value) := by
        simpa using spanBehind noEquals ('=' :: value)
      simp only [formPair, split, List.drop_one, List.tail_cons, formTextSpelled keySpelled,
        formTextSpelled valueSpelled, String.ofList_toList]
  | bare noEquals filled keySpelled =>
      have split : part.span (· != '=') = (part, []) := by
        simpa using spanBehind noEquals []
      simp only [formPair, split, formTextSpelled keySpelled, String.ofList_toList]
      rfl

/-- A spelling of a pair can be told from what stands around it. -/
theorem separable {pair : String × String} (spelled : SpelledPair part pair) :
    part ≠ [] ∧ '&' ∉ part := by
  cases spelled with
  | valued _ keySpelled valueSpelled =>
      exact ⟨by simp, by simpa using ⟨noAmpersand keySpelled, noAmpersand valueSpelled⟩⟩
  | bare _ filled keySpelled => exact ⟨filled, noAmpersand keySpelled⟩

theorem splitOnPart {mark : Char} (none : mark ∉ part) : splitOn mark part = [part] := by
  induction part with
  | nil => rfl
  | cons first others inductionHypothesis =>
      obtain ⟨apart, noneLater⟩ := not_or.mp (mt List.mem_cons.mpr none)
      have notMark : (first == mark) = false := by simpa using Ne.symm apart
      simp [splitOn, notMark, inductionHypothesis noneLater]

theorem splitOnBehind {mark : Char} (none : mark ∉ part) (rest : List Char) :
    splitOn mark (part ++ mark :: rest) = part :: splitOn mark rest := by
  induction part with
  | nil => simp [splitOn]
  | cons first others inductionHypothesis =>
      obtain ⟨apart, noneLater⟩ := not_or.mp (mt List.mem_cons.mpr none)
      have notMark : (first == mark) = false := by simpa using Ne.symm apart
      simp [splitOn, notMark, inductionHypothesis noneLater]

/-- Parts without a mark are found again between the marks. -/
theorem splitOnIntercalate {mark : Char} {parts : List (List Char)} (filled : parts ≠ [])
    (none : ∀ part ∈ parts, mark ∉ part) : splitOn mark ([mark].intercalate parts) = parts := by
  induction parts with
  | nil => exact absurd rfl filled
  | cons first others inductionHypothesis =>
      obtain ⟨noneFirst, noneLater⟩ := List.forall_mem_cons.mp none
      cases others with
      | nil => simpa [List.intercalate] using splitOnPart noneFirst
      | cons second rest =>
          have later := inductionHypothesis (List.cons_ne_nil _ _) noneLater
          rw [List.intercalate_cons_cons, List.append_assoc]
          rw [List.singleton_append, splitOnBehind noneFirst, later]

theorem readParts {parts : List (List Char)} (spelled : List.Forall₂ SpelledPair parts pairs) :
    parts.map formPair = pairs ∧ ∀ part ∈ parts, part ≠ [] ∧ '&' ∉ part := by
  induction spelled with
  | nil => exact ⟨rfl, List.forall_mem_nil _⟩
  | cons first _ inductionHypothesis =>
      obtain ⟨read, apart⟩ := inductionHypothesis
      exact ⟨by rw [List.map_cons, formPairSpelled first, read],
        List.forall_mem_cons.mpr ⟨separable first, apart⟩⟩

/-- The pairs of a query are read from each of its spellings. -/
theorem formPairsSpelled {query : List Char} (spelled : SpelledQuery query pairs) :
    formPairs query = pairs := by
  obtain ⟨parts, spelled, rfl⟩ := spelled
  obtain ⟨read, apart⟩ := readParts spelled
  cases parts with
  | nil => exact read
  | cons first others =>
      have split := splitOnIntercalate (List.cons_ne_nil first others)
        fun part inside => (apart part inside).2
      have kept : (first :: others).filter (fun part => !part.isEmpty) = first :: others :=
        List.filter_eq_self.mpr fun part inside => by simpa using (apart part inside).1
      rw [formPairs, split, kept, read]

end FleetPanel.Http
