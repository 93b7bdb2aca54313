/-
This file relates positions among the octets of a text to places between its characters.
-/

import FleetPanel.Text.Utf8
import Mathlib.Tactic.SplitIfs

namespace FleetPanel.Text.Utf8

theorem encodeAppend (left right : List Char) :
    encode (left ++ right) = encode left ++ encode right :=
  List.flatMap_append

theorem lengthEncodeCons (character : Char) (text : List Char) :
    (encode (character :: text)).length = character.utf8Size + (encode text).length := by
  rw [encode, List.flatMap_cons, List.length_append, String.length_utf8EncodeChar]
  rfl

theorem codeOfAscii {character : Char} (ascii : character.toNat < 128) :
    character.toUInt8.toNat = character.toNat := by
  have code : character.val.toNat = character.toNat := rfl
  rw [Char.toUInt8, UInt32.toNat_toUInt8, code]
  omega

theorem asciiInjective {left right : Char} (leftAscii : left.toNat < 128)
    (rightAscii : right.toNat < 128) (same : left.toUInt8 = right.toUInt8) : left = right := by
  apply Char.toNat_inj.mp
  rw [← codeOfAscii leftAscii, ← codeOfAscii rightAscii, same]

theorem longerIff (before middle : List Char) :
    (encode before).length < (encode (before ++ middle)).length ↔ middle ≠ [] := by
  rw [encodeAppend, List.length_append]
  cases middle with
  | nil => simp [encode]
  | cons character others =>
      have positive := character.utf8Size_pos
      rw [lengthEncodeCons]
      exact ⟨fun _ => List.cons_ne_nil _ _, fun _ => by omega⟩

/-- A character within ASCII is its own octet. The octets of any other one begin outside ASCII. -/
theorem firstOctet (character : Char) (text : List Char) :
    ∃ octet others, encode (character :: text) = octet :: others ∧
      (character.toNat < 128 → octet = character.toUInt8 ∧ others = encode text) ∧
      (128 ≤ character.toNat → 128 ≤ octet.toNat) := by
  have code : character.val.toNat = character.toNat := rfl
  rw [encode, List.flatMap_cons]
  simp only [String.utf8EncodeChar, code]
  split_ifs with ascii
  · exact ⟨_, _, rfl, fun _ => ⟨rfl, rfl⟩, fun high => by omega⟩
  all_goals
    refine ⟨_, _, rfl, fun low => by omega, fun _ => ?_⟩
    rw [UInt8.toNat_ofNat']
    omega

theorem lengthBehindAscii (before : List Char) {character : Char} (ascii : character.toNat < 128) :
    (encode (before ++ [character])).length = (encode before).length + 1 := by
  obtain ⟨octet, others, encoded, low, -⟩ := firstOctet character []
  rw [encodeAppend, List.length_append, encoded, (low ascii).2]
  rfl

theorem octetAt (before rest : List Char) :
    (encode (before ++ rest))[(encode before).length]? = (encode rest).head? := by
  rw [encodeAppend, List.getElem?_append_right (Nat.le_refl _), Nat.sub_self, List.head?_eq_getElem?]

theorem dropOctetsAt (before rest : List Char) :
    dropOctets? (encode before).length (before ++ rest) = some rest := by
  induction before with
  | nil => cases rest <;> rfl
  | cons character others inductionHypothesis =>
      obtain ⟨more, counted⟩ : ∃ more, character.utf8Size + (encode others).length = more + 1 :=
        ⟨_, (Nat.succ_pred_eq_of_pos (Nat.add_pos_left character.utf8Size_pos _)).symm⟩
      rw [lengthEncodeCons, counted, List.cons_append, dropOctets?, ← counted,
        if_pos (Nat.le_add_right _ _), Nat.add_sub_cancel_left]
      exact inductionHypothesis

theorem takeOctetsAt (before rest : List Char) :
    takeOctets? (encode before).length (before ++ rest) = some before := by
  induction before with
  | nil => cases rest <;> rfl
  | cons character others inductionHypothesis =>
      obtain ⟨more, counted⟩ : ∃ more, character.utf8Size + (encode others).length = more + 1 :=
        ⟨_, (Nat.succ_pred_eq_of_pos (Nat.add_pos_left character.utf8Size_pos _)).symm⟩
      rw [lengthEncodeCons, counted, List.cons_append, takeOctets?, ← counted,
        if_pos (Nat.le_add_right _ _), Nat.add_sub_cancel_left, inductionHypothesis]
      rfl

/-- A cut between characters succeeds. -/
theorem sliceAt (before middle rest : List Char) :
    slice? (before ++ (middle ++ rest)) (encode before).length (encode (before ++ middle)).length =
      some middle := by
  rw [slice?, encodeAppend, List.length_append, if_pos (Nat.le_add_right _ _), dropOctetsAt,
    Option.bind_some, Nat.add_sub_cancel_left, takeOctetsAt]

end FleetPanel.Text.Utf8
