/-
This file shows that a text is read back from its octets. The first octet of a character tells how
many more there are, and each of these gives six more bits of its code.
-/

import FleetPanel.Proofs.Text.Octets

namespace FleetPanel.Text.Utf8

variable {low high : UInt8} {value left code : Nat} {rest : List UInt8}

-- The bound is a numeral here, since omega does not look into the number of octets.
theorem toNatOfSmall {number : Nat} (small : number < 256) :
    (UInt8.ofNat number).toNat = number :=
  UInt8.toNat_ofNat_of_lt' small

/-- An octet of a character within ASCII is its code, and one of any other lies outside ASCII. -/
theorem codeOfOctet (character : Char) : ∀ octet ∈ String.utf8EncodeChar character,
    octet.toNat = character.toNat ∨ 128 ≤ octet.toNat := by
  have code : character.val.toNat = character.toNat := rfl
  have high {number : Nat} (least : 128 ≤ number) (small : number < 256) :
      (UInt8.ofNat number).toNat = character.toNat ∨ 128 ≤ (UInt8.ofNat number).toNat :=
    .inr (by rwa [toNatOfSmall small])
  simp only [String.utf8EncodeChar, code]
  split_ifs with ascii <;> simp only [List.forall_mem_cons]
  · exact ⟨.inl (toNatOfSmall (by omega)), List.forall_mem_nil _⟩
  · exact ⟨high (by omega) (by omega), high (by omega) (by omega), List.forall_mem_nil _⟩
  · exact ⟨high (by omega) (by omega), high (by omega) (by omega), high (by omega) (by omega),
      List.forall_mem_nil _⟩
  · exact ⟨high (by omega) (by omega), high (by omega) (by omega), high (by omega) (by omega),
      high (by omega) (by omega), List.forall_mem_nil _⟩

/-- The octet that gives the last six bits of a number. -/
def continuation (number : Nat) : UInt8 :=
  .ofNat (number % 64 + 128)

theorem toNatContinuation (number : Nat) : (continuation number).toNat = number % 64 + 128 :=
  toNatOfSmall (by omega)

/-- An octet between the bounds is taken for six more bits. -/
theorem fitsBounds (above : low.toNat ≤ code % 64 + 128) (below : code % 64 + 128 ≤ high.toNat) :
    (low ≤ continuation code && continuation code ≤ high) = true := by
  simp only [Bool.and_eq_true, decide_eq_true_eq, UInt8.le_iff_toNat_le, toNatContinuation]
  exact ⟨above, below⟩

theorem bitsOfContinuation (number : Nat) : (continuation number).toNat % 64 = number % 64 := by
  rw [toNatContinuation]
  omega

theorem marksFromNext (above : low.toNat ≤ code % 64 + 128)
    (below : code % 64 + 128 ≤ high.toNat) :
    marksFrom (.inside value low high (left + 1)) (continuation code :: rest) =
      marksFrom (.inside (64 * value + code % 64) 0x80 0xBF left) rest := by
  simp only [marksFrom, step, fitsBounds above below, bitsOfContinuation, ↓reduceIte,
    List.nil_append]

theorem marksFromLast (above : low.toNat ≤ code % 64 + 128)
    (below : code % 64 + 128 ≤ high.toNat) :
    marksFrom (.inside value low high 0) (continuation code :: rest) =
      some (Char.ofNat (64 * value + code % 64)) :: marksFrom .between rest := by
  simp only [marksFrom, step, fitsBounds above below, bitsOfContinuation, ↓reduceIte,
    List.singleton_append]

theorem marksFromBegin {octet : UInt8} {stand : Stand} (begins : begin octet = ([], stand)) :
    marksFrom .between (octet :: rest) = marksFrom stand rest := by
  simp only [marksFrom, step, begins, List.nil_append]

theorem beginOne (small : code < 128) :
    begin (.ofNat code) = ([some (Char.ofNat code)], .between) := by
  simp only [begin, toNatOfSmall (Nat.lt_trans small (by decide)), small, ↓reduceIte]

theorem beginTwo (least : 128 ≤ code) (most : code < 2048) :
    begin (.ofNat (code / 64 % 32 + 192)) = ([], .inside (code / 64) 0x80 0xBF 0) := by
  have lead : code / 64 % 32 + 192 = code / 64 + 192 := by omega
  rw [lead, begin, toNatOfSmall (by omega), if_neg (by omega), if_neg (by omega), if_pos (by omega),
    Nat.add_sub_cancel]

/-- The second of three octets has bounds of its own behind some first octets. -/
theorem beginThree (least : 2048 ≤ code) (most : code < 65536) (valid : code.isValidChar) :
    ∃ low high, begin (.ofNat (code / 4096 % 16 + 224)) = ([], .inside (code / 4096) low high 1) ∧
      low.toNat ≤ code / 64 % 64 + 128 ∧ code / 64 % 64 + 128 ≤ high.toNat := by
  have lead : code / 4096 % 16 + 224 = code / 4096 + 224 := by omega
  rw [lead, begin, toNatOfSmall (by omega), if_neg (by omega), if_neg (by omega), if_neg (by omega)]
  simp only [beq_iff_eq]
  by_cases first : code / 4096 + 224 = 0xE0
  · have zero : code / 4096 = 0 := by omega
    rw [if_pos first, zero]
    exact ⟨_, _, rfl, by simp; omega, by simp; omega⟩
  · by_cases surrogate : code / 4096 + 224 = 0xED
    · have thirteen : code / 4096 = 0xD := by omega
      rw [if_neg first, if_pos surrogate, thirteen]
      exact ⟨_, _, rfl, by simp, by simp; omega⟩
    · rw [if_neg first, if_neg surrogate, if_pos (by omega), Nat.add_sub_cancel]
      exact ⟨_, _, rfl, by simp, by simp; omega⟩

/-- The second of four octets has bounds of its own behind the least and the greatest. -/
theorem beginFour (least : 65536 ≤ code) (valid : code.isValidChar) :
    ∃ low high, begin (.ofNat (code / 262144 % 8 + 240)) =
        ([], .inside (code / 262144) low high 2) ∧
      low.toNat ≤ code / 4096 % 64 + 128 ∧ code / 4096 % 64 + 128 ≤ high.toNat := by
  have lead : code / 262144 % 8 + 240 = code / 262144 + 240 := by omega
  rw [lead, begin, toNatOfSmall (by omega), if_neg (by omega), if_neg (by omega), if_neg (by omega)]
  simp only [beq_iff_eq]
  rw [if_neg (by omega), if_neg (by omega), if_neg (by omega)]
  by_cases first : code / 262144 + 240 = 0xF0
  · have zero : code / 262144 = 0 := by omega
    rw [if_pos first, zero]
    exact ⟨_, _, rfl, by simp; omega, by simp; omega⟩
  · by_cases last : code / 262144 + 240 = 0xF4
    · have four : code / 262144 = 4 := by omega
      rw [if_neg first, if_neg (by omega), if_pos last, four]
      exact ⟨_, _, rfl, by simp, by simp; omega⟩
    · rw [if_neg first, if_pos (by omega), Nat.add_sub_cancel]
      exact ⟨_, _, rfl, by simp, by simp; omega⟩

/-- Between characters, the octets of a character are read as that character. -/
theorem marksOfCharacter (character : Char) (rest : List UInt8) :
    marksFrom .between (String.utf8EncodeChar character ++ rest) =
      some character :: marksFrom .between rest := by
  obtain ⟨code, same⟩ : ∃ code, character.val.toNat = code := ⟨_, rfl⟩
  have valid : code.isValidChar := same ▸ character.valid
  have made : character = Char.ofNat code := by rw [← same]; exact character.ofNat_toNat.symm
  have low : (0x80 : UInt8).toNat = 128 := rfl
  have high : (0xBF : UInt8).toNat = 191 := rfl
  simp only [String.utf8EncodeChar, same]
  split_ifs with one two three
  · simp only [List.singleton_append, marksFrom, step, beginOne (Nat.lt_succ_of_le one), made]
  · change marksFrom .between (_ :: continuation code :: rest) = _
    rw [marksFromBegin (beginTwo (by omega) (by omega)), marksFromLast (by omega) (by omega), made]
    congr 3
    omega
  · change marksFrom .between (_ :: continuation (code / 64) :: continuation code :: rest) = _
    obtain ⟨_, _, begins, above, below⟩ := beginThree (by omega) (by omega) valid
    rw [marksFromBegin begins, marksFromNext above below, marksFromLast (by omega) (by omega), made]
    congr 3
    omega
  · change marksFrom .between (_ :: continuation (code / 4096) :: continuation (code / 64) ::
      continuation code :: rest) = _
    obtain ⟨_, _, begins, above, below⟩ := beginFour (by omega) valid
    rw [marksFromBegin begins, marksFromNext above below, marksFromNext (by omega) (by omega),
      marksFromLast (by omega) (by omega), made]
    congr 3
    omega

theorem marksOfEncoded (text : List Char) : marks (encode text) = text.map some := by
  induction text with
  | nil => rfl
  | cons character others inductionHypothesis =>
      rw [marks, encode, List.flatMap_cons, marksOfCharacter, List.map_cons]
      exact congrArg (some character :: ·) inductionHypothesis

/-- The octets of a text are read as that text. -/
theorem decodeEncoded (text : List Char) : decode? (encode text) = some text := by
  rw [decode?, marksOfEncoded]
  induction text with
  | nil => rfl
  | cons character others inductionHypothesis => simp [inductionHypothesis]

/-- The octets of a text are read as that text, with nothing replaced. -/
theorem decodeLossyEncoded (text : List Char) : decodeLossy (encode text) = text := by
  rw [decodeLossy, marksOfEncoded, List.map_map]
  exact List.map_id text

end FleetPanel.Text.Utf8
