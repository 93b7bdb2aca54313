/-
This file shows that no octets but those of a text are read as that text. What a reader took since
the last character, with anything that it lets follow, are the octets of the character that it
reads.
-/

import FleetPanel.Proofs.Text.Encoded
import FleetPanel.Text.Raw
import Mathlib.Data.List.Basic

namespace FleetPanel.Text.Utf8

/-- The number that octets with six bits each continue. -/
def joined (value : Nat) (octets : List UInt8) : Nat :=
  octets.foldl (fun code octet => 64 * code + octet.toNat % 64) value

def IsContinuation (octet : UInt8) : Prop :=
  0x80 ≤ octet.toNat ∧ octet.toNat ≤ 0xBF

/-- Octets that a reader took since the last character, where it stands now. -/
def Awaits (taken : List UInt8) : Stand → Prop
  | .between => taken = []
  | .inside value low high left => ∀ (next : UInt8) (others : List UInt8),
      low.toNat ≤ next.toNat → next.toNat ≤ high.toNat → others.length = left →
      (∀ octet ∈ others, IsContinuation octet) →
      String.utf8EncodeChar (Char.ofNat (joined value (next :: others))) = taken ++ next :: others

/-- What a reader tells and where it stands account for the octets that it took. -/
def Accounts (taken : List UInt8) (marks : List (Option Char)) (stand : Stand) : Prop :=
  ∃ characters left, marks = characters.map some ∧ encode characters ++ left = taken ∧
    Awaits left stand

variable {octet next : UInt8} {taken octets : List UInt8} {code : Nat}

theorem ofNatOfToNat {number : Nat} (same : number = octet.toNat) : UInt8.ofNat number = octet :=
  same ▸ UInt8.ofNat_toNat

theorem codeOfChar (valid : code.isValidChar) : (Char.ofNat code).val.toNat = code := by
  rw [Char.ofNat, dif_pos valid]
  rfl

theorem encodeOne (small : code < 128) :
    String.utf8EncodeChar (Char.ofNat code) = [.ofNat code] := by
  have same : (Char.ofNat code).val.toNat = code := codeOfChar (.inl (by omega))
  simp only [String.utf8EncodeChar, same, if_pos (show code ≤ 127 by omega)]

theorem encodeTwo (least : 128 ≤ code) (most : code < 2048) :
    String.utf8EncodeChar (Char.ofNat code) =
      [.ofNat (code / 64 % 32 + 192), continuation code] := by
  have same : (Char.ofNat code).val.toNat = code := codeOfChar (.inl (by omega))
  simp only [String.utf8EncodeChar, same, if_neg (show ¬ code ≤ 127 by omega),
    if_pos (show code ≤ 2047 by omega)]
  rfl

theorem encodeThree (least : 2048 ≤ code) (most : code < 65536) (valid : code.isValidChar) :
    String.utf8EncodeChar (Char.ofNat code) =
      [.ofNat (code / 4096 % 16 + 224), continuation (code / 64), continuation code] := by
  simp only [String.utf8EncodeChar, codeOfChar valid, if_neg (show ¬ code ≤ 127 by omega),
    if_neg (show ¬ code ≤ 2047 by omega), if_pos (show code ≤ 65535 by omega)]
  rfl

theorem encodeFour (least : 65536 ≤ code) (valid : code.isValidChar) :
    String.utf8EncodeChar (Char.ofNat code) =
      [.ofNat (code / 262144 % 8 + 240), continuation (code / 4096), continuation (code / 64),
        continuation code] := by
  simp only [String.utf8EncodeChar, codeOfChar valid, if_neg (show ¬ code ≤ 127 by omega),
    if_neg (show ¬ code ≤ 2047 by omega), if_neg (show ¬ code ≤ 65535 by omega)]
  rfl

/-- The first of two octets lets any continuation follow. -/
theorem awaitsTwo (least : 0xC2 ≤ octet.toNat) (most : octet.toNat < 0xE0) :
    Awaits [octet] (.inside (octet.toNat - 0xC0) 0x80 0xBF 0) := by
  intro next others above below length _
  obtain rfl := List.eq_nil_of_length_eq_zero length
  change 128 ≤ next.toNat at above
  change next.toNat ≤ 191 at below
  rw [joined, List.foldl_cons, List.foldl_nil, encodeTwo (by omega) (by omega), continuation]
  simp only [List.singleton_append, List.cons.injEq, and_true]
  exact ⟨ofNatOfToNat (by omega), ofNatOfToNat (by omega)⟩

/-- The first of three octets lets those follow with which the code is no shorter one's and is that
of a character. -/
theorem awaitsThree {low high : UInt8} (least : 0xE0 ≤ octet.toNat) (most : octet.toNat < 0xF0)
    (atLeast : 0x80 ≤ low.toNat) (atMost : high.toNat ≤ 0xBF)
    (longest : octet.toNat = 0xE0 → 0xA0 ≤ low.toNat)
    (noSurrogate : octet.toNat = 0xED → high.toNat ≤ 0x9F) :
    Awaits [octet] (.inside (octet.toNat - 0xE0) low high 1) := by
  intro next others above below length each
  obtain ⟨last, rfl⟩ := List.length_eq_one_iff.mp length
  obtain ⟨lastAbove, lastBelow⟩ := each last (List.mem_singleton_self last)
  rw [joined, List.foldl_cons, List.foldl_cons, List.foldl_nil,
    encodeThree (by omega) (by omega) (by unfold Nat.isValidChar; omega), continuation,
    continuation]
  simp only [List.singleton_append, List.cons.injEq, and_true]
  exact ⟨ofNatOfToNat (by omega), ofNatOfToNat (by omega), ofNatOfToNat (by omega)⟩

/-- The first of four octets lets those follow with which the code is no shorter one's and is that
of a character. -/
theorem awaitsFour {low high : UInt8} (least : 0xF0 ≤ octet.toNat) (most : octet.toNat ≤ 0xF4)
    (atLeast : 0x80 ≤ low.toNat) (atMost : high.toNat ≤ 0xBF)
    (longest : octet.toNat = 0xF0 → 0x90 ≤ low.toNat)
    (noLarger : octet.toNat = 0xF4 → high.toNat ≤ 0x8F) :
    Awaits [octet] (.inside (octet.toNat - 0xF0) low high 2) := by
  intro next others above below length each
  obtain ⟨third, last, rfl⟩ := List.length_eq_two.mp length
  obtain ⟨thirdAbove, thirdBelow⟩ := each third (by simp)
  obtain ⟨lastAbove, lastBelow⟩ := each last (by simp)
  rw [joined, List.foldl_cons, List.foldl_cons, List.foldl_cons, List.foldl_nil,
    encodeFour (by omega) (by unfold Nat.isValidChar; omega), continuation, continuation,
    continuation]
  simp only [List.singleton_append, List.cons.injEq, and_true]
  exact ⟨ofNatOfToNat (by omega), ofNatOfToNat (by omega), ofNatOfToNat (by omega),
    ofNatOfToNat (by omega)⟩

/-- An octet between characters is one, or begins one, or begins nothing. -/
theorem beginSpec (octet : UInt8) :
    none ∈ (begin octet).1 ∨ Accounts [octet] (begin octet).1 (begin octet).2 := by
  have inside {stand : Stand} (awaits : Awaits [octet] stand) : Accounts [octet] [] stand :=
    ⟨[], [octet], rfl, rfl, awaits⟩
  -- A first octet with bounds of its own for the next is a case of the reader for itself.
  have three {low high : UInt8} (least : 0xE0 ≤ octet.toNat) (most : octet.toNat < 0xF0)
      (atLeast : 0x80 ≤ low.toNat) (atMost : high.toNat ≤ 0xBF)
      (longest : octet.toNat = 0xE0 → 0xA0 ≤ low.toNat)
      (noSurrogate : octet.toNat = 0xED → high.toNat ≤ 0x9F) {value : Nat}
      (same : value = octet.toNat - 0xE0) : Accounts [octet] [] (.inside value low high 1) :=
    same ▸ inside (awaitsThree least most atLeast atMost longest noSurrogate)
  have four {low high : UInt8} (least : 0xF0 ≤ octet.toNat) (most : octet.toNat ≤ 0xF4)
      (atLeast : 0x80 ≤ low.toNat) (atMost : high.toNat ≤ 0xBF)
      (longest : octet.toNat = 0xF0 → 0x90 ≤ low.toNat)
      (noLarger : octet.toNat = 0xF4 → high.toNat ≤ 0x8F) {value : Nat}
      (same : value = octet.toNat - 0xF0) : Accounts [octet] [] (.inside value low high 2) :=
    same ▸ inside (awaitsFour least most atLeast atMost longest noLarger)
  unfold begin
  simp only [beq_iff_eq]
  split_ifs with one noLead two first surrogate plain fourFirst fourPlain last
  · refine .inr ⟨[Char.ofNat octet.toNat], [], rfl, ?_, rfl⟩
    simp [encode, encodeOne one]
  · exact .inl List.mem_cons_self
  · exact .inr (inside (awaitsTwo (by omega) two))
  · exact .inr (three (by omega) (by omega) (by decide) (by decide) (fun _ => by decide)
      (by omega) (by omega))
  · exact .inr (three (by omega) (by omega) (by decide) (by decide) (by omega)
      (fun _ => by decide) (by omega))
  · exact .inr (three (by omega) (by omega) (by decide) (by decide) (by omega) (by omega) rfl)
  · exact .inr (four (by omega) (by omega) (by decide) (by decide) (fun _ => by decide)
      (by omega) (by omega))
  · exact .inr (four (by omega) (by omega) (by decide) (by decide) (by omega) (by omega) rfl)
  · exact .inr (four (by omega) (by omega) (by decide) (by decide) (by omega)
      (fun _ => by decide) (by omega))
  · exact .inl List.mem_cons_self

/-- A further octet is accounted for with those that were taken before, unless something broke. -/
theorem stepSpec {stand : Stand} (awaits : Awaits taken stand) (octet : UInt8) :
    none ∈ (step stand octet).1 ∨
      Accounts (taken ++ [octet]) (step stand octet).1 (step stand octet).2 := by
  cases stand with
  | between =>
      obtain rfl : taken = [] := awaits
      exact beginSpec octet
  | inside value low high left =>
      simp only [step]
      split
      · case isTrue fits =>
          simp only [Bool.and_eq_true, decide_eq_true_eq, UInt8.le_iff_toNat_le] at fits
          right
          cases left with
          | zero =>
              have whole := awaits octet [] fits.1 fits.2 rfl (List.forall_mem_nil _)
              refine ⟨[Char.ofNat (64 * value + octet.toNat % 64)], [], rfl, ?_, rfl⟩
              simpa [encode, joined] using whole
          | succ left =>
              refine ⟨[], taken ++ [octet], rfl, rfl, ?_⟩
              intro next others above below length each
              have whole := awaits octet (next :: others) fits.1 fits.2 (by simp [length])
                (List.forall_mem_cons.mpr ⟨⟨above, below⟩, each⟩)
              simpa [joined] using whole
      · exact .inl List.mem_cons_self

theorem noneOfBroken {marks : List (Option Char)} (broken : none ∈ marks) :
    marks.mapM id = none := by
  induction marks with
  | nil => exact nomatch broken
  | cons mark others inductionHypothesis =>
      cases mark with
      | none => rfl
      | some character =>
          have later := inductionHypothesis (by simpa using broken)
          simp [List.mapM_cons, later]

theorem someOfWhole (characters : List Char) :
    (characters.map some).mapM id = some characters := by
  induction characters with
  | nil => rfl
  | cons character others inductionHypothesis => simp [List.mapM_cons, inductionHypothesis]

/-- What is read to the end are the octets that were taken and those that followed. -/
theorem encodedOfMarks {stand : Stand} {text : List Char} (awaits : Awaits taken stand)
    (read : (marksFrom stand octets).mapM id = some text) : encode text = taken ++ octets := by
  induction octets generalizing stand taken text with
  | nil =>
      cases stand with
      | between =>
          obtain rfl : taken = [] := awaits
          obtain rfl : [] = text := Option.some.inj read
          rfl
      | inside => simp [marksFrom] at read
  | cons octet rest inductionHypothesis =>
      rw [marksFrom, List.mapM_append] at read
      · obtain ⟨before, first, read⟩ := Option.bind_eq_some_iff.mp read
        obtain ⟨later, second, read⟩ := Option.bind_eq_some_iff.mp read
        obtain rfl : before ++ later = text := Option.some.inj read
        obtain broken | ⟨characters, left, same, taken, awaits⟩ := stepSpec awaits octet
        · rw [noneOfBroken broken] at first
          cases first
        · rw [same, someOfWhole] at first
          obtain rfl := Option.some.inj first
          rw [encodeAppend, inductionHypothesis awaits second, ← List.append_assoc, taken,
            List.append_assoc]
          rfl

/-- Octets are read as a text exactly if they are the octets of the text. -/
theorem decodeIff {text : List Char} : decode? octets = some text ↔ octets = encode text := by
  constructor
  · intro read
    have awaits : Awaits [] .between := rfl
    exact (encodedOfMarks awaits read).symm
  · rintro rfl
    exact decodeEncoded text

end FleetPanel.Text.Utf8

namespace FleetPanel.RawText

/-- Only the octets of a text are that text. -/
theorem textIff {raw : RawText} {text : String} : raw.text? = some text ↔ raw = ofText text := by
  obtain ⟨octets⟩ := raw
  simp only [text?, Option.map_eq_some_iff, Text.Utf8.decodeIff, ofText, mk.injEq]
  constructor
  · rintro ⟨characters, spelled, rfl⟩
    rwa [String.toList_ofList]
  · exact fun spelled => ⟨text.toList, spelled, String.ofList_toList⟩

end FleetPanel.RawText
