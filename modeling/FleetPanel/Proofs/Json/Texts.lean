/-
This file shows that every text between quotes of the grammar is read to its end: it gives its
characters if every surrogate in it has its partner, and fails otherwise.
-/

import FleetPanel.Proofs.Json.Numbers

namespace FleetPanel.Json

variable {sofar rest : List Char} {first second third fourth : Char} {code : Nat}

theorem valueOfHexadecimal {digit : Char} (hexadecimal : IsHexadecimal digit) :
    ∃ value, Text.digitIn? 16 digit = some value := by
  have ofCode : ∀ left right : Char, left ≤ right → left.toNat ≤ right.toNat := fun _ _ => id
  have notDigit : '9'.toNat < digit.toNat → digit.isDigit = false := by
    intro beyond
    by_contra isDigit
    exact Nat.not_le.mpr beyond (Char.isDigit_iff_toNat.mp (by simpa using isDigit)).2
  rcases hexadecimal with isDigit | small | capital
  · obtain ⟨below, code⟩ := Text.digitValueSpec isDigit
    refine ⟨digit.toNat - 0x30, ?_⟩
    simp only [Text.digitIn?, isDigit, ↓reduceIte]
    exact Option.filter_eq_some_iff.mpr ⟨rfl, by simp; omega⟩
  · have low : 97 ≤ digit.toNat := ofCode 'a' digit small.1
    have high : digit.toNat ≤ 102 := ofCode digit 'f' small.2
    refine ⟨digit.toNat - 0x57, ?_⟩
    simp only [Text.digitIn?, notDigit (show 57 < digit.toNat by omega), small]
    exact Option.filter_eq_some_iff.mpr ⟨rfl, by simp; omega⟩
  · have low : 65 ≤ digit.toNat := ofCode 'A' digit capital.1
    have high : digit.toNat ≤ 70 := ofCode digit 'F' capital.2
    have notSmall : ¬ 'a' ≤ digit := fun small => by
      have : 97 ≤ digit.toNat := ofCode 'a' digit small
      omega
    refine ⟨digit.toNat - 0x37, ?_⟩
    simp only [Text.digitIn?, notDigit (show 57 < digit.toNat by omega), notSmall, capital]
    exact Option.filter_eq_some_iff.mpr ⟨rfl, by simp; omega⟩

/-- Four hexadecimal digits are a code unit. -/
theorem codeUnitOfHexadecimal
    (hexadecimal : ∀ digit ∈ [first, second, third, fourth], IsHexadecimal digit) :
    ∃ code, codeUnit? [first, second, third, fourth] = some code := by
  obtain ⟨a, firstValue⟩ := valueOfHexadecimal (hexadecimal first (by simp))
  obtain ⟨b, secondValue⟩ := valueOfHexadecimal (hexadecimal second (by simp))
  obtain ⟨c, thirdValue⟩ := valueOfHexadecimal (hexadecimal third (by simp))
  obtain ⟨d, fourthValue⟩ := valueOfHexadecimal (hexadecimal fourth (by simp))
  exact ⟨_, by simp [codeUnit?, Text.numberIn?, firstValue, secondValue, thirdValue, fourthValue]
               rfl⟩

theorem notTrailingOfLeading (leading : isLeading code = true) : isTrailing code = false := by
  simp only [isLeading, isTrailing, Bool.and_eq_true, decide_eq_true_eq] at leading ⊢
  simp only [Bool.and_eq_false_iff, decide_eq_false_iff_not]
  omega

theorem readPlain {character : Char} (visible : 0x20 ≤ character.toNat)
    (noQuote : character ≠ '"') (noBackslash : character ≠ '\\') :
    readText sofar (character :: rest) = readText (character :: sofar) rest := by
  rw [readText]
  · rw [if_neg (Nat.not_lt.mpr visible)]
  all_goals simp_all

theorem readEscape (sofar rest : List Char) {mark : Char} (known : mark ∈ escapeMarks) :
    ∃ character, escapedCharacter? mark = some character ∧
      readText sofar ('\\' :: mark :: rest) = readText (character :: sofar) rest := by
  simp only [escapeMarks, List.mem_cons, List.not_mem_nil, or_false] at known
  rcases known with rfl | rfl | rfl | rfl | rfl | rfl | rfl | rfl <;>
    exact ⟨_, rfl, by simp [readText, escapedCharacter?]⟩

theorem readTrailing (unit : codeUnit? [first, second, third, fourth] = some code)
    (trailing : isTrailing code = true) :
    (readText sofar ('\\' :: 'u' :: first :: second :: third :: fourth :: rest)).toOption =
      none := by
  simp [readText, unit, trailing]

theorem readSingle (unit : codeUnit? [first, second, third, fourth] = some code)
    (notTrailing : isTrailing code = false) (notLeading : isLeading code = false) :
    readText sofar ('\\' :: 'u' :: first :: second :: third :: fourth :: rest) =
      readText (Char.ofNat code :: sofar) rest := by
  simp [readText, unit, notTrailing, notLeading]

theorem readPair {a b c d : Char} {next : Nat}
    (unit : codeUnit? [first, second, third, fourth] = some code)
    (leading : isLeading code = true) (other : codeUnit? [a, b, c, d] = some next)
    (trailing : isTrailing next = true) :
    readText sofar ('\\' :: 'u' :: first :: second :: third :: fourth ::
        '\\' :: 'u' :: a :: b :: c :: d :: rest) =
      readText (Piece.pairOf code next :: sofar) rest := by
  simp [readText, unit, notTrailingOfLeading leading, leading, other, trailing, Piece.pairOf]

/-- A leading surrogate that no trailing one follows ends the reading. -/
theorem readUnpaired (unit : codeUnit? [first, second, third, fourth] = some code)
    (leading : isLeading code = true) (pieces : List Piece)
    (unpaired : ∀ a b c d hexadecimal others, pieces = .unit a b c d hexadecimal :: others →
      ∀ next, codeUnit? [a, b, c, d] = some next → isTrailing next = false) :
    (readText sofar ('\\' :: 'u' :: first :: second :: third :: fourth ::
      (pieces.flatMap Piece.text ++ '"' :: rest))).toOption = none := by
  have notTrailing := notTrailingOfLeading leading
  match pieces with
  | [] => simp [readText, unit, notTrailing, leading]
  | .plain character visible noQuote noBackslash :: others =>
      simp [readText, unit, notTrailing, leading, Piece.text, noBackslash]
  | .escape mark known :: others =>
      simp only [escapeMarks, List.mem_cons, List.not_mem_nil, or_false] at known
      rcases known with rfl | rfl | rfl | rfl | rfl | rfl | rfl | rfl <;>
        simp [readText, unit, notTrailing, leading, Piece.text]
  | .unit a b c d hexadecimal :: others =>
      obtain ⟨next, other⟩ := codeUnitOfHexadecimal hexadecimal
      have alone := unpaired a b c d hexadecimal others rfl next other
      simp [readText, unit, notTrailing, leading, Piece.text, other, alone]

/-- What reading some pieces up to the closing quote gives. -/
def ReadsPieces (pieces : List Piece) (rest : List Char) : Prop :=
  ∀ sofar, (readText sofar (pieces.flatMap Piece.text ++ '"' :: rest)).toOption =
    (Piece.content? pieces).map fun content => (String.ofList (sofar.reverse ++ content), rest)

/-- A leading surrogate makes one character with a trailing one. -/
theorem readLeading (unit : codeUnit? [first, second, third, fourth] = some code)
    (leading : isLeading code = true)
    (hexadecimal : ∀ digit ∈ [first, second, third, fourth], IsHexadecimal digit)
    (pieces : List Piece)
    (behindPair : ∀ a b c d digits more, pieces = .unit a b c d digits :: more →
      ReadsPieces more rest) :
    ReadsPieces (.unit first second third fourth hexadecimal :: pieces) rest := by
  intro sofar
  change (readText sofar ('\\' :: 'u' :: first :: second :: third :: fourth ::
    (pieces.flatMap Piece.text ++ '"' :: rest))).toOption = _
  rw [Piece.content?, unit, Option.bind_some]
  simp only [notTrailingOfLeading leading, leading, Bool.false_eq_true, ↓reduceIte]
  cases pieces with
  | nil => rw [readUnpaired unit leading] <;> simp
  | cons piece more =>
      cases piece with
      | plain | escape => rw [readUnpaired unit leading] <;> simp
      | unit a b c d digits =>
          obtain ⟨next, other⟩ := codeUnitOfHexadecimal digits
          cases trails : isTrailing next with
          | true =>
              have paired := behindPair a b c d digits more rfl (Piece.pairOf code next :: sofar)
              change (readText sofar ('\\' :: 'u' :: first :: second :: third :: fourth ::
                '\\' :: 'u' :: a :: b :: c :: d ::
                  (more.flatMap Piece.text ++ '"' :: rest))).toOption = _
              rw [readPair unit leading other trails, paired]
              cases content : Piece.content? more <;> simp [other, trails, content]
          | false =>
              rw [readUnpaired unit leading (.unit a b c d digits :: more)]
              · simp [other, trails]
              · rintro _ _ _ _ _ _ same code found
                obtain ⟨⟨rfl, rfl, rfl, rfl⟩, rfl⟩ := by simpa using same
                exact Option.some.inj (other.symm.trans found) ▸ trails

/-- Pieces up to the closing quote are read to their end. -/
theorem readTextSpec (pieces : List Piece) (rest : List Char) : ReadsPieces pieces rest := by
  induction pieces using Piece.content?.induct with
  | case1 =>
      intro sofar
      simp [readTextClosed, Piece.content?]
  | case2 character visible noQuote noBackslash others inductionHypothesis =>
      intro sofar
      change (readText sofar (character :: (others.flatMap Piece.text ++ '"' :: rest))).toOption = _
      rw [readPlain visible noQuote noBackslash, inductionHypothesis, Piece.content?,
        Option.map_map]
      simp [Function.comp_def]
  | case3 mark known others inductionHypothesis =>
      intro sofar
      obtain ⟨character, escaped, read⟩ :=
        readEscape sofar (others.flatMap Piece.text ++ '"' :: rest) known
      change (readText sofar ('\\' :: mark :: (others.flatMap Piece.text ++ '"' :: rest))).toOption =
        _
      rw [read, inductionHypothesis, Piece.content?, escaped]
      cases Piece.content? others <;> simp
  | case4 first second third fourth hexadecimal others pairHypothesis inductionHypothesis =>
      obtain ⟨code, unit⟩ := codeUnitOfHexadecimal hexadecimal
      cases leading : isLeading code with
      | true =>
          refine readLeading unit leading hexadecimal others fun a b c d digits more split => ?_
          subst split
          exact pairHypothesis
      | false =>
          intro sofar
          change (readText sofar ('\\' :: 'u' :: first :: second :: third :: fourth ::
            (others.flatMap Piece.text ++ '"' :: rest))).toOption = _
          rw [Piece.content?, unit, Option.bind_some]
          cases trailing : isTrailing code with
          | true => simp [readTrailing unit trailing]
          | false =>
              rw [readSingle unit trailing leading, inductionHypothesis]
              cases Piece.content? others <;> simp [leading]

end FleetPanel.Json
