/-
This file holds the grammar of JSON texts and what each text spells: how deep its brackets nest, and
its value if every number in it is within range and every surrogate in it has its partner.
-/

import FleetPanel.Json.Reader
import FleetPanel.Proofs.Text.Digits

namespace FleetPanel.Json

open Text

def IsSpaces (text : List Char) : Prop :=
  ∀ character ∈ text, isSpace character = true

/-- The sign of an exponent, which may be left out. -/
inductive Direction where
  | unmarked
  | up
  | down
deriving DecidableEq

def Direction.text : Direction → List Char
  | unmarked => []
  | up => ['+']
  | down => ['-']

/-- The exponent of a number, with at least one digit. -/
structure Exponent where
  capital : Bool
  direction : Direction
  digits : List Char
  isDigits : IsDigits digits
  filled : digits ≠ []

def Exponent.text (exponent : Exponent) : List Char :=
  (if exponent.capital then 'E' else 'e') :: (exponent.direction.text ++ exponent.digits)

/-- A significand and an exponent as a float, if it is within range. -/
def scaled? (negative : Bool) (significand : Nat) (exponent : Int) : Option Json :=
  (scale? significand exponent).map fun number =>
    float (if negative then number.negate else number)

/-- A significand with a power of ten and perhaps an exponent on top of it. An exponent that is too
great is not counted. -/
def scaledBy? (negative : Bool) (significand : Nat) (power : Int) : Option Exponent → Option Json
  | none => scaled? negative significand power
  | some exponent =>
      let places := numberOf exponent.digits
      if greatestExponent < places then
        if significand ≠ 0 ∧ exponent.direction ≠ .down then none
        else some (float (.zero negative))
      else
        scaled? negative significand
          (if exponent.direction = .down then power - places else power + places)

/-- A number. Without a point there are no digits of a fraction. -/
structure Numeral where
  negative : Bool
  whole : List Char
  fraction : List Char
  exponent? : Option Exponent
  isDigits : IsDigits whole
  unpadded : IsUnpadded whole
  fractionIsDigits : IsDigits fraction

namespace Numeral

def fractionText : List Char → List Char
  | [] => []
  | digits => '.' :: digits

/-- A number without its sign. -/
def unsignedText (numeral : Numeral) : List Char :=
  numeral.whole ++ (fractionText numeral.fraction ++ (numeral.exponent?.map Exponent.text).getD [])

def text (numeral : Numeral) : List Char :=
  (if numeral.negative then ['-'] else []) ++ numeral.unsignedText

/-- The digits as far as they fit 64 bits, and the power of ten for them. -/
def significand (numeral : Numeral) : Nat × Int :=
  let (significand, left) := gather 0 numeral.whole
  let (significand, beyond) := gather significand numeral.fraction
  (significand, left - (numeral.fraction.length - beyond : Nat))

/-- The value of a number, if it is within range. -/
def value? (numeral : Numeral) : Option Json :=
  let (significand, power) := numeral.significand
  if numeral.fraction = [] ∧ numeral.exponent? = none ∧ power = 0 then
    some (wholeValue numeral.negative significand)
  else scaledBy? numeral.negative significand power numeral.exponent?

end Numeral

def IsHexadecimal (digit : Char) : Prop :=
  digit.isDigit = true ∨ ('a' ≤ digit ∧ digit ≤ 'f') ∨ ('A' ≤ digit ∧ digit ≤ 'F')

/-- The marks that stand for a character behind a backslash. -/
def escapeMarks : List Char :=
  ['"', '\\', '/', 'b', 'f', 'n', 'r', 't']

/-- A piece of a text between quotes: a character as it is, a mark that stands for one, or a code
unit in hexadecimal digits. -/
inductive Piece where
  | plain (character : Char) (visible : 0x20 ≤ character.toNat) (noQuote : character ≠ '"')
      (noBackslash : character ≠ '\\')
  | escape (mark : Char) (known : mark ∈ escapeMarks)
  | unit (first second third fourth : Char)
      (hexadecimal : ∀ digit ∈ [first, second, third, fourth], IsHexadecimal digit)

namespace Piece

def text : Piece → List Char
  | plain character _ _ _ => [character]
  | escape mark _ => ['\\', mark]
  | unit first second third fourth _ => ['\\', 'u', first, second, third, fourth]

/-- The character of a pair of surrogates. -/
def pairOf (leading trailing : Nat) : Char :=
  Char.ofNat (0x10000 + 0x400 * (leading - 0xD800) + (trailing - 0xDC00))

/-- The characters of some pieces, if every surrogate has its partner. -/
def content? : List Piece → Option (List Char)
  | [] => some []
  | plain character _ _ _ :: rest => (content? rest).map (character :: ·)
  | escape mark _ :: rest =>
      (content? rest).bind fun content => (escapedCharacter? mark).map (· :: content)
  | unit first second third fourth _ :: rest =>
      (codeUnit? [first, second, third, fourth]).bind fun code =>
        if isTrailing code then none
        else if isLeading code then
          match rest with
          | unit first second third fourth _ :: rest =>
              (codeUnit? [first, second, third, fourth]).bind fun next =>
                if isTrailing next then (content? rest).map (pairOf code next :: ·) else none
          | _ => none
        else (content? rest).map (Char.ofNat code :: ·)

end Piece

/-- What a text spells: how deep its brackets nest, and its value if it has one. -/
structure Reading where
  depth : Nat
  value? : Option Json

namespace Reading

/-- One bracket around what is nested this deep. -/
def depthAround (readings : List Reading) : Nat :=
  (readings.map depth).foldr max 0 + 1

def ofItems (readings : List Reading) : Reading :=
  ⟨depthAround readings, (readings.mapM value?).map array⟩

def ofMembers (members : List (List Piece × Reading)) : Reading :=
  ⟨depthAround (members.map Prod.snd),
    (members.mapM fun member =>
      (Piece.content? member.1).bind fun key =>
        member.2.value?.map fun value => (String.ofList key, value)).map Json.ofMembers⟩

end Reading

/-- A value with the space around it. -/
structure Part where
  before : List Char
  text : List Char
  after : List Char
  reading : Reading

namespace Part

def whole (part : Part) : List Char :=
  part.before ++ (part.text ++ part.after)

def IsSpaced (part : Part) : Prop :=
  IsSpaces part.before ∧ IsSpaces part.after

end Part

/-- A member of an object, with the space around its key. -/
structure Member where
  before : List Char
  key : List Piece
  after : List Char
  value : Part

/-- A text between quotes. -/
def quotedText (pieces : List Piece) : List Char :=
  '"' :: (pieces.flatMap Piece.text ++ ['"'])

namespace Member

def whole (member : Member) : List Char :=
  member.before ++ (quotedText member.key ++ (member.after ++ ':' :: member.value.whole))

def IsSpaced (member : Member) : Prop :=
  IsSpaces member.before ∧ IsSpaces member.after ∧ member.value.IsSpaced

end Member

/-- Some texts with commas between them, or some space if there are none. -/
def listed (space : List Char) : List (List Char) → List Char
  | [] => space
  | first :: others => first ++ others.flatMap (',' :: ·)

/-- The values of the grammar, with what they spell. -/
inductive Spells : List Char → Reading → Prop where
  | null : Spells ['n', 'u', 'l', 'l'] ⟨0, some .null⟩
  | true : Spells ['t', 'r', 'u', 'e'] ⟨0, some (boolean Bool.true)⟩
  | false : Spells ['f', 'a', 'l', 's', 'e'] ⟨0, some (boolean Bool.false)⟩
  | number (numeral : Numeral) : Spells numeral.text ⟨0, numeral.value?⟩
  | string (pieces : List Piece) :
      Spells (quotedText pieces)
        ⟨0, (Piece.content? pieces).map fun content => Json.string (String.ofList content)⟩
  | array {space : List Char} {items : List Part} (empty : IsSpaces space)
      (spaced : ∀ item ∈ items, item.IsSpaced)
      (spelled : ∀ item ∈ items, Spells item.text item.reading) :
      Spells ('[' :: (listed space (items.map Part.whole) ++ [']']))
        (.ofItems (items.map Part.reading))
  | object {space : List Char} {members : List Member} (empty : IsSpaces space)
      (spaced : ∀ member ∈ members, member.IsSpaced)
      (spelled : ∀ member ∈ members, Spells member.value.text member.value.reading) :
      Spells ('\x7b' :: (listed space (members.map Member.whole) ++ ['\x7d']))
        (.ofMembers (members.map fun member => (member.key, member.value.reading)))

/-- Characters that need no escape spell themselves. -/
theorem Spells.plain (text : List Char) (visible : ∀ character ∈ text,
    0x20 ≤ character.toNat ∧ character ≠ '"' ∧ character ≠ '\\') :
    Spells ('"' :: (text ++ ['"'])) ⟨0, some (.string (String.ofList text))⟩ := by
  obtain ⟨pieces, written, content⟩ : ∃ pieces : List Piece,
      pieces.flatMap Piece.text = text ∧ Piece.content? pieces = some text := by
    induction text with
    | nil => exact ⟨[], rfl, rfl⟩
    | cons character rest inductionHypothesis =>
        obtain ⟨⟨shown, noQuote, noBackslash⟩, others⟩ := List.forall_mem_cons.mp visible
        obtain ⟨pieces, written, content⟩ := inductionHypothesis others
        exact ⟨.plain character shown noQuote noBackslash :: pieces, by simp [written, Piece.text],
          by simp [Piece.content?, content]⟩
  have spells := Spells.string pieces
  rwa [quotedText, written, content] at spells

/-- A whole text that is an array of some items, with space around it. -/
def SpellsArray (text : List Char) (items : List Part) : Prop :=
  ∃ before space after, IsSpaces before ∧ IsSpaces space ∧ IsSpaces after ∧
    text = before ++ '[' :: (listed space (items.map Part.whole) ++ ']' :: after) ∧
    ∀ item ∈ items, item.IsSpaced ∧ Spells item.text item.reading

end FleetPanel.Json
