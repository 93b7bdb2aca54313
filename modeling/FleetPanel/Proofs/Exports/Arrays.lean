/-
This file shows which files of a JSON array are loaded. The whole text is read before any element is
looked at, so an element that has no value, or that nests too deep, fails the whole listing.
-/

import FleetPanel.Proofs.Exports.Listing
import FleetPanel.Proofs.Json.Range
import FleetPanel.Proofs.Json.Values

namespace FleetPanel.Exports

open Fleet Json

/-- Either every element of a list has a value, or some element has none. -/
theorem valuesOrNone {Element Value : Type} (valueOf? : Element → Option Value)
    (elements : List Element) :
    (∃ values, elements.mapM valueOf? = some values ∧
      elements.map valueOf? = values.map some) ∨
      elements.mapM valueOf? = none ∧ ∃ element ∈ elements, valueOf? element = none := by
  induction elements with
  | nil => exact .inl ⟨[], rfl, rfl⟩
  | cons element rest inductionHypothesis =>
      cases first : valueOf? element with
      | none => exact .inr ⟨by simp [first], element, List.mem_cons_self, first⟩
      | some value =>
          obtain ⟨values, all, same⟩ | ⟨fails, other, inside, none⟩ := inductionHypothesis
          · exact .inl ⟨value :: values, by simp [first, all], by simp [first, same]⟩
          · exact .inr ⟨by simp [first, fails], other, List.mem_cons_of_mem _ inside, none⟩

/-- The value of an element that the array around it leaves room for. -/
def elementValue? (item : Part) : Option Json :=
  item.reading.within (deepest - 1)

theorem readArrayText {text : List Char} {items : List Part} (array : SpellsArray text items) :
    (ofCharacters text).toOption = (items.mapM elementValue?).map .array := by
  obtain ⟨before, space, after, beforeSpaces, empty, afterSpaces, rfl, each⟩ := array
  have spells := Spells.array empty (fun item inside => (each item inside).1)
    (fun item inside => (each item inside).2)
  have read := ofCharactersSpec spells beforeSpaces afterSpaces
  rw [show deepest = deepest - 1 + 1 from rfl, withinOfItems, List.cons_append, List.append_assoc,
    List.singleton_append] at read
  exact read

variable {Record : Type} {format : Format Record} {content : List UInt8} {text : List Char}
  {items : List Part} {item : Part}

/-- An element without a value fails the whole listing. -/
theorem loadFailsOfUnreadable (format : Format Record) (path : String)
    (decodes : Text.Utf8.decode? content = some text) (array : SpellsArray text items)
    (inside : item ∈ items) (unreadable : elementValue? item = none) :
    ∃ error, Listing.load format path (.octets content) = .error (.notJson path error) := by
  have read := readArrayText array
  obtain ⟨elements, _, same⟩ | ⟨fails, _⟩ := valuesOrNone elementValue? items
  · have listed : none ∈ elements.map some := by
      rw [← same, ← unreadable]
      exact List.mem_map_of_mem inside
    simp at listed
  · rw [fails] at read
    cases outcome : ofCharacters text with
    | ok value => simp [outcome, Except.toOption] at read
    | error error =>
        refine ⟨error, ?_⟩
        simp [Listing.load, Listing.readFound, Listing.read, Entry.read, decodes, outcome,
          Entry.isPresent, bind, Except.bind, Except.mapError]

theorem elementOfNumber {numeral : Numeral} (isNumber : item.reading = ⟨0, numeral.value?⟩)
    (counted : numeral.IsCounted) :
    (numeral.magnitude < 10 ^ longestScale → (elementValue? item).isSome) ∧
      (10 ^ (longestScale + 1) ≤ numeral.magnitude → elementValue? item = none) := by
  rw [elementValue?, isNumber]
  exact Numeral.valueInRange counted

/-- A file that holds an array of the grammar is loaded exactly if each element has a value and
leaves room for the bracket around it. Then every element is accounted for on its own; otherwise the
listing fails as a whole. A number below 10 ^ 308 has a value, and one from 10 ^ 309 on has none. -/
theorem arrayLoadsOrFailsWhole {Record : Type} (format : Format Record) (path : String)
    {content : List UInt8} {text : List Char} {items : List Part}
    (decodes : Text.Utf8.decode? content = some text) (array : SpellsArray text items) :
    ((∃ elements listing, items.map elementValue? = elements.map some ∧
        Listing.load format path (.octets content) = .ok listing ∧
        Listing.Accounts format path elements listing) ∨
      (∃ item ∈ items, elementValue? item = none) ∧
        ∃ error, Listing.load format path (.octets content) = .error (.notJson path error)) ∧
    ∀ item ∈ items, ∀ numeral : Numeral, item.reading = ⟨0, numeral.value?⟩ → numeral.IsCounted →
      (numeral.magnitude < 10 ^ longestScale → (elementValue? item).isSome) ∧
        (10 ^ (longestScale + 1) ≤ numeral.magnitude → elementValue? item = none) := by
  refine ⟨?_, fun item _ numeral isNumber counted => elementOfNumber isNumber counted⟩
  obtain ⟨elements, all, same⟩ | ⟨_, item, inside, unreadable⟩ := valuesOrNone elementValue? items
  · left
    have isText : (Entry.octets content).read = .ok text := by rw [Entry.read, decodes]
    have read := readArrayText array
    rw [all] at read
    have isArray : ofCharacters text = .ok (.array elements) := by
      cases outcome : ofCharacters text with
      | error error => simp [outcome, Except.toOption] at read
      | ok value => simpa [outcome, Except.toOption] using read
    exact ⟨elements, _, same, Listing.loadOfHolds format path ⟨text, isText, isArray⟩,
      Listing.accountsOfElements format path elements⟩
  · exact .inr ⟨⟨item, inside, unreadable⟩,
      loadFailsOfUnreadable format path decodes array inside unreadable⟩

/-- A number of one digit. -/
def digitNumeral (digit : Char) (isDigit : digit.isDigit = true) : Numeral where
  negative := false
  whole := [digit]
  fraction := []
  exponent? := none
  isDigits := by simpa [Text.IsDigits] using isDigit
  unpadded := ⟨List.cons_ne_nil _ _, fun zero => by simpa using zero⟩
  fractionIsDigits := Text.isDigitsNil

/-- The number `1e999`. -/
def hugeNumeral : Numeral where
  negative := false
  whole := ['1']
  fraction := []
  exponent? := some ⟨false, .unmarked, ['9', '9', '9'], by simp [Text.IsDigits], by simp⟩
  isDigits := by simp [Text.IsDigits]
  unpadded := ⟨by simp, by simp⟩
  fractionIsDigits := Text.isDigitsNil

theorem hugeIsLarge : 10 ^ (longestScale + 1) ≤ hugeNumeral.magnitude := by
  have one : hugeNumeral.coefficient = 1 := by
    simp [Numeral.coefficient, hugeNumeral, Text.numberOf, Nat.ofDigitChars]
  have power : hugeNumeral.power = (longestScale + 691 : ℕ) := by decide
  rw [Numeral.magnitude, one, one_mul, power, zpow_natCast]
  exact pow_le_pow_right₀ (by norm_num) (by decide)

/-- A value without space around it. -/
def bare (text : List Char) (reading : Reading) : Part := ⟨[], text, [], reading⟩

def shown (text : String) : Part :=
  bare ('"' :: (text.toList ++ ['"'])) ⟨0, some (.string text)⟩

def digit (numeral : Numeral) : Part := bare numeral.text ⟨0, numeral.value?⟩

/-- The elements of a row that a node can be read from. -/
def rowItems : List Part :=
  [shown "n", shown "n", shown "r", digit (digitNumeral '0' rfl),
    bare ['f', 'a', 'l', 's', 'e'] ⟨0, some (.boolean false)⟩, digit (digitNumeral '2' rfl),
    digit (digitNumeral '1' rfl), shown "2026-03-01T12:00:00Z", shown "1"]

theorem bareIsSpaced (text : List Char) (reading : Reading) : (bare text reading).IsSpaced :=
  ⟨fun _ => nofun, fun _ => nofun⟩

theorem shownSpells (text : String) (visible : text.toList.all (fun character =>
    0x20 ≤ character.toNat && character != '"' && character != '\\') = true) :
    (shown text).IsSpaced ∧ Spells (shown text).text (shown text).reading := by
  refine ⟨bareIsSpaced _ _, ?_⟩
  have spells := Spells.plain text.toList (by simpa [and_assoc] using visible)
  rwa [String.ofList_toList] at spells

theorem rowSpells : ∀ item ∈ rowItems, item.IsSpaced ∧ Spells item.text item.reading := by
  have ofDigit : ∀ numeral, (digit numeral).IsSpaced ∧
      Spells (digit numeral).text (digit numeral).reading :=
    fun numeral => ⟨bareIsSpaced _ _, .number numeral⟩
  simp only [rowItems, List.forall_mem_cons]
  exact ⟨shownSpells _ (by decide), shownSpells _ (by decide), shownSpells _ (by decide),
    ofDigit _, ⟨bareIsSpaced _ _, .false⟩, ofDigit _, ofDigit _, shownSpells _ (by decide),
    shownSpells _ (by decide), nofun⟩

def lostRowText : String :=
  "[[\"n\",\"n\",\"r\",0,false,2,1,\"2026-03-01T12:00:00Z\",\"1\"],1e999]"

def lostRowItems : List Part :=
  [bare ('[' :: (listed [] (rowItems.map Part.whole) ++ [']']))
      (.ofItems (rowItems.map Part.reading)), digit hugeNumeral]

theorem lostRowSpells : SpellsArray lostRowText.toList lostRowItems := by
  refine ⟨[], [], [], fun _ => nofun, fun _ => nofun, fun _ => nofun, by decide +kernel, ?_⟩
  simp only [lostRowItems, List.forall_mem_cons]
  exact ⟨⟨bareIsSpaced _ _, .array (fun _ => nofun) (fun item inside => (rowSpells item inside).1)
    fun item inside => (rowSpells item inside).2⟩, ⟨bareIsSpaced _ _, .number _⟩, nofun⟩

/-- A number that is out of range takes the row of a node in front of it down with it. -/
theorem rowLostToNumber :
    (∃ listing, loadNodes "d" (.ofText oneRowText) = .ok listing ∧
      listing.records.length = 1) ∧
    SpellsArray lostRowText.toList lostRowItems ∧
    ∃ error, loadNodes "d" (.ofText lostRowText) = .error (.notJson (nodesPath "d") error) := by
  refine ⟨?_, lostRowSpells, ?_⟩
  · have counted : ((loadNodes "d" (.ofText oneRowText)).map fun listing =>
        listing.records.length).toOption = some 1 := by decide +kernel
    cases loads : loadNodes "d" (.ofText oneRowText) with
    | error fault => simp [loads, Except.map, Except.toOption] at counted
    | ok listing =>
        exact ⟨listing, rfl, by simpa [loads, Except.map, Except.toOption] using counted⟩
  · have decodes : Text.Utf8.decode? (Text.Utf8.encode lostRowText.toList) =
        some lostRowText.toList := by decide +kernel
    have counted : hugeNumeral.IsCounted := by
      rintro exponent ⟨rfl⟩
      decide
    have huge : digit hugeNumeral ∈ lostRowItems := by simp [lostRowItems]
    obtain ⟨⟨elements, _, same, _⟩ | ⟨_, fails⟩, numbers⟩ :=
      arrayLoadsOrFailsWhole .node (nodesPath "d") decodes lostRowSpells
    · have unread := (numbers _ huge hugeNumeral rfl counted).2 hugeIsLarge
      have inside : none ∈ elements.map some := by
        rw [← same, ← unread]
        exact List.mem_map_of_mem huge
      simp at inside
    · exact fails

end FleetPanel.Exports
