/-
This file shows that every value of the grammar is read to its end: it gives its value if its
brackets nest no deeper than they may and it has a value, and fails otherwise.
-/

import FleetPanel.Proofs.Json.Texts
import Mathlib.Data.List.DropRight

namespace FleetPanel.Json

/-- The value of a reading whose brackets nest no deeper than they may. -/
def Reading.within (depth : Nat) (reading : Reading) : Option Json :=
  if reading.depth ≤ depth then reading.value? else none

/-- A reader takes a text as the value that it spells, whatever stands behind. -/
def Takes (item : Reader Json) (text : List Char) (value? : Option Json) : Prop :=
  ∀ rest, Bounded rest → (item (text ++ rest)).toOption = value?.map (·, rest)

def IgnoresSpace (item : Reader Json) : Prop :=
  ∀ text, item (dropSpace text) = item text

/-- A text that begins a value begins with a character that is no space and closes no list. -/
def Begins (text : List Char) : Prop :=
  ∃ first more, text = first :: more ∧ isSpace first = false ∧ first ≠ ']'

variable {item : Reader Json} {valueOf? : Part → Option Json} {space text rest : List Char}
  {reading : Reading} {rounds depth : Nat}

theorem spacesNil : IsSpaces [] :=
  fun _ => nofun

theorem dropSpaces (spaces : IsSpaces space) {character : Char} {rest : List Char}
    (visible : isSpace character = false) :
    dropSpace (space ++ character :: rest) = character :: rest := by
  rw [dropSpace, List.dropWhile_append_of_pos spaces,
    List.dropWhile_cons_of_neg (by simp [visible])]

theorem dropSpaceAgain (text : List Char) : dropSpace (dropSpace text) = dropSpace text :=
  List.dropWhile_idempotent isSpace text

theorem readWithIgnoresSpace (afterBracket afterBrace : Reader Json) :
    IgnoresSpace (readWith afterBracket afterBrace) := by
  intro text
  rw [readWith, readWith, dropSpaceAgain]

theorem readValueIgnoresSpace (rounds depth : Nat) : IgnoresSpace (readValue rounds depth) := by
  cases depth <;> exact readWithIgnoresSpace _ _

theorem takesBehindSpace (ignores : IgnoresSpace item) (spaces : IsSpaces space)
    (begins : Begins text) (rest : List Char) :
    item (space ++ (text ++ rest)) = item (text ++ rest) := by
  obtain ⟨first, more, rfl, visible, _⟩ := begins
  rw [← ignores (space ++ _), List.cons_append, dropSpaces spaces visible]

/-- What stands behind an item up to the closing character. -/
def tailOf (others : List (List Char)) (closing : Char) (rest : List Char) : List Char :=
  others.flatMap (',' :: ·) ++ closing :: rest

theorem tailBounded (others : List (List Char)) (closing : Char)
    (closes : closing ∈ [',', ']', '\x7d']) (rest : List Char) :
    Bounded (tailOf others closing rest) := by
  cases others with
  | nil => exact boundedCons rest (.inr closes)
  | cons next more => exact boundedCons _ (.inr (by simp))

/-- Items up to the closing bracket are read to their end. -/
theorem readItemsSpec (first : Part) (others : List Part)
    (sofar : List Json) (rest : List Char)
    (spaced : ∀ part ∈ first :: others, part.IsSpaced ∧ Begins part.text)
    (takes : ∀ part ∈ first :: others, Takes item part.text (valueOf? part))
    (enough : others.length < rounds) :
    (readItems item sofar rounds
      (first.text ++ (first.after ++ tailOf (others.map Part.whole) ']' rest))).toOption =
        ((first :: others).mapM valueOf?).map fun values =>
          (array (sofar.reverse ++ values), rest) := by
  induction others generalizing first sofar rounds with
  | nil =>
      obtain ⟨left, rfl⟩ : ∃ left, rounds = left + 1 := Nat.exists_eq_add_one.mpr enough
      have after : IsSpaces first.after := (spaced first (by simp)).1.2
      have bounded := boundedOfSpaces after (tailBounded [] ']' (by simp) rest)
      rw [List.map_nil, readItems, toOptionBind, takes first (by simp) _ bounded]
      cases found : valueOf? first with
      | none => simp [found]
      | some value =>
          have closed : dropSpace (first.after ++ tailOf [] ']' rest) = ']' :: rest :=
            dropSpaces after (by decide)
          simp [closed, found]
  | cons next more inductionHypothesis =>
      obtain ⟨left, rfl⟩ : ∃ left, rounds = left + 1 :=
        Nat.exists_eq_add_one.mpr (Nat.zero_lt_of_lt enough)
      have after : IsSpaces first.after := (spaced first (by simp)).1.2
      obtain ⟨⟨before, _⟩, character, tail, begins, visible, opens⟩ := spaced next (by simp)
      have bounded := boundedOfSpaces after
        (tailBounded ((next :: more).map Part.whole) ']' (by simp) rest)
      rw [readItems, toOptionBind, takes first (by simp) _ bounded]
      cases found : valueOf? first with
      | none => simp [found]
      | some value =>
          have others := @inductionHypothesis left next (value :: sofar)
            (fun part inside => spaced part (List.mem_cons_of_mem _ inside))
            (fun part inside => takes part (List.mem_cons_of_mem _ inside))
            (by simpa using enough)
          have comma : dropSpace (first.after ++ tailOf ((next :: more).map Part.whole) ']' rest) =
              ',' :: (next.before ++ (character :: tail ++
                (next.after ++ tailOf (more.map Part.whole) ']' rest))) := by
            rw [← begins]
            simp only [tailOf, List.map_cons, List.flatMap_cons, List.cons_append,
              dropSpaces after (show isSpace ',' = false by decide), Part.whole, List.append_assoc]
          rw [begins] at others
          simp only [Option.map_some, Option.bind_some, comma, List.cons_append,
            dropSpaces before visible]
          rw [List.mapM_cons, found]
          split
          · case h_1 none => exact nomatch none
          · case h_2 closes => exact absurd (List.cons.inj closes).1 opens
          · rw [← List.cons_append, others]
            cases (next :: more).mapM valueOf? <;> simp

theorem listedThen (first : List Char) (others : List (List Char)) (closing : Char)
    (rest : List Char) :
    listed space (first :: others) ++ closing :: rest = first ++ tailOf others closing rest := by
  simp [listed, tailOf]

/-- An array whose bracket was taken is read to its end. -/
theorem readArraySpec (empty : IsSpaces space) (items : List Part) (rest : List Char)
    (spaced : ∀ part ∈ items, part.IsSpaced ∧ Begins part.text)
    (takes : ∀ part ∈ items, Takes item part.text (valueOf? part))
    (enough : items.length ≤ rounds) :
    (readArray item rounds (listed space (items.map Part.whole) ++ ']' :: rest)).toOption =
      (items.mapM valueOf?).map fun values => (array values, rest) := by
  cases items with
  | nil =>
      have closed : dropSpace (space ++ ']' :: rest) = ']' :: rest := dropSpaces empty (by decide)
      simp [readArray, listed, closed]
  | cons first others =>
      obtain ⟨⟨before, _⟩, character, tail, begins, visible, opens⟩ := spaced first (by simp)
      have read := readItemsSpec first others [] rest spaced takes enough
      rw [begins] at read
      rw [List.map_cons, listedThen, Part.whole, begins, List.append_assoc, List.append_assoc,
        readArray, List.cons_append, dropSpaces before visible]
      split
      · case h_1 none => exact nomatch none
      · case h_2 closes => exact absurd (List.cons.inj closes).1 opens
      · exact read

/-- The key and the value of a member, if it has both. -/
def Member.value? (valueOf? : Part → Option Json) (member : Member) : Option (String × Json) :=
  (Piece.content? member.key).bind fun key =>
    (valueOf? member.value).map fun value => (String.ofList key, value)

/-- A member is read to the end of its value. -/
theorem readMemberSpec (ignores : IgnoresSpace item) (member : Member)
    (spaced : member.IsSpaced ∧ Begins member.value.text)
    (takes : Takes item member.value.text (valueOf? member.value)) (bounded : Bounded rest) :
    (readMember item (quotedText member.key ++ (member.after ++ ':' :: (member.value.before ++
      (member.value.text ++ rest))))).toOption = (member.value? valueOf?).map (·, rest) := by
  obtain ⟨⟨_, after, before, _⟩, begins⟩ := spaced
  have key := readTextSpec member.key (member.after ++ ':' :: (member.value.before ++
      (member.value.text ++ rest))) []
  rw [quotedText, readMember, List.cons_append, List.append_assoc, List.singleton_append,
    List.drop_one, List.tail_cons, toOptionBind, key, Member.value?]
  cases Piece.content? member.key with
  | none => rfl
  | some content =>
      have colon : dropSpace (member.after ++ ':' :: (member.value.before ++
          (member.value.text ++ rest))) = ':' :: (member.value.before ++
            (member.value.text ++ rest)) := dropSpaces after (by decide)
      simp only [Option.map_some, Option.bind_some, colon, toOptionBind,
        takesBehindSpace ignores before begins rest, takes rest bounded]
      cases valueOf? member.value <;> simp

/-- Members up to the closing brace are read to their end. -/
theorem readMembersSpec (ignores : IgnoresSpace item) (first : Member) (others : List Member)
    (sofar : List (String × Json)) (rest : List Char)
    (spaced : ∀ member ∈ first :: others, member.IsSpaced ∧ Begins member.value.text)
    (takes : ∀ member ∈ first :: others,
      Takes item member.value.text (valueOf? member.value))
    (enough : others.length < rounds) :
    (readMembers item sofar rounds (quotedText first.key ++ (first.after ++ ':' ::
      (first.value.before ++ (first.value.text ++ (first.value.after ++
        tailOf (others.map Member.whole) '\x7d' rest)))))).toOption =
        ((first :: others).mapM (Member.value? valueOf?)).map fun members =>
          (ofMembers (sofar.reverse ++ members), rest) := by
  induction others generalizing first sofar rounds with
  | nil =>
      obtain ⟨left, rfl⟩ : ∃ left, rounds = left + 1 := Nat.exists_eq_add_one.mpr enough
      have after : IsSpaces first.value.after := (spaced first (by simp)).1.2.2.2
      have bounded := boundedOfSpaces after (tailBounded [] '\x7d' (by simp) rest)
      rw [List.map_nil, readMembers, toOptionBind,
        readMemberSpec ignores first (spaced first (by simp)) (takes first (by simp)) bounded]
      cases found : first.value? valueOf? with
      | none => simp [found]
      | some member =>
          have closed : dropSpace (first.value.after ++ tailOf [] '\x7d' rest) = '\x7d' :: rest :=
            dropSpaces after (by decide)
          simp [closed, found]
  | cons next more inductionHypothesis =>
      obtain ⟨left, rfl⟩ : ∃ left, rounds = left + 1 :=
        Nat.exists_eq_add_one.mpr (Nat.zero_lt_of_lt enough)
      have after : IsSpaces first.value.after := (spaced first (by simp)).1.2.2.2
      have before : IsSpaces next.before := (spaced next (by simp)).1.1
      have bounded := boundedOfSpaces after
        (tailBounded ((next :: more).map Member.whole) '\x7d' (by simp) rest)
      rw [readMembers, toOptionBind,
        readMemberSpec ignores first (spaced first (by simp)) (takes first (by simp)) bounded]
      cases found : first.value? valueOf? with
      | none => simp [found]
      | some member =>
          have others := @inductionHypothesis left next (member :: sofar)
            (fun member inside => spaced member (List.mem_cons_of_mem _ inside))
            (fun member inside => takes member (List.mem_cons_of_mem _ inside))
            (by simpa using enough)
          have comma : dropSpace (first.value.after ++
              tailOf ((next :: more).map Member.whole) '\x7d' rest) =
              ',' :: (next.before ++ (quotedText next.key ++ (next.after ++ ':' ::
                (next.value.before ++ (next.value.text ++ (next.value.after ++
                  tailOf (more.map Member.whole) '\x7d' rest)))))) := by
            simp only [tailOf, List.map_cons, List.flatMap_cons, List.cons_append,
              dropSpaces after (show isSpace ',' = false by decide), Member.whole, Part.whole,
              List.append_assoc]
          rw [quotedText, List.cons_append] at others comma
          simp only [Option.map_some, Option.bind_some, comma,
            dropSpaces before (show isSpace '"' = false by decide), others]
          rw [List.mapM_cons (a := first), found]
          cases (next :: more).mapM (Member.value? valueOf?) <;> simp

/-- An object whose brace was taken is read to its end. -/
theorem readObjectSpec (ignores : IgnoresSpace item) (empty : IsSpaces space)
    (members : List Member) (rest : List Char)
    (spaced : ∀ member ∈ members, member.IsSpaced ∧ Begins member.value.text)
    (takes : ∀ member ∈ members, Takes item member.value.text (valueOf? member.value))
    (enough : members.length ≤ rounds) :
    (readObject item rounds (listed space (members.map Member.whole) ++ '\x7d' :: rest)).toOption =
      (members.mapM (Member.value? valueOf?)).map fun members => (ofMembers members, rest) := by
  cases members with
  | nil =>
      have closed : dropSpace (space ++ '\x7d' :: rest) = '\x7d' :: rest :=
        dropSpaces empty (by decide)
      simp [readObject, listed, closed]
      rfl
  | cons first others =>
      have before : IsSpaces first.before := (spaced first (by simp)).1.1
      have read := readMembersSpec ignores first others [] rest spaced takes enough
      rw [quotedText, List.cons_append] at read
      simp only [List.map_cons, listedThen, Member.whole, Part.whole, List.append_assoc, readObject,
        quotedText, List.cons_append, dropSpaces before (show isSpace '"' = false by decide)]
      simpa using read

theorem digitBegins {digit : Char} (isDigit : digit.isDigit = true) :
    isSpace digit = false ∧ digit ≠ ']' := by
  constructor
  · by_contra space
    simp only [isSpace, Bool.not_eq_false, Bool.or_eq_true, beq_iff_eq] at space
    rcases space with ((rfl | rfl) | rfl) | rfl <;> exact absurd isDigit (by decide)
  · rintro rfl
    exact absurd isDigit (by decide)

theorem Spells.begins (spells : Spells text reading) : Begins text := by
  cases spells with
  | number numeral =>
      obtain ⟨digit, others, unsigned, isDigit⟩ := firstOfUnsigned numeral
      rw [Numeral.text, unsigned]
      cases numeral.negative with
      | true => exact ⟨'-', _, rfl, by decide, by decide⟩
      | false => exact ⟨digit, others, rfl, digitBegins isDigit⟩
  | _ => exact ⟨_, _, rfl, by decide, by decide⟩

/-- Each text of a list, and their number, is no longer than the whole. -/
theorem lengthOfListed (space : List Char) (texts : List (List Char))
    (filled : ∀ text ∈ texts, text ≠ []) :
    texts.length ≤ (listed space texts).length ∧
      ∀ text ∈ texts, text.length ≤ (listed space texts).length := by
  cases texts with
  | nil => simp
  | cons first others =>
      have behind : others.length ≤ (others.flatMap (',' :: ·)).length ∧
          ∀ text ∈ others, text.length ≤ (others.flatMap (',' :: ·)).length := by
        clear filled
        induction others with
        | nil => simp
        | cons next more inductionHypothesis =>
            simp only [List.flatMap_cons, List.length_cons, List.length_append,
              List.forall_mem_cons]
            refine ⟨by omega, by omega, fun text inside => ?_⟩
            have := inductionHypothesis.2 text inside
            omega
      have positive := List.length_pos_iff.mpr (filled first (by simp))
      simp only [listed, List.length_cons, List.length_append, List.forall_mem_cons]
      refine ⟨by omega, by omega, fun text inside => ?_⟩
      have := behind.2 text inside
      omega

/-- Of values that a depth may keep back, all are had if none of them is kept back. -/
theorem mapMWithin {Element Value : Type} (depthOf : Element → Nat)
    (valueOf? : Element → Option Value) (depth : Nat) (elements : List Element) :
    elements.mapM (fun element =>
        if depthOf element ≤ depth then valueOf? element else none) =
      if (elements.map depthOf).foldr max 0 ≤ depth then elements.mapM valueOf? else none := by
  induction elements with
  | nil => simp
  | cons element rest inductionHypothesis =>
      rw [List.mapM_cons, List.mapM_cons, inductionHypothesis, List.map_cons, List.foldr_cons]
      by_cases first : depthOf element ≤ depth
      · by_cases others : (rest.map depthOf).foldr max 0 ≤ depth
        · simp [first, others]
        · cases valueOf? element <;> simp [first, others]
      · simp [first]

theorem withinOfItems (items : List Part) (depth : Nat) :
    (Reading.ofItems (items.map Part.reading)).within (depth + 1) =
      (items.mapM fun item : Part => item.reading.within depth).map array := by
  have cut := mapMWithin (fun item : Part => item.reading.depth)
    (fun item => item.reading.value?) depth items
  simp only [Reading.within]
  rw [cut]
  simp only [Reading.ofItems, Reading.depthAround, Nat.add_le_add_iff_right, List.map_map,
    Function.comp_def]
  split
  · rw [List.mapM_map]
    rfl
  · rfl

theorem withinOfMembers (members : List Member) (depth : Nat) :
    (Reading.ofMembers (members.map fun member => (member.key, member.value.reading))).within
        (depth + 1) =
      (members.mapM (Member.value? fun part => part.reading.within depth)).map ofMembers := by
  have kept : (Member.value? fun part => part.reading.within depth) = fun member : Member =>
      if member.value.reading.depth ≤ depth then
        member.value? fun part => part.reading.value? else none := by
    funext member
    simp only [Member.value?, Reading.within]
    split
    · rfl
    · cases Piece.content? member.key <;> rfl
  rw [kept, mapMWithin]
  simp only [Reading.within, Reading.ofMembers, Reading.depthAround, Nat.add_le_add_iff_right,
    List.map_map, Function.comp_def]
  split
  · rw [List.mapM_map]
    rfl
  · rfl

theorem readWordSpec (value : Json) (word rest : List Char) :
    readWord value word (word ++ rest) = .ok (value, rest) := by
  induction word with
  | nil => rfl
  | cons letter word inductionHypothesis => simp [readWord, inductionHypothesis]

variable {afterBracket afterBrace : Reader Json}

theorem takesNumber (numeral : Numeral) :
    Takes (readWith afterBracket afterBrace) numeral.text numeral.value? := by
  intro rest bounded
  have read := readNumberSpec numeral bounded
  obtain ⟨digit, others, unsigned, isDigit⟩ := firstOfUnsigned numeral
  rw [Numeral.text]
  cases negative : numeral.negative with
  | true =>
      rw [negative] at read
      exact read
  | false =>
      have apart : ∀ other : Char, other.isDigit = false → digit ≠ other := by
        rintro other notDigit rfl
        exact absurd isDigit (by simp [notDigit])
      have kept : dropSpace (digit :: (others ++ rest)) = digit :: (others ++ rest) :=
        dropSpaces spacesNil (digitBegins isDigit).1
      rw [negative, unsigned] at read
      simpa [unsigned, readWith, kept, isDigit, apart] using read

theorem takesText (pieces : List Piece) :
    Takes (readWith afterBracket afterBrace) (quotedText pieces)
      ((Piece.content? pieces).map fun content => string (String.ofList content)) := by
  intro rest _
  have read := readTextSpec pieces rest []
  change ((readText [] (pieces.flatMap Piece.text ++ ['"'] ++ rest)).map _).toOption = _
  rw [List.append_assoc, List.singleton_append, toOptionMap, read]
  simp [Function.comp_def]

theorem takesWord {value : Json} {first : Char} {word : List Char}
    (reads : ∀ rest, readWith afterBracket afterBrace (first :: rest) = readWord value word rest) :
    Takes (readWith afterBracket afterBrace) (first :: word) (some value) := by
  intro rest _
  rw [List.cons_append, reads, readWordSpec]
  rfl

theorem Part.filled {part : Part} (begins : Begins part.text) : part.whole ≠ [] := by
  obtain ⟨first, more, split, _⟩ := begins
  simp [Part.whole, split]

theorem Member.filled (member : Member) : member.whole ≠ [] := by
  simp [Member.whole, quotedText]

theorem takesArray {items : List Part} (empty : IsSpaces space)
    (spaced : ∀ item ∈ items, item.IsSpaced) (begins : ∀ item ∈ items, Begins item.text)
    (enough : ('[' :: (listed space (items.map Part.whole) ++ [']'])).length ≤ rounds)
    (takes : ∀ depth, ∀ item ∈ items, item.text.length ≤ rounds →
      Takes (readValue rounds depth) item.text (item.reading.within depth)) :
    Takes (readValue rounds depth) ('[' :: (listed space (items.map Part.whole) ++ [']']))
      ((Reading.ofItems (items.map Part.reading)).within depth) := by
  intro rest _
  cases depth with
  | zero => rfl
  | succ depth =>
      obtain ⟨few, short⟩ := lengthOfListed space (items.map Part.whole) (by
        simpa using fun item inside => Part.filled (begins item inside))
      simp only [List.length_cons, List.length_append, List.length_map] at enough few
      have read := readArraySpec empty items rest
        (fun item inside => ⟨spaced item inside, begins item inside⟩)
        (fun item inside => takes depth item inside (by
          have := short item.whole (List.mem_map_of_mem inside)
          simp only [Part.whole, List.length_append] at this
          omega))
        (show items.length ≤ rounds by omega)
      rw [withinOfItems, Option.map_map]
      change (readArray (readValue rounds depth) rounds
        (listed space (items.map Part.whole) ++ [']'] ++ rest)).toOption = _
      rw [List.append_assoc, List.singleton_append, read]
      rfl

theorem takesObject {members : List Member} (empty : IsSpaces space)
    (spaced : ∀ member ∈ members, member.IsSpaced)
    (begins : ∀ member ∈ members, Begins member.value.text)
    (enough : ('\x7b' :: (listed space (members.map Member.whole) ++ ['\x7d'])).length ≤ rounds)
    (takes : ∀ depth, ∀ member ∈ members, member.value.text.length ≤ rounds →
      Takes (readValue rounds depth) member.value.text (member.value.reading.within depth)) :
    Takes (readValue rounds depth)
      ('\x7b' :: (listed space (members.map Member.whole) ++ ['\x7d']))
      ((Reading.ofMembers (members.map fun member =>
        (member.key, member.value.reading))).within depth) := by
  intro rest _
  cases depth with
  | zero => rfl
  | succ depth =>
      obtain ⟨few, short⟩ := lengthOfListed space (members.map Member.whole) (by
        simpa using fun member _ => Member.filled member)
      simp only [List.length_cons, List.length_append, List.length_map] at enough few
      have read := @readObjectSpec _ (fun part => part.reading.within depth) _ rounds
        (readValueIgnoresSpace rounds depth) empty members rest
        (fun member inside => ⟨spaced member inside, begins member inside⟩)
        (fun member inside => takes depth member inside (by
          have := short member.whole (List.mem_map_of_mem inside)
          simp only [Member.whole, Part.whole, List.length_append, List.length_cons] at this
          omega))
        (show members.length ≤ rounds by omega)
      rw [withinOfMembers, Option.map_map]
      change (readObject (readValue rounds depth) rounds
        (listed space (members.map Member.whole) ++ ['\x7d'] ++ rest)).toOption = _
      rw [List.append_assoc, List.singleton_append, read]
      rfl

/-- What opens no bracket is taken at every depth. -/
theorem takesScalar {value? : Option Json}
    (takes : ∀ afterBracket afterBrace, Takes (readWith afterBracket afterBrace) text value?)
    (depth : Nat) : Takes (readValue rounds depth) text (Reading.within depth ⟨0, value?⟩) := by
  rw [Reading.within, if_pos (Nat.zero_le depth)]
  cases depth <;> exact takes _ _

/-- A reader with enough rounds takes every value of the grammar. -/
theorem takesOfSpells (spells : Spells text reading) (depth : Nat) (enough : text.length ≤ rounds) :
    Takes (readValue rounds depth) text (reading.within depth) := by
  induction spells generalizing depth with
  | null | true | false => exact takesScalar (fun _ _ => takesWord fun _ => rfl) depth
  | number numeral => exact takesScalar (fun _ _ => takesNumber numeral) depth
  | string pieces => exact takesScalar (fun _ _ => takesText pieces) depth
  | array empty spaced spelled inductionHypothesis =>
      exact takesArray empty spaced (fun item inside => (spelled item inside).begins) enough
        fun depth item inside => inductionHypothesis item inside depth
  | object empty spaced spelled inductionHypothesis =>
      exact takesObject empty spaced (fun member inside => (spelled member inside).begins) enough
        fun depth member inside => inductionHypothesis member inside depth

/-- A whole text is read as the value that it spells, with space around it. -/
theorem ofCharactersSpec {before after : List Char} (spells : Spells text reading)
    (beforeSpaces : IsSpaces before) (afterSpaces : IsSpaces after) :
    (ofCharacters (before ++ (text ++ after))).toOption = reading.within deepest := by
  have enough : text.length ≤ (before ++ (text ++ after)).length := by
    simp only [List.length_append]
    omega
  have ends : Bounded after := by
    have bounded := boundedOfSpaces afterSpaces boundedNil
    rwa [List.append_nil] at bounded
  have drained : dropSpace after = [] := List.dropWhile_eq_nil_iff.mpr afterSpaces
  have toOptionMapError : ∀ (outcome : Outcome Json) (change : Failure → SyntaxError),
      (outcome.mapError change).toOption = outcome.toOption := by
    intro outcome change
    cases outcome <;> rfl
  rw [ofCharacters, toOptionMapError, toOptionBind,
    takesBehindSpace (readValueIgnoresSpace _ _) beforeSpaces spells.begins,
    takesOfSpells spells deepest enough after ends]
  cases reading.within deepest <;> simp [drained]

end FleetPanel.Json
