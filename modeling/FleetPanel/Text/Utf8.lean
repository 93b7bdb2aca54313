/-
This file reads UTF-8 octets, strictly or with a replacement for each broken sequence.
-/

namespace FleetPanel.Text.Utf8

/-- Where a reader stands: between characters, or inside one with `left` octets to come after the
next, which has to lie between `low` and `high`. -/
inductive Stand where
  | between
  | inside (value : Nat) (low high : UInt8) (left : Nat)
deriving DecidableEq, Repr

/-- What an octet between characters begins; `none` marks an octet that begins nothing. -/
def begin (octet : UInt8) : List (Option Char) × Stand :=
  let value := octet.toNat
  if value < 0x80 then ([some (Char.ofNat value)], .between)
  else if value < 0xC2 then ([none], .between)
  else if value < 0xE0 then ([], .inside (value - 0xC0) 0x80 0xBF 0)
  else if value == 0xE0 then ([], .inside 0 0xA0 0xBF 1)
  else if value == 0xED then ([], .inside 0xD 0x80 0x9F 1)
  else if value < 0xF0 then ([], .inside (value - 0xE0) 0x80 0xBF 1)
  else if value == 0xF0 then ([], .inside 0 0x90 0xBF 2)
  else if value < 0xF4 then ([], .inside (value - 0xF0) 0x80 0xBF 2)
  else if value == 0xF4 then ([], .inside 4 0x80 0x8F 2)
  else ([none], .between)

/-- One octet more; an octet that does not fit breaks the sequence before it and is read afresh. -/
def step : Stand → UInt8 → List (Option Char) × Stand
  | .between, octet => begin octet
  | .inside value low high left, octet =>
      if low ≤ octet && octet ≤ high then
        let value := 64 * value + octet.toNat % 64
        match left with
        | 0 => ([some (Char.ofNat value)], .between)
        | left + 1 => ([], .inside value 0x80 0xBF left)
      else
        let (marks, stand) := begin octet
        (none :: marks, stand)

def marksFrom : Stand → List UInt8 → List (Option Char)
  | .between, [] => []
  | .inside .., [] => [none]
  | stand, octet :: rest =>
      let (marks, stand) := step stand octet
      marks ++ marksFrom stand rest

/-- The characters of a text, with `none` for each longest piece that begins no character. -/
def marks (octets : List UInt8) : List (Option Char) :=
  marksFrom .between octets

def decode? (octets : List UInt8) : Option (List Char) :=
  (marks octets).mapM id

/-- Every broken sequence becomes U+FFFD. -/
def decodeLossy (octets : List UInt8) : List Char :=
  (marks octets).map (·.getD '\uFFFD')

def encode (text : List Char) : List UInt8 :=
  text.flatMap String.utf8EncodeChar

/-- The number of octets of a text. -/
def size (text : List Char) : Nat :=
  text.foldl (fun total character => total + character.utf8Size) 0

/-- What follows the first octets of a text; `none` if they end inside a character. -/
def dropOctets? : Nat → List Char → Option (List Char)
  | 0, text => some text
  | _ + 1, [] => none
  | count + 1, character :: rest =>
      if character.utf8Size ≤ count + 1 then dropOctets? (count + 1 - character.utf8Size) rest
      else none

/-- The first octets of a text as characters; `none` if they end inside a character. -/
def takeOctets? : Nat → List Char → Option (List Char)
  | 0, _ => some []
  | _ + 1, [] => none
  | count + 1, character :: rest =>
      if character.utf8Size ≤ count + 1 then
        (takeOctets? (count + 1 - character.utf8Size) rest).map (character :: ·)
      else none

/-- The characters between two octet positions; `none` if one of them is inside a character. -/
def slice? (text : List Char) (start stop : Nat) : Option (List Char) :=
  if start ≤ stop then (dropOctets? start text).bind (takeOctets? (stop - start)) else none

end FleetPanel.Text.Utf8
