/-
This file reads socket addresses. A reader takes the rest of a text and returns what it read and
what it left.
-/

import FleetPanel.Address.Basic

namespace FleetPanel.Address

def mark? (expected : Char) : List Char → Option (List Char)
  | found :: rest => if found == expected then some rest else none
  | [] => none

/-- A number below a limit, of any number of digits. -/
def number? (limit : Nat) (text : List Char) : Option (Nat × List Char) :=
  let (digits, rest) := text.span Char.isDigit
  let number := Text.numberOf digits
  if digits.isEmpty || limit ≤ number then none else some (number, rest)

/-- An octet in up to three digits, with no zero before other digits. -/
def octet? (text : List Char) : Option (UInt8 × List Char) := do
  let (digits, _) := text.span Char.isDigit
  if 3 < digits.length || (1 < digits.length && digits.head? == some '0') then none
  let (number, rest) ← number? 256 text
  return (.ofNat number, rest)

def ipv4? (text : List Char) : Option (Ipv4 × List Char) := do
  let (first, rest) ← octet? text
  let (second, rest) ← octet? (← mark? '.' rest)
  let (third, rest) ← octet? (← mark? '.' rest)
  let (fourth, rest) ← octet? (← mark? '.' rest)
  return (⟨first, second, third, fourth⟩, rest)

/-- A group in up to four hexadecimal digits. -/
def group? (text : List Char) : Option (UInt16 × List Char) := do
  let (digits, rest) := text.span fun character => (Text.digitIn? 16 character).isSome
  if digits.isEmpty || 4 < digits.length then none
  return (.ofNat (← Text.numberIn? 16 digits), rest)

/-- As many groups as there are and `room` allows, with a colon between two. The last two may be
written as an IPv4 address, which the flag says. -/
def groups (first : Bool) : Nat → List Char → (List UInt16 × Bool) × List Char
  | 0, text => (([], false), text)
  | room + 1, text =>
      let start? := if first then some text else mark? ':' text
      match start?.bind ipv4? with
      | some (host, rest) =>
          if 0 < room then ((host.groups, true), rest) else plain start? room text
      | none => plain start? room text
where
  plain (start? : Option (List Char)) (room : Nat) (text : List Char) :
      (List UInt16 × Bool) × List Char :=
    match start?.bind group? with
    | some (group, rest) =>
        let ((more, isEmbedded), rest) := groups false room rest
        ((group :: more, isEmbedded), rest)
    | none => (([], false), text)

def Ipv6.of? (groups : List UInt16) : Option Ipv6 :=
  if eight : groups.length = 8 then some ⟨groups, eight⟩ else none

/-- Eight groups, or fewer around two colons that stand for the zero groups between them. -/
def ipv6? (text : List Char) : Option (Ipv6 × List Char) := do
  let ((head, isEmbedded), rest) := groups true 8 text
  if head.length = 8 then return (← Ipv6.of? head, rest)
  if isEmbedded then none
  let rest ← mark? ':' (← mark? ':' rest)
  let ((tail, _), rest) := groups true (7 - head.length) rest
  let zeros := List.replicate (8 - head.length - tail.length) 0
  return (← Ipv6.of? (head ++ zeros ++ tail), rest)

def port? (text : List Char) : Option (UInt16 × List Char) := do
  let (port, rest) ← number? UInt16.size (← mark? ':' text)
  return (.ofNat port, rest)

/-- The scope after a percent sign, zero without a well-formed one. -/
def scope (text : List Char) : UInt32 × List Char :=
  match (mark? '%' text).bind (number? UInt32.size) with
  | some (scope, rest) => (.ofNat scope, rest)
  | none => (0, text)

namespace SocketAddress

def v4? (text : List Char) : Option (SocketAddress × List Char) := do
  let (host, rest) ← ipv4? text
  let (port, rest) ← port? rest
  return (.v4 host port, rest)

def v6? (text : List Char) : Option (SocketAddress × List Char) := do
  let (host, rest) ← ipv6? (← mark? '[' text)
  let (scope, rest) := scope rest
  let (port, rest) ← port? (← mark? ']' rest)
  return (.v6 host scope port, rest)

/-- The socket address of a whole text. -/
def ofText? (text : String) : Option SocketAddress :=
  match v4? text.toList <|> v6? text.toList with
  | some (address, []) => some address
  | _ => none

end SocketAddress

end FleetPanel.Address
