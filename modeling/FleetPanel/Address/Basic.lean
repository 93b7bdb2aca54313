/-
This file holds socket addresses and writes them in their canonical form.
-/

import FleetPanel.Text.Digits

namespace FleetPanel.Address

structure Ipv4 where
  first : UInt8
  second : UInt8
  third : UInt8
  fourth : UInt8
deriving DecidableEq, Repr

namespace Ipv4

def octets (host : Ipv4) : List UInt8 :=
  [host.first, host.second, host.third, host.fourth]

/-- The two 16-bit groups that an embedded address stands for. -/
def groups (host : Ipv4) : List UInt16 :=
  [host.first.toUInt16 * 256 + host.second.toUInt16,
    host.third.toUInt16 * 256 + host.fourth.toUInt16]

def text (host : Ipv4) : List Char :=
  ['.'].intercalate (host.octets.map fun octet => Nat.toDigits 10 octet.toNat)

end Ipv4

/-- Eight groups of 16 bits. -/
structure Ipv6 where
  groups : List UInt16
  eight : groups.length = 8
deriving DecidableEq, Repr

/-- A run of zeros in a list. -/
structure ZeroRun where
  start : Nat
  length : Nat
deriving DecidableEq, Repr

namespace ZeroRun

/-- The longest run of zeros, the first one of equally long ones; `current` is the run that ends
where the groups begin, at place `index`. -/
def longestFrom (index : Nat) (current longest : ZeroRun) : List UInt16 → ZeroRun
  | [] => longest
  | group :: rest =>
      if group == 0 then
        let current : ZeroRun :=
          if current.length = 0 then ⟨index, 1⟩ else ⟨current.start, current.length + 1⟩
        longestFrom (index + 1) current
          (if longest.length < current.length then current else longest) rest
      else longestFrom (index + 1) ⟨0, 0⟩ longest rest

def longest (groups : List UInt16) : ZeroRun :=
  longestFrom 0 ⟨0, 0⟩ ⟨0, 0⟩ groups

end ZeroRun

namespace Ipv6

def groupsText (groups : List UInt16) : List Char :=
  [':'].intercalate (groups.map fun group => Nat.toDigits 16 group.toNat)

/-- An IPv4 address that the last two groups stand for, when the groups before them say so. -/
def embedded? (host : Ipv6) : Option Ipv4 :=
  match host.groups with
  | [0, 0, 0, 0, 0, 0xFFFF, high, low] =>
      some ⟨(high / 256).toUInt8, high.toUInt8, (low / 256).toUInt8, low.toUInt8⟩
  | _ => none

/-- Two colons stand for the longest run of at least two zero groups. -/
def text (host : Ipv6) : List Char :=
  match host.embedded? with
  | some inner => "::ffff:".toList ++ inner.text
  | none =>
      let run := ZeroRun.longest host.groups
      if 1 < run.length then
        groupsText (host.groups.take run.start) ++ ':' :: ':' ::
          groupsText (host.groups.drop (run.start + run.length))
      else groupsText host.groups

end Ipv6

inductive SocketAddress where
  | v4 (host : Ipv4) (port : UInt16)
  | v6 (host : Ipv6) (scope : UInt32) (port : UInt16)
deriving DecidableEq, Repr

def SocketAddress.text : SocketAddress → String
  | v4 host port => String.ofList (host.text ++ ':' :: Nat.toDigits 10 port.toNat)
  | v6 host scope port =>
      let scope := if scope == 0 then [] else '%' :: Nat.toDigits 10 scope.toNat
      String.ofList ('[' :: host.text ++ scope ++ ']' :: ':' :: Nat.toDigits 10 port.toNat)

end FleetPanel.Address
