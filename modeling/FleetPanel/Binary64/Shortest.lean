/-
This file finds the shortest decimal that reads back as a given number.

A grid is the set of multiples of one power of ten. The search goes from the grid of one digit to
the grid of seventeen and stops at the first that has a point among the reals that round to the
number; of two such points it takes the nearer one.
-/

import FleetPanel.Binary64.Basic
import FleetPanel.Decimal

namespace FleetPanel.Binary64

/-- Which of two equally near decimals is taken. -/
inductive Tie where
  | up
  | even
deriving DecidableEq, Repr

/-- The exponent of the leading decimal digit of a positive magnitude. No magnitude is below
10 ^ (-324). -/
def leadingExponent (units : Nat) : Int :=
  (Nat.toDigits 10 (units * Nat.pow 10 324 / unitsOfOne)).length - 325

/-- A point of the grid of `10 ^ exponent` rounds to the number of this rank: it lies between the
midpoints to the neighbours, which count when the significand is even. -/
def readsBack (rank : Nat) (exponent : Int) (point : Nat) : Bool :=
  let scale := Nat.pow 10 (-exponent).toNat
  let low := (unitsOfRank (rank - 1) + unitsOfRank rank) * scale
  let high := (unitsOfRank rank + unitsOfRank (rank + 1)) * scale
  let twice := 2 * point * (unitsOfOne * Nat.pow 10 exponent.toNat)
  if rank % 2 = 0 then low ≤ twice && twice ≤ high else low < twice && twice < high

/-- The point of the grid below a magnitude is the nearer one; `tie` decides a half. -/
def lowerIsNearer (tie : Tie) (rank : Nat) (exponent : Int) (lower : Nat) : Bool :=
  let twice := 2 * (unitsOfRank rank * Nat.pow 10 (-exponent).toNat)
  let middle := (2 * lower + 1) * (unitsOfOne * Nat.pow 10 exponent.toNat)
  twice < middle || (twice == middle && tie == .even && lower % 2 == 0)

/-- The point of a grid, if any, that stands for a number. -/
def gridPoint? (tie : Tie) (rank : Nat) (exponent : Int) : Option Nat :=
  let lower :=
    unitsOfRank rank * Nat.pow 10 (-exponent).toNat / (unitsOfOne * Nat.pow 10 exponent.toNat)
  match readsBack rank exponent lower, readsBack rank exponent (lower + 1) with
  | true, true => some (if lowerIsNearer tie rank exponent lower then lower else lower + 1)
  | true, false => some lower
  | false, true => some (lower + 1)
  | false, false => none

/-- The shortest decimal of a finite magnitude, with no zero at its end. -/
def shortest (tie : Tie) (number : Binary64) : Decimal :=
  let leading := leadingExponent number.units
  let found := (List.range 17).findSome? fun (count : Nat) =>
    let exponent := leading - count
    (gridPoint? tie number.rank exponent).map fun point => Decimal.mk point exponent
  if number.isZero then ⟨0, 0⟩ else (found.getD ⟨0, 0⟩).trim 17

end FleetPanel.Binary64
