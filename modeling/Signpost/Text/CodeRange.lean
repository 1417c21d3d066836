/-!
# Ranges of code points

Tables about characters list code points in ascending order, so that a search can stop early.

* A **range** holds all code points between two bounds.  `inRanges` tells whether a character lies
  in one of a list of ranges.
* A **run** gives each of its characters an image at one distance from it.  `imageInRuns?` is the
  image of a character.
-/

namespace Signpost.Text

/-- A closed range of code points. -/
structure CodeRange where
  /-- Least code point of the range. -/
  low : Nat
  /-- Greatest code point of the range. -/
  high : Nat

/-- Whether one of the ranges, which ascend, holds the character. -/
def inRanges (ranges : List CodeRange) (c : Char) : Bool :=
  match ranges.find? (c.toNat ≤ ·.high) with
  | some r => r.low ≤ c.toNat
  | none => false

/-- A run of characters whose images lie at one distance from them. -/
structure ImageRun where
  /-- Code point of the first character of the run. -/
  first : Nat
  /-- Code point of the last character of the run. -/
  last : Nat
  /-- Distance between neighbours of the run: 1, or 2 where capital and small letters alternate. -/
  stride : Nat
  /-- Code point of the image of `first`. -/
  target : Nat

/-- The image of a character under one of the runs, which ascend; nothing if no run holds it. -/
def imageInRuns? (runs : List ImageRun) (c : Char) : Option Char :=
  match runs.find? (c.toNat ≤ ·.last) with
  | some r =>
    if r.first ≤ c.toNat ∧ (c.toNat - r.first) % r.stride = 0
    then some (Char.ofNat (c.toNat - r.first + r.target)) else none
  | none => none

end Signpost.Text
