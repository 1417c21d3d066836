import Signpost.Text.Digits

/-!
# Punycode

Reading the ASCII form of an international label.  The label is the basic characters, a last
hyphen, and a list of digits that inserts the other characters one by one.

The digits are read one at a time.  A number ends at the first digit that is below the threshold
of its position, and the threshold adapts after each number.  `Decoder` is what is known between
two digits; the label is good only if no number is left open at its end.
-/

namespace Signpost.Net.Punycode

open Signpost.Text

/-- The value of a digit: letters first, then the ten digits. -/
def digitValue? (c : Char) : Option Nat :=
  if c.isDigit then some (c.toNat - 48 + 26) else (digit? c).map (· - 10)

/-- The least threshold is 1, the greatest 26. -/
def threshold (position bias : Nat) : Nat :=
  if position ≤ bias then 1 else if bias + 26 ≤ position then 26 else position - bias

/-- Divides by 35 until at most 455 is left, counting 36 for each division. -/
def scaleDown (delta : Nat) : Nat × Nat :=
  if 455 < delta then
    let (d, k) := scaleDown (delta / 35)
    (d, k + 36)
  else (delta, 0)
  termination_by delta

/-- The bias after a number `delta`, with `count` characters then in the label. -/
def adapt (delta count : Nat) (isFirst : Bool) : Nat :=
  let delta := if isFirst then delta / 700 else delta / 2
  let (delta, k) := scaleDown (delta + delta / count)
  k + 36 * delta / (delta + 38)

/-- What is known between two digits. -/
structure Decoder where
  /-- The characters so far. -/
  label : List Char
  /-- The code point that the next number counts from. -/
  code : Nat := 128
  /-- The place that the next number counts from. -/
  place : Nat := 0
  /-- The bias of the thresholds. -/
  bias : Nat := 72
  /-- The part of the current number that has been read. -/
  delta : Nat := 0
  /-- The weight of the next digit. -/
  weight : Nat := 1
  /-- The position of the next digit, in steps of 36. -/
  position : Nat := 36

/-- Whether no number has been begun. -/
def Decoder.isIdle (d : Decoder) : Bool :=
  d.position = 36

/-- Inserts the character that a finished number stands for. -/
def Decoder.insert? (d : Decoder) (delta : Nat) : Option Decoder :=
  let count := d.label.length + 1
  let place := (d.place + delta) % count
  let code := d.code + (d.place + delta) / count
  if code.isValidChar then
    some {
      label := d.label.take place ++ Char.ofNat code :: d.label.drop place
      code := code
      place := place + 1
      bias := adapt delta count (d.place = 0) }
  else none

/-- The numbers of an ASCII form, and the weights of their digits, are below this bound. -/
def numberBound : Nat := 0x100000000

/-- One more digit. -/
def Decoder.step? (d : Decoder) (c : Char) : Option Decoder := do
  let value ← digitValue? c
  let t := threshold d.position d.bias
  let delta := d.delta + value * d.weight
  if numberBound ≤ d.place + delta then none
  else if value < t then d.insert? delta
  else
    let weight := d.weight * (36 - t)
    if numberBound ≤ weight then none
    else some { d with delta, weight, position := d.position + 36 }

/-- The basic characters of an ASCII form and its digits.  The last hyphen divides them, and without
a hyphen all are digits; a hyphen after no basic characters is no digit. -/
def split (ascii : List Char) : List Char × List Char :=
  let reversed := ascii.reverse
  match ((reversed.dropWhile (· ≠ '-')).drop 1).reverse with
  | [] => ([], ascii)
  | basic => (basic, (reversed.takeWhile (· ≠ '-')).reverse)

/-- The label that an ASCII form writes. -/
def decode? (ascii : List Char) : Option (List Char) := do
  let (basic, digits) := split ascii
  let d ← digits.foldlM Decoder.step? { label := basic }
  if basic.all (·.toNat < 0x80) && d.isIdle then some d.label else none

end Signpost.Net.Punycode
