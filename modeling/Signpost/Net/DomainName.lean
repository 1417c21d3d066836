import Signpost.Net.DomainName.Label
import Signpost.Net.DomainName.Mapping
import Signpost.Net.Punycode

/-!
# Domain names

The host of a web address, brought to the form in which it is looked up.

* The name is mapped, and then no character may be left that cannot stand in a name.
* A label that begins with `xn--` writes an international label in ASCII.  That label has to be
  mapped already, and it has to hold a character beyond ASCII.
* The labels have to be good on their own and together.

`mapped?` gives the name after these steps.  `endsInNumber` tells a name that can only be meant as
an IPv4 address, and `ipv4OfName?` is the address it writes.
-/

namespace Signpost.Net.DomainName

open Signpost.Text

/-! ## Looking up a name -/

/-- The labels of a name: the texts between its dots. -/
def labels : List Char → List (List Char)
  | [] => [[]]
  | c :: cs =>
    match labels cs with
    | [] => [[c]]
    | label :: rest => if c = '.' then [] :: label :: rest else (c :: label) :: rest

/-- The ASCII form of an international label, which stands after `xn--`; nothing for any other
label. -/
def asciiForm? : List Char → Option (List Char)
  | 'x' :: 'n' :: '-' :: '-' :: ascii => some ascii
  | _ => none

/-- The length of the longest ASCII form. -/
def maxAsciiForm : Nat := 2000

/-- The international label that a mapped label writes; nothing if it writes none. -/
def internationalLabel? (label : List Char) : Option (List Char) :=
  match asciiForm? label with
  | none => some label
  | some ascii => do
    let decoded ← if ascii.length ≤ maxAsciiForm then Punycode.decode? ascii else none
    if decoded.any (fun c => 0x80 ≤ c.toNat) && isMapped decoded && !decoded.any isForbidden
    then some decoded else none

/-- The form in which a name is looked up; nothing if the name is bad. -/
def mapped? (name : List Char) : Option (List Char) := do
  let form := mapped name
  let decoded ← (labels form).mapM internationalLabel?
  if !form.any isForbidden && decoded.all isGoodLabel && runTogether decoded
  then some form else none

/-! ## Names that write an IPv4 address -/

/-- The labels of a name without the empty one after a last dot. -/
def significantLabels (name : List Char) : List (List Char) :=
  let ls := labels name
  if ls.getLast? = some [] then ls.dropLast else ls

/-- The number that a label writes: hexadecimal after `0x`, octal after another `0`, decimal
otherwise; nothing for a label that writes none. -/
def labelNumber? (label : List Char) : Option Nat :=
  let inBase (base : Nat) (ds : List Char) : Option Nat :=
    if ds.all (isDigitOf base) then some (numeral base ds) else none
  match label with
  | [] => none
  | '0' :: 'x' :: ds => inBase 16 ds
  | '0' :: d :: ds => inBase 8 (d :: ds)
  | ds => inBase 10 ds

/-- Whether the last label is a number, so that the name can only be an IPv4 address. -/
def endsInNumber (name : List Char) : Bool :=
  match (significantLabels name).getLast? with
  | none => false
  | some label => (label ≠ [] && label.all Char.isDigit) || (labelNumber? label).isSome

/-- The address that a name writes: up to four numbers, of which the last fills the places that are
left and the others fill one each. -/
def ipv4OfName? (name : List Char) : Option Nat := do
  let numbers ← (significantLabels name).mapM labelNumber?
  let last ← numbers.getLast?
  let leading := numbers.dropLast
  if numbers.length ≤ 4 ∧ leading.all (· ≤ 255) ∧ last < Nat.pow 256 (4 - leading.length) then
    some (leading.foldl (fun v n => v * 256 + n) 0 * Nat.pow 256 (4 - leading.length) + last)
  else none

end Signpost.Net.DomainName
