import Signpost.Text.Combining
import Signpost.Text.CompositionTable

/-!
# Composed form

The same text can be spelled with composed characters, or with letters and separate marks whose
order is not fixed.  `composed` finds the one spelling with composed characters.

* `decompose` takes a character apart.
* `ordered` sorts neighbouring marks by their combining class; marks of one class keep their order.
* `recompose` puts a character together with a later mark, unless something between them is in the
  way: a character that stays where it is, or a mark of the same class.

Characters that no composition yields, such as the second copies of ideographs, are left alone;
where that would matter they have been replaced before.
-/

namespace Signpost.Text

/-! ## Pairs of characters -/

/-- The syllable of a leading consonant and a vowel, or of a syllable and a trailing consonant. -/
def hangulComposition? (a b : Nat) : Option Nat :=
  if 0x1100 ≤ a ∧ a < 0x1113 ∧ 0x1161 ≤ b ∧ b < 0x1176 then
    some (0xAC00 + ((a - 0x1100) * 21 + (b - 0x1161)) * 28)
  else if 0xAC00 ≤ a ∧ a < 0xD7A4 ∧ (a - 0xAC00) % 28 = 0 ∧ 0x11A7 < b ∧ b < 0x11C3 then
    some (a + (b - 0x11A7))
  else none

/-- The two parts of a syllable, the first of which may be a syllable again. -/
def hangulParts? (c : Nat) : Option (Nat × Nat) :=
  if 0xAC00 ≤ c ∧ c < 0xD7A4 then
    let trailing := (c - 0xAC00) % 28
    if trailing = 0 then some (0x1100 + (c - 0xAC00) / 588, 0x1161 + (c - 0xAC00) / 28 % 21)
    else some (c - trailing, 0x11A7 + trailing)
  else none

/-- The character that a pair of characters is the same as. -/
def compositionOf? (a b : Char) : Option Char :=
  match hangulComposition? a.toNat b.toNat with
  | some c => some (Char.ofNat c)
  | none =>
    match compositionGroups.find? (b.toNat ≤ ·.second) with
    | some g => if g.second = b.toNat then (g.firsts.lookup a.toNat).map Char.ofNat else none
    | none => none

/-- The pair of characters that a character is the same as. -/
def partsOf? (c : Char) : Option (Char × Char) :=
  match hangulParts? c.toNat with
  | some (a, b) => some (Char.ofNat a, Char.ofNat b)
  | none => compositionGroups.findSome? fun g =>
      (g.firsts.find? (·.2 = c.toNat)).map fun p => (Char.ofNat p.1, Char.ofNat g.second)

/-! ## Taking apart and putting together -/

/-- The most times that the first part of a character can be taken apart again.  The second part
never can. -/
def maxParts : Nat := 3

/-- The characters that a character is put together from. -/
def decompose : (depth : Nat) → Char → List Char
  | 0, c => [c]
  | depth + 1, c =>
    match partsOf? c with
    | some (a, b) => decompose depth a ++ [b]
    | none => [c]

/-- Puts a character behind a text, which is given backwards, but before the marks of higher classes
at its end. -/
def insertMark (c : Char) : List Char → List Char
  | [] => [c]
  | d :: ds =>
    if 0 < combiningClass c ∧ combiningClass c < combiningClass d then d :: insertMark c ds
    else c :: d :: ds

/-- A text with neighbouring marks in the order of their classes. -/
def ordered (cs : List Char) : List Char :=
  (cs.foldl (fun done c => insertMark c done) []).reverse

/-- Whether a character is kept from an earlier one by the marks between them, which are given
backwards. -/
def isBlocked (between : List Char) (c : Char) : Bool :=
  match between with
  | [] => false
  | d :: _ => combiningClass c ≤ combiningClass d

/-- Puts `starter` together with what follows.  The marks `between` that have stayed separate are
given backwards. -/
def recomposeFrom (starter : Char) (between : List Char) : List Char → List Char
  | [] => starter :: between.reverse
  | c :: cs =>
    match if isBlocked between c then none else compositionOf? starter c with
    | some whole => recomposeFrom whole between cs
    | none =>
      if combiningClass c = 0 then starter :: between.reverse ++ recomposeFrom c [] cs
      else recomposeFrom starter (c :: between) cs

/-- Puts together what can be. -/
def recompose : List Char → List Char
  | [] => []
  | c :: cs => if combiningClass c = 0 then recomposeFrom c [] cs else c :: recompose cs

/-- Least code point of a character that is a mark, or the second part of another character. -/
def firstMark : Nat := 0x300

/-- The spelling of a text with composed characters.  A text without marks is spelled that way
already. -/
def composed (cs : List Char) : List Char :=
  if cs.all (·.toNat < firstMark) then cs
  else recompose (ordered (cs.flatMap (decompose maxParts)))

end Signpost.Text
