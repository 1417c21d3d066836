import Signpost.Net.DomainName.MappingTable
import Signpost.Text.Composition
import Signpost.Text.LowerCase
import Signpost.Text.Unassigned

/-!
# Mapping domain names

What a domain name is looked up as.  Letters are lower-cased, variants of a character are replaced
by the character itself, and characters that leave no trace are taken out.

* `mapChar` is the image of one character, and `mapped` the image of a text, in composed form.
* `isForbidden` tells the characters that no name can hold, once it has been mapped.
-/

namespace Signpost.Net.DomainName

open Signpost.Text

/-- The text that a character of one of the blocks stands for. -/
def imageInBlocks? (c : Char) : Option String :=
  match imageBlocks.find? fun b => c.toNat < b.first + b.images.length with
  | some b => if b.first ≤ c.toNat then b.images[c.toNat - b.first]? else none
  | none => none

/-- What a character of a name is looked up as. -/
def mapChar (c : Char) : List Char :=
  if inRanges ignoredRanges c then []
  else match imageInBlocks? c, imageInRuns? imageRuns c with
    | some image, _ => image.toList
    | none, some image => [image]
    | none, none => lowerImage c

/-- What a text in a name is looked up as. -/
def mapped (cs : List Char) : List Char :=
  composed (cs.flatMap mapChar)

/-- Whether a text is looked up as itself. -/
def isMapped (cs : List Char) : Bool :=
  cs.all (fun c => mapChar c = [c]) && composed cs = cs

/-- Whether no mapped name can hold the character. -/
def isForbidden (c : Char) : Bool :=
  if c.toNat < 0x80 then c.toNat ≤ 0x20 || c.toNat = 0x7F || "%#/:<>?@[\\]^|".toList.contains c
  else inRanges disallowedRanges c || isUnassigned c

end Signpost.Net.DomainName
