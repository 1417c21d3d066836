import Signpost.Text.CaseTable

/-!
# Lower-casing a text

The full Unicode lower-case mapping of a text.  A character is replaced by its image under the
table of simple mappings, with two exceptions.

* `U+0130`, the capital I with a dot, becomes two characters: `i` and a combining dot.
* A capital sigma becomes the final form `ς` where it ends a word: the nearest character before
  it that is not case-ignorable is cased, and the nearest such character after it is not.

The mapping of a character therefore depends on its neighbours, and `lowerCaseAfter` carries the
text already read, latest character first.
-/

namespace Signpost.Text

/-- The image of one character, its neighbours aside. -/
def lowerImage (c : Char) : List Char :=
  if c.toNat = 0x130 then ['i', '\u0307']
  else [(imageInRuns? lowerCaseRuns c).getD c]

/-- Whether the first character that is not case-ignorable is a cased one. -/
def startsCased (cs : List Char) : Bool :=
  match cs.dropWhile (inRanges caseIgnorableRanges) with
  | [] => false
  | c :: _ => inRanges casedRanges c

/-- The image of the character `c` between the text `before` it, read backwards, and the text
`after` it. -/
def lowerImageBetween (before : List Char) (c : Char) (after : List Char) : List Char :=
  if c = 'Σ' then
    if startsCased before && !startsCased after then ['ς'] else ['σ']
  else lowerImage c

/-- Lower-cases what follows the text `before`, which is given backwards. -/
def lowerCaseAfter (before : List Char) : List Char → List Char
  | [] => []
  | c :: after => lowerImageBetween before c after ++ lowerCaseAfter (c :: before) after

/-- The lower-case form of a list of characters. -/
def lowerCase (cs : List Char) : List Char :=
  lowerCaseAfter [] cs

/-- The lower-case form of a text. -/
def toLowerCase (s : String) : String :=
  String.ofList (lowerCase s.toList)

end Signpost.Text
