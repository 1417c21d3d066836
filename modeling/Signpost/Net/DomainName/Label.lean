import Signpost.Text.Combining
import Signpost.Text.Direction
import Signpost.Text.Joining

/-!
# Labels of domain names

The rules on what stands where in a label, one of the parts of a name between its dots.

* A label does not begin with a mark, and if it is not plain ASCII its length is bounded.
* A **joiner** without width stands after a sign that takes the vowel from a consonant.  The one
  that keeps letters apart may also stand between letters that would be joined without it.
* If some character of the whole name belongs to a **direction** from right to left, every label
  runs one way: it begins with a letter, which tells the way; no letter of the other way follows; it
  ends in a letter or a digit; and digits of both kinds do not meet in a label from right to left.
-/

namespace Signpost.Net.DomainName

open Signpost.Text

/-! ## Joiners -/

/-- The joiner that keeps letters apart. -/
def nonJoiner : Char := '\u200C'

/-- The joiner that joins letters. -/
def joiner : Char := '\u200D'

/-- Whether the first character that is not passed over is joined in one of the given ways. -/
def startsJoined (ways : List Joining) (cs : List Char) : Bool :=
  match cs.dropWhile (joining · = .transparent) with
  | [] => false
  | c :: _ => ways.contains (joining c)

/-- Whether a character may stand between the text `before` it, read backwards, and the text `after`
it, as far as joiners are concerned. -/
def fitsBetween (before : List Char) (c : Char) (after : List Char) : Bool :=
  if c ≠ nonJoiner ∧ c ≠ joiner then true
  else match before with
    | [] => false
    | d :: _ => combiningClass d = viramaClass
        || (c = nonJoiner && startsJoined [.onward, .dual] before
          && startsJoined [.backward, .dual] after)

/-- Whether the joiners of a text fit in after the text `before`, which is given backwards. -/
def joinersFit (before : List Char) : List Char → Bool
  | [] => true
  | c :: after => fitsBetween before c after && joinersFit (c :: before) after

/-! ## Direction -/

/-- Whether a character belongs to a direction from right to left. -/
def isRightToLeft (c : Char) : Bool :=
  direction c = .rightToLeft || direction c = .arabicNumber

/-- Whether all characters are of the given kinds, and the last one that is no mark is of one of the
kinds to end in. -/
def consistsOf (kinds ends : List Direction) (label : List Char) : Bool :=
  label.all (fun c => kinds.contains (direction c))
    && (label.reverse.find? fun c => direction c ≠ .mark).all fun c => ends.contains (direction c)

/-- Whether a label runs one way. -/
def runsOneWay (label : List Char) : Bool :=
  match label.head?.map direction with
  | none => true
  | some .leftToRight =>
    consistsOf [.leftToRight, .europeanNumber, .neutral, .mark]
        [.leftToRight, .europeanNumber] label
  | some .rightToLeft =>
    consistsOf [.rightToLeft, .arabicNumber, .europeanNumber, .neutral, .mark]
        [.rightToLeft, .arabicNumber, .europeanNumber] label
      && !(label.any (direction · = .arabicNumber) && label.any (direction · = .europeanNumber))
  | some _ => false

/-! ## Labels -/

/-- The length of the longest label that is not plain ASCII. -/
def maxLabel : Nat := 1000

/-- Whether a label is good on its own. -/
def isGoodLabel (label : List Char) : Bool :=
  !label.head?.any isMark && joinersFit [] label
    && (label.length ≤ maxLabel || label.all (·.toNat < 0x80))

/-- Whether the labels of a name go together. -/
def runTogether (labels : List (List Char)) : Bool :=
  !labels.any (·.any isRightToLeft) || labels.all runsOneWay

end Signpost.Net.DomainName
