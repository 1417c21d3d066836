import Signpost.Negotiation.Token
import Signpost.Text.LowerCase

/-!
# Preferences and their ranking

A preference is a language tag with a weight.  A ranking collects preferences in the order in which
their tags first occur: a tag that occurs again keeps its place and takes the later weight.
Ordered by falling weight, with equal weights left in place, it is the order in which a visitor
wants to be served.

* `Ranking.insert` finds the place of a tag in the index `positions`.
* `Ranking.ordered` is the ranked list.
* `Preference.ofHeader` reads a language header into its ranked preferences.
* `Preference.code` is the key under which a landing page for the preference is looked up.
-/

namespace Signpost.Negotiation

open Signpost.Text

/-- A language tag as the visitor spelled it, with its weight. -/
structure Preference where
  /-- The language tag. -/
  tag : String
  /-- How much the language is wanted. -/
  weight : Weight
  deriving DecidableEq, Repr

/-- The first two characters of the tag in lower case; blanks at its end do not count. -/
def Preference.code (p : Preference) : String :=
  String.ofList (lowerCase ((trimEnd p.tag.toList).take 2))

/-- Preferences in the order of their tags' first occurrence. -/
structure Ranking where
  /-- The preferences, one for each tag. -/
  preferences : List Preference
  /-- The place of each tag in `preferences`. -/
  positions : List (String × Nat)

namespace Ranking

/-- The ranking without preferences. -/
def empty : Ranking := ⟨[], []⟩

/-- Adds a preference at the end, or gives its weight to the place its tag already has. -/
def insert (r : Ranking) (p : Preference) : Ranking :=
  match r.positions.lookup p.tag with
  | some i => { r with preferences := r.preferences.modify i ({ · with weight := p.weight }) }
  | none => ⟨r.preferences ++ [p], (p.tag, r.preferences.length) :: r.positions⟩

/-- Collects preferences in order. -/
def ofList (ps : List Preference) : Ranking :=
  ps.foldl insert empty

/-- The preferences by falling weight; equal weights stay in order. -/
def ordered (r : Ranking) : List Preference :=
  r.preferences.mergeSort fun a b => b.weight ≤ a.weight

end Ranking

/-- The preference that a token states; nothing if the policy discards the token. -/
def Token.preference? (policy : Policy) (t : Token) : Option Preference :=
  (t.weight? policy).map (⟨String.ofList t.tag, ·⟩)

/-- The preferences that a language header states, strongest first. -/
def Preference.ofHeader (policy : Policy) (header : String) : List Preference :=
  (Ranking.ofList ((tokens policy header.toList).filterMap (·.preference? policy))).ordered

end Signpost.Negotiation
