import Signpost.Log.Level
import Signpost.Text.Alphanumeric
import Signpost.Text.Blank
import Signpost.Text.Digits
import Signpost.Text.LowerCase

/-!
# Log filters

Which events are written is decided by a filter, a list of directives divided by commas.  A
directive is a level, a target, or a target with a level: `info`, `web`, `web=debug`.  It covers
every target that begins with its own, a level alone covers all, and the directive with the longest
target counts; of two for the same target the later counts.  A target without a level lets
everything through.

`Filter.defaultText` is the filter for a log level from the settings; it names the service and its
HTTP library, so that nothing else is written.
-/

namespace Signpost.Log

open Signpost.Text

/-- The least important level that is written; nothing if none is. -/
abbrev Threshold := Option Level

/-- The levels by number, from none to all. -/
def thresholds : List Threshold :=
  [none, some .error, some .warn, some .info, some .debug, some .trace]

/-- The threshold that a text names: a number up to five, a level in any case, or `off`. -/
def Threshold.ofString? (s : String) : Option Threshold :=
  let name := String.ofList (s.toList.map Char.toLower)
  let ds := match s.toList with
    | '+' :: ds => ds
    | ds => ds
  if ds ≠ [] ∧ ds.all Char.isDigit then thresholds[numeral 10 ds]?
  else if name = "off" then some none
  else (Level.ofName? name).map some

/-- Lets events of some targets through. -/
structure Directive where
  /-- The beginning of the targets that are covered; nothing for all targets. -/
  target : Option String
  /-- The threshold for them. -/
  threshold : Threshold
  deriving DecidableEq, Repr

/-- A character that a directive may begin with. -/
def startsDirective (c : Char) : Bool :=
  isAlphanumeric c || c = '_' || c = '-' || c = ':'

/-- The directive that a text writes.  A directive with a level cannot begin with a blank. -/
def Directive.ofString? (s : String) : Option Directive :=
  let cs := s.toList
  let target := cs.takeWhile (· ≠ '=')
  if !((trimStart cs).head?.any startsDirective) || cs.contains '[' then none
  else
    match cs.dropWhile (· ≠ '=') with
    | [] =>
      match Threshold.ofString? s with
      | some threshold => some ⟨none, threshold⟩
      | none => some ⟨some s, some .trace⟩
    | _ :: level =>
      if trimStart cs ≠ cs then none
      else if level = [] then some ⟨some (String.ofList target), some .trace⟩
      else (Threshold.ofString? (String.ofList level)).map (⟨some (String.ofList target), ·⟩)

/-- Whether a directive covers a target. -/
def Directive.covers (d : Directive) (target : String) : Bool :=
  match d.target with
  | none => true
  | some t => t.toList.isPrefixOf target.toList

/-- How specific a directive is. -/
def Directive.weight (d : Directive) : Nat :=
  match d.target with
  | none => 0
  | some t => t.length + 1

/-- A list of directives. -/
abbrev Filter := List Directive

namespace Filter

/-- The texts between the commas of a text. -/
def clauses (s : String) : List String :=
  let rec split (current : List Char) : List Char → List String
    | [] => [String.ofList current.reverse]
    | c :: cs =>
      if c = ',' then String.ofList current.reverse :: split [] cs else split (c :: current) cs
  split [] s.toList

/-- The filter that a text writes.  A filter without directives lets errors through. -/
def ofString? (s : String) : Option Filter :=
  match (clauses s).filter (· ≠ "") with
  | [] => some [⟨none, some .error⟩]
  | texts => texts.mapM Directive.ofString?

/-- The directive that counts for a target. -/
def directiveFor? (filter : Filter) (target : String) : Option Directive :=
  filter.foldl (fun best d =>
    if !d.covers target then best
    else match best with
      | some b => if b.weight ≤ d.weight then some d else best
      | none => some d) none

/-- Whether an event of a target and level is written. -/
def lets (filter : Filter) (target : String) (level : Level) : Bool :=
  match (filter.directiveFor? target).bind (·.threshold) with
  | some threshold => threshold.severity ≤ level.severity
  | none => false

/-- The filter text for a log level from the settings. -/
def defaultText (logLevel : String) : String :=
  "lang_redirect=" ++ toLowerCase logLevel ++ ",tower_http=" ++ toLowerCase logLevel

/-- The filter in force: the one from the environment if it is good, else the one for the log level
from the settings. -/
def inForce (fromEnvironment : Option String) (logLevel : String) : Filter :=
  match fromEnvironment.bind ofString? with
  | some filter => filter
  | none => (ofString? (defaultText logLevel)).getD []

end Filter

end Signpost.Log
