import Signpost.Negotiation.Resolution
import Signpost.Text.Digits
import Signpost.Text.Quoted

/-!
# Counting redirects

Every redirect is counted under the language it was sent to and whether that language was only the
fallback.  Apart from that the time it took is measured; of the measurements only their number is
kept.  All this is reported as lines of text, in ascending order; a number that is zero has no line.
-/

namespace Signpost

open Negotiation (Resolution)

/-- What redirects are counted by. -/
structure RedirectLabel where
  /-- The code of the language. -/
  language : String
  /-- Whether the language was the fallback. -/
  fallback : Bool
  deriving DecidableEq, Repr

/-- The label of a redirect to a landing page. -/
def RedirectLabel.of (r : Resolution) : RedirectLabel :=
  ⟨r.language, r.fallback⟩

/-- The counts of redirects, and the number of measured durations. -/
structure Tally where
  /-- The count of each label that has been counted. -/
  counts : List (RedirectLabel × Nat) := []
  /-- How many durations have been measured. -/
  durations : Nat := 0
  deriving DecidableEq, Repr

namespace Tally

/-- The count of a label. -/
def count (t : Tally) (label : RedirectLabel) : Nat :=
  (t.counts.lookup label).getD 0

/-- One redirect more: it is counted, and its duration is measured. -/
def record (t : Tally) (label : RedirectLabel) : Tally where
  counts := match t.counts.lookup label with
    | none => t.counts ++ [(label, 1)]
    | some _ => t.counts.map fun e => if e.1 = label then (label, e.2 + 1) else e
  durations := t.durations + 1

/-- The line of one label. -/
def line (label : RedirectLabel) (count : Nat) : String :=
  "redirect_requests_total\x7blanguage=" ++ Text.quote label.language ++ ",fallback="
    ++ Text.quote (if label.fallback then "true" else "false") ++ "\x7d " ++ Text.digits 10 1 count

/-- The line of the measured durations. -/
def durationLine (count : Nat) : String :=
  "redirect_request_duration_seconds_count " ++ Text.digits 10 1 count

/-- The lines of the report. -/
def lines (t : Tally) : List String :=
  let durations := if t.durations = 0 then [] else [durationLine t.durations]
  (durations ++ t.counts.map fun e => line e.1 e.2).mergeSort (· ≤ ·)

end Tally

end Signpost
