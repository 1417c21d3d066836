import Mathlib.Tactic.Common
import Signpost.Proofs.Service.Visits
import Signpost.Proofs.Settings.LogLevel

/-!
# What the service tells

**Levels.**  The filter for a log level lets through what the service tells at this level or above it
(`Log.Filter.written_inForce`).

**Redirects.**  Every redirect that is counted is told, and no other (`Service.tells_every_redirect`).

**Errors.**  With valid settings nothing goes wrong but that a new version of the settings file is bad.
Each such version is told as an error, and there are no other errors (`Service.errors_are_bad_files`).
-/

namespace Signpost

open Http Log Negotiation Server Text

/-! ## Levels -/

/-- **The filter for a log level** lets through what the service tells at this level or above it. -/
theorem Log.Filter.written_inForce {asked : Option String} {text : String} {level : Level}
    (hasked : asked.bind ofString? = none) (h : EqUpToCase text level.name)
    (events : List Event) :
    (inForce asked text).written events =
      events.filter fun e => level.severity ≤ e.level.severity := by
  have hfilter : inForce asked text =
      [⟨some "lang_redirect", some level⟩, ⟨some "tower_http", some level⟩] := by
    rw [inForce, hasked, ofString?_defaultText h]
    rfl
  -- the targets of all parts of the service begin with the name of the service
  have hdirective : ∀ source : Source, directiveFor? (inForce asked text) source.target =
      some ⟨some "lang_redirect", some level⟩ := by
    intro source
    rw [hfilter]
    cases source <;> rfl
  refine List.filter_congr fun e _ => ?_
  rw [lets, hdirective]
  rfl

/-- The filter `trace` lets everything through. -/
lemma Log.Filter.written_inForce_trace (text : String) (events : List Event) :
    (inForce (some "trace") text).written events = events := by
  have hfilter : inForce (some "trace") text = [⟨none, some .trace⟩] := by
    have htrace : ofString? "trace" = some [⟨none, some .trace⟩] := by decide +kernel
    rw [inForce, Option.bind_some, htrace]
  refine List.filter_eq_self.2 fun e _ => ?_
  rw [hfilter]
  show decide (Level.trace.severity ≤ e.level.severity) = true
  cases e.level <;> rfl

namespace Service

/-! ## Redirects -/

/-- **The log and the report agree.**  The redirects that have been told are those that are counted: each
label as often as it was told, and as many durations as redirects. -/
theorem tells_every_redirect {settings : Settings} {server : Server}
    (h : start? settings = .ok server) (path : String) (host : Host) (vs : List Visit) :
    let visited := visits path host server vs
    let told := (visited.1.filterMap Event.resolution?).map RedirectLabel.of
    (∀ label, visited.2.2.tally.count label = told.count label) ∧
      visited.2.2.tally.durations = told.length := by
  intro visited told
  have hagree : Agrees visited _ :=
    visits_agree path host (follows_of_start? h) List.not_mem_nil vs
  have htold : told = redirectLabels (server.run (vs.flatMap
      (Visit.actions host settings.reload.enabled))).1 := by
    show (visited.1.filterMap Event.resolution?).map RedirectLabel.of = _
    rw [hagree.redirects, List.map_filterMap, redirectLabels]
  have hcounts := counts_run (counts_of_start? h) (vs.flatMap
    (Visit.actions host settings.reload.enabled))
  rw [List.nil_append, ← htold, ← hagree.server] at hcounts
  exact ⟨hcounts.count_eq, hcounts.durations⟩

/-! ## Errors -/

/-- The error that is told of a new version of the settings file, if it is bad. -/
def failure? (host : Host) (file : FileState) : Option Event :=
  match Settings.load? file with
  | .error error => some (.reloadFailed (error.message (host.parseDetail file)))
  | .ok _ => none

/-- The errors among some events. -/
def errors (events : List Event) : List Event :=
  events.filter fun e => e.level = .error

lemma errors_append (a b : List Event) : errors (a ++ b) = errors a ++ errors b :=
  List.filter_append a b

/-- Nothing is wrong with a redirect to a location that a field can carry. -/
lemma errors_answerEvents (policy : Policy) (r : Request) {answer : Answer}
    (h : ∀ resolution, answer.resolution = some resolution → isFieldText resolution.location = true) :
    errors (answerEvents policy r answer) = [] := by
  unfold answerEvents
  split
  · next resolution hresolution =>
    unfold errors redirectEvents
    simp [h resolution hresolution, List.filter_map, Function.comp_def, Event.level]
  · rfl

/-- Nothing is wrong with settings that are not rejected. -/
lemma errors_updateEvents {report : UpdateReport} (h : report.rejection = none) (sites : SiteMap) :
    errors (updateEvents report sites) = [] := by
  unfold errors updateEvents
  simp [h, List.filter_map, Function.comp_def, Event.level]

/-- The resolution of an answer is that of its request. -/
lemma resolution_of_handle {server : Server} {freshId : String} {r : Request} {answer : Answer}
    (h : (server.handle freshId r).1 = some answer) {resolution : Resolution}
    (hresolution : answer.resolution = some resolution) :
    resolution = Answer.resolveRequest server.settings.negotiation.invalidWeight server.sites r := by
  rw [handle_answer] at h
  rcases Answer.cases_of_toRequest? h with ⟨-, hsome, -⟩ | ⟨-, hnone, -⟩
  · exact Option.some.inj (hresolution.symm.trans hsome)
  · rw [hnone] at hresolution
    cases hresolution

/-- Nothing is wrong with a request while the pages can be sent. -/
lemma errors_request (host : Host) {server : Server} (freshId : String) (r : Request)
    (htext : ∀ policy header, isFieldText (resolve policy header server.sites).location = true) :
    errors (request host server freshId r).1 = [] := by
  cases hreachable : host.isReachable with
  | false =>
      rw [request_of_unreachable hreachable]
      rfl
  | true =>
      rw [request_of_reachable hreachable]
      have hresolution : ∀ answer, (server.handle freshId (arriving r)).1 = some answer →
          ∀ resolution, answer.resolution = some resolution →
            isFieldText resolution.location = true := by
        intro answer hanswer resolution hsome
        rw [resolution_of_handle hanswer hsome]
        exact htext _ _
      revert hresolution
      rcases server.handle freshId (arriving r) with ⟨_ | answer, after⟩ <;> intro hresolution
      · rfl
      · exact errors_answerEvents _ _ (hresolution answer rfl)

/-- A new version of the settings file is told as an error if it is bad, and watched. -/
lemma errors_replaceFile (path : String) (host : Host) (server : Server) (file : FileState) :
    errors (replaceFile path host server file).1 =
      if server.settings.reload.enabled then (failure? host file).toList else [] := by
  unfold failure?
  cases hwatched : server.settings.reload.enabled with
  | false =>
      rw [replaceFile_of_unwatched path host hwatched]
      rfl
  | true =>
      rw [replaceFile_of_watched path host hwatched, if_pos rfl]
      cases hload : Settings.load? file with
      | error error => rfl
      | ok next =>
          have hvalid := Settings.valid_of_load? hload
          exact errors_updateEvents
            ((update_rejection_eq_none_iff server next).2 hvalid.fallbackPage) _

/-- **The only errors are bad settings files.**  The service has been started with valid settings.  Then
each new version of the settings file that does not load is told as an error, if the file is watched, in
order and with what is wrong with it; and nothing else is told as an error. -/
theorem errors_are_bad_files {settings : Settings} {server : Server} (hvalid : settings.Valid)
    (h : start? settings = .ok server) (path : String) (host : Host) (vs : List Visit) :
    errors (visits path host server vs).1 =
      if settings.reload.enabled then (vs.filterMap Visit.file?).filterMap (failure? host) else [] := by
  induction vs using List.reverseRecOn with
  | nil => exact (ite_self _).symm
  | append_singleton vs v ih =>
      have hnow := follows_visits path host h vs
      have hlast : errors (visit path host (visits path host server vs).2.2 v).1 =
          if settings.reload.enabled then ([v].filterMap Visit.file?).filterMap (failure? host)
          else [] := by
        cases v with
        | request freshId r =>
            have htext := hnow.isFieldText_location hvalid fun next hnext =>
              valid_of_update_mem_actions host hnext
            rw [visit, errors_request host freshId r htext]
            exact (ite_self _).symm
        | replaceFile file =>
            have hone : [file].filterMap (failure? host) = (failure? host file).toList := by
              rw [List.filterMap_cons]
              cases failure? host file <;> rfl
            rw [visit, errors_replaceFile, hnow.settings, ← hone]
            rfl
      have hall : (visits path host server (vs ++ [v])).1 = (visits path host server vs).1 ++
          (visit path host (visits path host server vs).2.2 v).1 := by
        rw [visits_append]
        exact congrArg _ (List.append_nil _)
      rw [hall, errors_append, ih, hlast, List.filterMap_append, List.filterMap_append]
      split <;> rfl

end Service

end Signpost
