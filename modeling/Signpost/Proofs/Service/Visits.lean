import Mathlib.Tactic.Common
import Signpost.Proofs.Reload
import Signpost.Proofs.Server.Counting
import Signpost.Service

/-!
# What visits do

A visit to the service is an action on its server, or none: a request is one if it can arrive, and a new
version of the settings file is one if the file is watched and loads (`Visit.actions`).

**Reloading.**  A new version of a watched file is a reload, and an update of the server with what the reload
sends (`Service.replaceFile_reloads`).  So the settings that visits send to the server are those that the watch
sends on (`Service.filterMap_sent?_actions`).

**Steps and runs.**  `Service.Agrees` says that visits leave the server that the actions lead to, and tell the
redirects among the outcomes of the actions.  `Service.visit_agrees` is one visit, `Service.visits_agree` a
sequence of them.

**`Service.serves_last_good_file`** says what comes of each visit.
-/

namespace Signpost

open Http Log Negotiation Text

/-- The page that an event tells a visitor was sent to. -/
def Log.Event.resolution? : Event → Option Resolution
  | redirecting _ _ resolution => some resolution
  | _ => none

/-- The new version of the settings file, if a visit brings one. -/
def Visit.file? : Visit → Option FileState
  | replaceFile file => some file
  | request _ _ => none

/-- What a visit does to the server, given whether the settings file is watched. -/
def Visit.actions (host : Host) (isWatched : Bool) : Visit → List Server.Action
  | request freshId r => if host.isReachable then [.request freshId (Service.arriving r)] else []
  | replaceFile file => if isWatched then (Watch.loaded [file]).map .update else []

lemma Visit.stop_not_mem_actions (host : Host) (isWatched : Bool) (v : Visit) :
    Server.Action.stop ∉ v.actions host isWatched := by
  cases v with
  | request freshId r =>
      unfold actions
      split <;> simp
  | replaceFile file =>
      unfold actions
      split <;> simp

namespace Service

open Server

/-! ## Requests as they arrive -/

lemma values_arriving {name : String} (hhost : name ≠ "host") (hconnection : name ≠ "connection")
    (r : Request) : Fields.values name (arriving r).fields = Fields.values name r.fields := by
  simp [arriving, closing, Fields.values, Field.ofText, Ne.symm hhost, Ne.symm hconnection]

lemma acceptLanguage?_arriving (r : Request) :
    Fields.acceptLanguage? (arriving r).fields = Fields.acceptLanguage? r.fields := by
  rw [Fields.acceptLanguage?, Fields.acceptLanguage?, values_arriving (by decide) (by decide)]

lemma announcedSize?_arriving (r : Request) : (arriving r).announcedSize? = r.announcedSize? := by
  rw [Request.announcedSize?, Request.announcedSize?, Fields.first?, Fields.first?,
    values_arriving (by decide) (by decide)]

/-! ## One visit -/

/-- Visits leave the server that some actions lead to, and tell the redirects among their outcomes. -/
structure Agrees {α : Type} (visited : List Event × α × Server) (ran : List Outcome × Server) :
    Prop where
  server : visited.2.2 = ran.2
  redirects : visited.1.filterMap Event.resolution? = ran.1.filterMap Outcome.resolution?

lemma filterMap_redirectEvents (policy : Policy) (r : Request) (resolution : Resolution) :
    (redirectEvents policy r resolution).filterMap Event.resolution? = [resolution] := by
  have hdropped : ∀ dropped : List Token, (dropped.map fun t => Event.droppedFactor
      (String.ofList t.tag) (String.ofList (trim (t.factor.getD [])))).filterMap
      Event.resolution? = [] := by
    intro dropped
    rw [List.filterMap_map, List.filterMap_eq_nil_iff]
    exact fun t _ => rfl
  unfold redirectEvents
  dsimp only
  rw [List.filterMap_append, List.filterMap_append, hdropped]
  split <;> rfl

lemma filterMap_answerEvents (policy : Policy) (r : Request) (answer : Answer) :
    (answerEvents policy r answer).filterMap Event.resolution? = answer.resolution.toList := by
  unfold answerEvents
  cases answer.resolution with
  | none => rfl
  | some resolution => exact filterMap_redirectEvents policy r resolution

lemma filterMap_updateEvents (report : UpdateReport) (sites : SiteMap) :
    (updateEvents report sites).filterMap Event.resolution? = [] := by
  have hwarnings : (report.restartRequired.map Event.restartRequired).filterMap
      Event.resolution? = [] := by
    rw [List.filterMap_map, List.filterMap_eq_nil_iff]
    exact fun changed _ => rfl
  unfold updateEvents
  cases report.rejection <;> exact hwarnings

/-- What comes of a request that can arrive. -/
lemma request_of_reachable {host : Host} (h : host.isReachable = true) (server : Server)
    (freshId : String) (r : Request) :
    request host server freshId r =
      match server.handle freshId (arriving r) with
      | (none, after) => ([], .unanswered, after)
      | (some answer, after) =>
        (answerEvents after.settings.negotiation.invalidWeight ((arriving r).addId freshId) answer,
          .answered (answer.response.withDefault closing), after) := by
  rw [request, h]
  rfl

lemma request_of_unreachable {host : Host} (h : host.isReachable = false) (server : Server)
    (freshId : String) (r : Request) :
    request host server freshId r = ([], .unreachable, server) := by
  rw [request, h]
  rfl

/-- What comes of a new version of a file that is watched. -/
lemma replaceFile_of_watched (path : String) (host : Host) {server : Server}
    (h : server.settings.reload.enabled = true) (file : FileState) :
    replaceFile path host server file =
      match Settings.load? file with
      | .error error =>
        ([.changeDetected path, .reloadFailed (error.message (host.parseDetail file))],
          .reloaded false, server)
      | .ok next =>
        (.changeDetected path :: updateEvents (server.update next).1 (server.update next).2.sites,
          .reloaded true, (server.update next).2) := by
  rw [replaceFile, h]
  rfl

lemma replaceFile_of_unwatched (path : String) (host : Host) {server : Server}
    (h : server.settings.reload.enabled = false) (file : FileState) :
    replaceFile path host server file = ([], .reloaded false, server) := by
  rw [replaceFile, h]
  rfl

/-- **A new version of a watched file is a reload, and an update with what the reload sends.**  Whatever the
watch has done before, the visit tells whether it has sent the settings of this version. -/
theorem replaceFile_reloads (path : String) (host : Host) {server : Server}
    (hstop : ¬ server.stopped = true) (hwatched : server.settings.reload.enabled = true) (w : Watch)
    (file : FileState) :
    ∃ added, (w.reload file).sent = w.sent ++ added ∧
      (replaceFile path host server file).2 =
        (.reloaded (w.count.ok < (w.reload file).count.ok), (server.run (added.map .update)).2) := by
  rw [replaceFile_of_watched path host hwatched, Watch.reload_eq]
  refine ⟨Watch.loaded [file], List.filterMap_append, ?_⟩
  cases hload : Settings.load? file with
  | error error =>
      rw [Watch.loaded_singleton_of_error hload]
      simp [Server.run]
  | ok next =>
      rw [Watch.loaded_singleton_of_ok hload, List.map_singleton, run_cons, step_update hstop]
      simp [Server.run]

/-- **One visit** is what its actions are. -/
theorem visit_agrees (path : String) (host : Host) {server : Server} (h : ¬ server.stopped = true)
    (v : Visit) :
    Agrees (visit path host server v)
      (server.run (v.actions host server.settings.reload.enabled)) := by
  cases v with
  | request freshId r =>
      rw [visit, Visit.actions]
      cases hreachable : host.isReachable with
      | false =>
          rw [request_of_unreachable hreachable]
          exact ⟨rfl, rfl⟩
      | true =>
          rw [request_of_reachable hreachable, if_pos rfl, run_cons, step]
          rcases server.handle freshId (arriving r) with ⟨_ | answer, after⟩
          · exact ⟨rfl, rfl⟩
          · refine ⟨rfl, (filterMap_answerEvents _ _ answer).trans ?_⟩
            show _ = [Outcome.answered answer].filterMap Outcome.resolution?
            cases hresolution : answer.resolution <;> simp [Outcome.resolution?, hresolution]
  | replaceFile file =>
      rw [visit, Visit.actions]
      cases hwatched : server.settings.reload.enabled with
      | false =>
          rw [replaceFile_of_unwatched path host hwatched]
          exact ⟨rfl, rfl⟩
      | true =>
          rw [replaceFile_of_watched path host hwatched, if_pos rfl]
          cases hload : Settings.load? file with
          | error error =>
              rw [Watch.loaded_singleton_of_error hload]
              exact ⟨rfl, rfl⟩
          | ok next =>
              rw [Watch.loaded_singleton_of_ok hload, List.map_singleton, run_cons, step_update h]
              exact ⟨rfl, filterMap_updateEvents _ _⟩

/-! ## Sequences of visits -/

section Visits

variable (path : String) (host : Host)

lemma visits_cons (server : Server) (v : Visit) (vs : List Visit) :
    visits path host server (v :: vs) =
      ((visit path host server v).1 ++ (visits path host (visit path host server v).2.2 vs).1,
        (visit path host server v).2.1 :: (visits path host (visit path host server v).2.2 vs).2.1,
        (visits path host (visit path host server v).2.2 vs).2.2) :=
  rfl

/-- Visits go on with the server that the visits before them leave. -/
lemma visits_append (server : Server) (before after : List Visit) :
    visits path host server (before ++ after) =
      ((visits path host server before).1 ++
          (visits path host (visits path host server before).2.2 after).1,
        (visits path host server before).2.1 ++
          (visits path host (visits path host server before).2.2 after).2.1,
        (visits path host (visits path host server before).2.2 after).2.2) := by
  induction before generalizing server with
  | nil => rfl
  | cons v rest ih =>
      rw [List.cons_append, visits_cons, ih, visits_cons, List.append_assoc, List.cons_append]

lemma length_outcomes_visits (server : Server) (vs : List Visit) :
    (visits path host server vs).2.1.length = vs.length := by
  induction vs generalizing server with
  | nil => rfl
  | cons v rest ih => rw [visits_cons, List.length_cons, List.length_cons, ih]

/-- What comes of a visit depends on the server that the visits before it leave. -/
lemma getElem?_outcomes_visits (server : Server) (before : List Visit) (v : Visit)
    (after : List Visit) :
    (visits path host server (before ++ v :: after)).2.1[before.length]? =
      some (visit path host (visits path host server before).2.2 v).2.1 := by
  rw [visits_append, visits_cons, ← length_outcomes_visits path host server before]
  dsimp only
  rw [List.getElem?_append_right (Nat.le_refl _), Nat.sub_self, List.getElem?_cons_zero]

/-- **A sequence of visits** is what its actions are. -/
theorem visits_agree {start : Settings} {before : List Action} {server : Server}
    (h : Follows start before server) (hstop : .stop ∉ before) (vs : List Visit) :
    Agrees (visits path host server vs)
      (server.run (vs.flatMap (Visit.actions host start.reload.enabled))) := by
  induction vs generalizing before server with
  | nil => exact ⟨rfl, rfl⟩
  | cons v rest ih =>
      have hfirst := visit_agrees path host (mt h.stopped.1 hstop) v
      rw [h.settings] at hfirst
      have hnext := h.run (v.actions host start.reload.enabled)
      rw [← hfirst.server] at hnext
      have hrest := ih hnext (by
        rw [List.mem_append, not_or]
        exact ⟨hstop, v.stop_not_mem_actions host _⟩)
      rw [visits_cons, List.flatMap_cons, run_append, ← hfirst.server]
      refine ⟨hrest.server, ?_⟩
      rw [List.filterMap_append, List.filterMap_append, hfirst.redirects, hrest.redirects]

/-- The settings that visits send to the server, given whether the settings file is watched. -/
def sent (isWatched : Bool) (vs : List Visit) : List Settings :=
  if isWatched then (Watch.all (vs.filterMap Visit.file?)).sent else []

/-- What is sent to the server is what reloading sends on. -/
lemma filterMap_sent?_actions (isWatched : Bool) (vs : List Visit) :
    (vs.flatMap (Visit.actions host isWatched)).filterMap Action.sent? = sent isWatched vs := by
  have hupdates : ∀ all : List Settings, (all.map Action.update).filterMap Action.sent? = all := by
    intro all
    rw [List.filterMap_map]
    exact List.filterMap_some
  rw [sent, Watch.sent_all]
  induction vs with
  | nil => cases isWatched <;> rfl
  | cons v rest ih =>
      rw [List.flatMap_cons, List.filterMap_append, ih]
      cases v with
      | request freshId r =>
          have hrequest : ((Visit.request freshId r).actions host isWatched).filterMap
              Action.sent? = [] := by
            rw [Visit.actions]
            split <;> rfl
          rw [hrequest, List.nil_append]
          rfl
      | replaceFile file =>
          rw [Visit.actions]
          cases isWatched with
          | false => rfl
          | true =>
              rw [if_pos rfl, if_pos rfl, if_pos rfl, hupdates, Watch.loaded, Watch.loaded, Watch.loaded,
                ← List.filterMap_append]
              rfl

lemma valid_of_mem_sent {isWatched : Bool} {vs : List Visit} {s : Settings}
    (h : s ∈ sent isWatched vs) : s.Valid := by
  rw [sent, Watch.sent_all] at h
  split at h
  · exact Watch.valid_of_mem_loaded h
  · cases h

/-- All settings that visits send to the server are valid. -/
lemma valid_of_update_mem_actions {isWatched : Bool} {vs : List Visit} {next : Settings}
    (h : .update next ∈ vs.flatMap (Visit.actions host isWatched)) : next.Valid := by
  have hsent : next ∈ sent isWatched vs := by
    rw [← filterMap_sent?_actions host]
    exact List.mem_filterMap.2 ⟨.update next, h, rfl⟩
  exact valid_of_mem_sent hsent

lemma stop_not_mem_actions (isWatched : Bool) (vs : List Visit) :
    Action.stop ∉ vs.flatMap (Visit.actions host isWatched) := by
  rw [List.mem_flatMap]
  rintro ⟨v, -, hmem⟩
  exact v.stop_not_mem_actions host isWatched hmem

/-- The state that the visits to a started server lead to. -/
lemma follows_visits {settings : Settings} {server : Server} (h : start? settings = .ok server)
    (vs : List Visit) :
    Follows settings (vs.flatMap (Visit.actions host settings.reload.enabled))
      (visits path host server vs).2.2 := by
  rw [(visits_agree path host (follows_of_start? h) List.not_mem_nil vs).server]
  exact follows_run h _

/-- After any visits the landing pages are those of the last settings that were sent, or those of the
start if there were none. -/
lemma table_of_visits {settings : Settings} {server : Server} (h : start? settings = .ok server)
    (vs : List Visit) :
    (visits path host server vs).2.2.sites.table =
      ((sent settings.reload.enabled vs).getLast?.getD settings).sites := by
  rw [← filterMap_sent?_actions host settings.reload.enabled vs]
  refine (follows_visits path host h vs).table_of_sent (stop_not_mem_actions host _ vs) fun s hs => ?_
  exact valid_of_mem_sent (filterMap_sent?_actions host _ vs ▸ hs)

lemma outcome_request {server : Server} {freshId : String} {r : Request} {answer : Answer}
    (hreachable : host.isReachable = true)
    (hanswer : (server.handle freshId (arriving r)).1 = some answer) :
    (visit path host server (.request freshId r)).2.1 =
      .answered (answer.response.withDefault closing) := by
  rw [visit, request_of_reachable hreachable]
  revert hanswer
  rcases server.handle freshId (arriving r) with ⟨_ | answer', after⟩ <;> rintro ⟨⟩
  rfl

lemma outcome_replaceFile (server : Server) (file : FileState) :
    (visit path host server (.replaceFile file)).2.1 =
      .reloaded (server.settings.reload.enabled && (Settings.load? file).isOk) := by
  rw [visit]
  cases hwatched : server.settings.reload.enabled with
  | false => rw [replaceFile_of_unwatched path host hwatched, Bool.false_and]
  | true =>
      rw [replaceFile_of_watched path host hwatched, Bool.true_and]
      cases Settings.load? file <;> rfl

/-- **Visitors are served from the last good settings file.**  The service has been started with valid
settings and visited any number of times.

* A new version of the settings file is taken exactly if the file is watched and loads.
* No request reaches a service without a network.
* Any other request is redirected, unless it is one for the health report or announces too much: to the
  page that its language header leads to among the pages of the last settings that reloading has sent, or
  among those of the start if it has sent none. -/
theorem serves_last_good_file {settings : Settings} {server : Server} (hvalid : settings.Valid)
    (h : start? settings = .ok server) (before : List Visit) (v : Visit) (after : List Visit) :
    let outcome? := (visits path host server (before ++ v :: after)).2.1[before.length]?
    (∀ file, v = .replaceFile file →
      outcome? = some (.reloaded (settings.reload.enabled && (Settings.load? file).isOk))) ∧
    ∀ freshId r, v = .request freshId r →
      (host.isReachable = false → outcome? = some .unreachable) ∧
      (host.isReachable = true → r.path ≠ "/health" → settings.AllowsSize r →
        ∃ response sites, outcome? = some (.answered response) ∧
          sites.table = ((sent settings.reload.enabled before).getLast?.getD settings).sites ∧
          response.status = 302 ∧
          Fields.values "location" response.fields =
            [Utf8.encode (resolve settings.negotiation.invalidWeight
              (Fields.acceptLanguage? r.fields) sites).location.toList]) := by
  intro outcome?
  have houtcome : outcome? = _ := getElem?_outcomes_visits path host server before v after
  have hnow := follows_visits path host h before
  set now := (visits path host server before).2.2
  refine ⟨?_, ?_⟩
  · rintro file rfl
    rw [houtcome, outcome_replaceFile, hnow.settings]
  · rintro freshId r rfl
    refine ⟨fun hreachable => ?_, fun hreachable hpath hsize => ?_⟩
    · rw [houtcome, visit, request_of_unreachable hreachable]
    · have htext := hnow.isFieldText_location hvalid
        (fun next hnext => valid_of_update_mem_actions host hnext)
        settings.negotiation.invalidWeight (Fields.acceptLanguage? (arriving r).fields)
      obtain ⟨answer, hanswer, hstatus, -, -, hlocation⟩ :=
        Answer.toRequest?_of_redirected hvalid.maxConcurrentRequests
          (announcedSize?_arriving r ▸ hsize) hvalid.requestSecs (r := arriving r) hpath htext freshId
      rw [← hnow.settings, ← handle_answer] at hanswer
      refine ⟨_, now.sites, houtcome.trans (congrArg some (outcome_request path host hreachable hanswer)),
        table_of_visits path host h before, hstatus, ?_⟩
      rw [Response.values_withDefault (by decide), hlocation, Answer.resolveRequest,
        acceptLanguage?_arriving]

end Visits

end Service

end Signpost
