import Mathlib.Tactic.Common
import Signpost.Proofs.Negotiation.Code
import Signpost.Proofs.Server.Answer
import Signpost.Proofs.Server.Run
import Signpost.Proofs.Server.Tally

/-!
# Counting redirects

A server counts the requests that reach its redirecting route, whatever comes of them, and nothing
else.

* `Outcome.resolution?` — the page that was chosen for a request; nothing if it was not redirected.
* `Server.step_tally` — a step records this page, if there is one.
* `Server.counts_run` — a run records the pages of its outcomes, by induction.

**`Server.counts_redirects`** reads the counts, the lines of the report and the labels off the
outcomes, and says which actions have had such an outcome.
-/

namespace Signpost.Server

open Http Negotiation

/-- The page that was chosen for a request. -/
def Outcome.resolution? : Outcome → Option Resolution
  | .answered answer => answer.resolution
  | _ => none

/-- The labels of the redirects among some outcomes, in order. -/
def redirectLabels (outcomes : List Outcome) : List RedirectLabel :=
  outcomes.filterMap fun outcome => outcome.resolution?.map RedirectLabel.of

/-! ## Steps -/

lemma step_request_outcome (server : Server) (freshId : String) (r : Request) :
    (server.step (.request freshId r)).1 =
      ((Answer.toRequest? server.settings server.sites freshId r).elim .unanswered .answered) := by
  rw [← handle_answer, step]
  rcases server.handle freshId r with ⟨_ | answer, server'⟩ <;> rfl

/-- What is no request is not answered, and leaves the tally as it is. -/
lemma step_of_not_request {a : Action} (h : ∀ freshId r, a ≠ .request freshId r) (server : Server) :
    (server.step a).2.tally = server.tally ∧ ∀ answer, (server.step a).1 ≠ .answered answer := by
  cases a with
  | request freshId r => exact absurd rfl (h freshId r)
  | update next =>
      by_cases hstopped : server.stopped = true
      · rw [step_update_of_stopped hstopped]
        exact ⟨rfl, fun answer hanswered => by cases hanswered⟩
      · rw [step_update hstopped, update_state]
        exact ⟨rfl, fun answer hanswered => by cases hanswered⟩
  | stop =>
      rw [step_stop_state]
      refine ⟨rfl, fun answer hanswered => ?_⟩
      by_cases hstopped : server.stopped = true
      · rw [step, if_pos hstopped] at hanswered
        cases hanswered
      · rw [step, if_neg hstopped] at hanswered
        cases hanswered

lemma exists_request_of_answered {server : Server} {a : Action} {answer : Answer}
    (h : (server.step a).1 = .answered answer) :
    ∃ freshId r, a = .request freshId r ∧
      Answer.toRequest? server.settings server.sites freshId r = some answer := by
  by_cases hrequest : ∀ freshId r, a ≠ .request freshId r
  · exact absurd h ((step_of_not_request hrequest server).2 answer)
  · simp only [not_forall, not_not] at hrequest
    obtain ⟨freshId, r, rfl⟩ := hrequest
    rw [step_request_outcome] at h
    refine ⟨freshId, r, rfl, ?_⟩
    cases hanswer : Answer.toRequest? server.settings server.sites freshId r with
    | none =>
        rw [hanswer] at h
        cases h
    | some answer' =>
        rw [hanswer] at h
        cases h
        rfl

/-- **A step records what was redirected.** -/
lemma step_tally (server : Server) (a : Action) :
    (server.step a).2.tally =
      ((server.step a).1.resolution?).elim server.tally fun r => server.tally.record (.of r) := by
  by_cases hrequest : ∀ freshId r, a ≠ .request freshId r
  · obtain ⟨htally, hnot⟩ := step_of_not_request hrequest server
    rw [htally]
    cases houtcome : (server.step a).1 with
    | answered answer => exact absurd houtcome (hnot answer)
    | _ => rfl
  · simp only [not_forall, not_not] at hrequest
    obtain ⟨freshId, r, rfl⟩ := hrequest
    simp only [step, handle]
    cases Answer.toRequest? server.settings server.sites freshId r with
    | none => rfl
    | some answer =>
        cases hresolution : answer.resolution <;> simp [hresolution, Outcome.resolution?]

/-- **A step is a redirect exactly if it is a request that is let through to the redirecting route.** -/
lemma resolution?_step_iff {server : Server} {a : Action} {resolution : Resolution} :
    (server.step a).1.resolution? = some resolution ↔
      ∃ freshId r, a = .request freshId r ∧
        (server.settings.Admits r ∧ r.path ≠ Answer.healthPath) ∧
        resolution = Answer.resolveRequest server.settings.negotiation.invalidWeight server.sites r := by
  constructor
  · intro h
    cases houtcome : (server.step a).1 with
    | answered answer =>
        obtain ⟨freshId, r, rfl, hanswer⟩ := exists_request_of_answered houtcome
        have hsome : answer.resolution = some resolution := by
          rw [houtcome] at h
          exact h
        rcases Answer.cases_of_toRequest? hanswer with ⟨hreaches, hresolution, -⟩ | ⟨-, hnone, -⟩
        · rw [hresolution] at hsome
          exact ⟨freshId, r, rfl, hreaches, (Option.some.inj hsome).symm⟩
        · rw [hnone] at hsome
          cases hsome
    | _ =>
        rw [houtcome] at h
        cases h
  · rintro ⟨freshId, r, rfl, hreaches, rfl⟩
    obtain ⟨answer, hanswer, -⟩ :=
      Answer.exists_toRequest?_of_admits hreaches.1 server.sites freshId
    rw [step_request_outcome, hanswer]
    rcases Answer.cases_of_toRequest? hanswer with ⟨-, hresolution, -⟩ | ⟨hnot, -⟩
    · exact hresolution
    · exact absurd hreaches hnot

/-- The status of an answer tells whether it is that of the redirecting route. -/
lemma status_iff_of_answered {server : Server} {a : Action} {answer : Answer}
    (h : (server.step a).1 = .answered answer) :
    (answer.response.status ∈ [302, 500] ↔ answer.resolution.isSome) ∧
      (answer.response.status ∈ [200, 405, 408, 413] ↔ answer.resolution = none) := by
  obtain ⟨freshId, r, -, hanswer⟩ := exists_request_of_answered h
  rcases Answer.cases_of_toRequest? hanswer with ⟨-, hresolution, hstatus⟩ | ⟨-, hnone, hstatus⟩
  · rw [hresolution]
    simp only [List.mem_cons, List.not_mem_nil, or_false] at hstatus ⊢
    rcases hstatus with hstatus | hstatus <;> simp [hstatus]
  · rw [hnone]
    simp only [List.mem_cons, List.not_mem_nil, or_false] at hstatus ⊢
    rcases hstatus with hstatus | hstatus | hstatus | hstatus <;> simp [hstatus]

/-! ## Runs -/

lemma counts_of_start? {settings : Settings} {server : Server} (h : start? settings = .ok server) :
    server.tally.Counts [] := by
  obtain ⟨sites, -, -, rfl⟩ := start?_eq_ok_iff.1 h
  exact Tally.counts_empty

/-- **A run records what was redirected.** -/
lemma counts_run {server : Server} {labels : List RedirectLabel} (h : server.tally.Counts labels)
    (actions : List Action) :
    (server.run actions).2.tally.Counts (labels ++ redirectLabels (server.run actions).1) := by
  induction actions generalizing server labels with
  | nil => simpa [run, redirectLabels] using h
  | cons a rest ih =>
      have hstep : (server.step a).2.tally.Counts (labels ++ redirectLabels [(server.step a).1]) := by
        rw [step_tally]
        cases hresolution : (server.step a).1.resolution? with
        | none => simpa [redirectLabels, hresolution] using h
        | some resolution => simpa [redirectLabels, hresolution] using h.record (.of resolution)
      have hrun := ih hstep
      rw [List.append_assoc, redirectLabels, redirectLabels, ← List.filterMap_append] at hrun
      exact hrun

/-- What every step gives, every outcome of a run has. -/
lemma forall_outcome_run {P : Outcome → Prop} (hstep : ∀ (server : Server) a, P (server.step a).1)
    (server : Server) (actions : List Action) : ∀ outcome ∈ (server.run actions).1, P outcome := by
  induction actions generalizing server with
  | nil => exact fun outcome hmem => absurd hmem List.not_mem_nil
  | cons a rest ih => exact List.forall_mem_cons.2 ⟨hstep server a, ih (server.step a).2⟩

/-- Every language that is counted is short, and that of a fallback is the fallback language. -/
lemma language_of_mem_redirectLabels {server : Server} {actions : List Action}
    {label : RedirectLabel} (h : label ∈ redirectLabels (server.run actions).1) :
    IsShortCode label.language ∧ (label.fallback = true → label.language = fallbackLanguage) := by
  obtain ⟨outcome, houtcome, hlabel⟩ := List.mem_filterMap.1 h
  obtain ⟨resolution, hresolution, rfl⟩ := Option.map_eq_some_iff.1 hlabel
  refine forall_outcome_run (P := fun outcome => ∀ resolution, outcome.resolution? = some resolution →
    IsShortCode resolution.language ∧
      (resolution.fallback = true → resolution.language = fallbackLanguage))
    (fun server a resolution hresolution => ?_) server actions outcome houtcome resolution hresolution
  obtain ⟨freshId, r, -, -, rfl⟩ := resolution?_step_iff.1 hresolution
  refine ⟨isShortCode_language_resolve _ _ _, fun hfallback => ?_⟩
  rcases resolve_language server.settings.negotiation.invalidWeight
    (Fields.acceptLanguage? r.fields) server.sites with hlanguage | ⟨hnot, -⟩
  · exact hlanguage
  · exact absurd hfallback (by rw [Answer.resolveRequest, hnot]; decide)

/-- **Every redirect is counted once.**  After any actions, whether or not the new settings among them
are valid:

* The count of each label is the number of redirects with this label.
* The report has a line for each label whose count is positive, and a line for the durations.  It has
  no line twice, and no other counts.
* The counts add up to the number of durations.
* The language of a label is a small letter, possibly followed by another one or a hyphen, and the
  label of a fallback has the fallback language.
* An action has been a redirect exactly if it was a request that was let through to the redirecting
  route.  The page is then the one that was chosen from the pages of that moment, and the answer is a
  redirect or the error in its place.  Whatever has been answered otherwise, and whatever was no
  request, has left the tally as it was. -/
theorem counts_redirects {start : Settings} {server : Server} (h : start? start = .ok server)
    (actions : List Action) :
    let outcomes := (server.run actions).1
    let tally := (server.run actions).2.tally
    let redirected := redirectLabels outcomes
    (∀ label, tally.count label = redirected.count label) ∧
    (∀ label n, Tally.line label n ∈ tally.lines ↔ 0 < n ∧ n = redirected.count label) ∧
    (∀ n, Tally.durationLine n ∈ tally.lines ↔ 0 < n ∧ n = redirected.length) ∧
    tally.lines.Nodup ∧
    (∃ labels : List RedirectLabel, labels.Nodup ∧
      (∀ label, label ∈ labels ↔ 0 < tally.count label) ∧
      (labels.map tally.count).sum = redirected.length) ∧
    (∀ label ∈ redirected, IsShortCode label.language ∧
      (label.fallback = true → label.language = "en")) ∧
    ∀ before a after, actions = before ++ a :: after →
      let now := (server.run before).2
      ∃ outcome, outcomes[before.length]? = some outcome ∧
        (∀ resolution, outcome.resolution? = some resolution ↔
          ∃ freshId r, a = .request freshId r ∧ (start.Admits r ∧ r.path ≠ "/health") ∧
            resolution = resolve start.negotiation.invalidWeight (Fields.acceptLanguage? r.fields)
              now.sites) ∧
        (∀ answer, outcome = .answered answer →
          (answer.response.status ∈ [302, 500] ↔ outcome.resolution?.isSome) ∧
          (answer.response.status ∈ [200, 405, 408, 413] ↔ outcome.resolution? = none)) ∧
        (outcome.resolution? = none → (server.run (before ++ [a])).2.tally = now.tally) := by
  intro outcomes tally redirected
  have hcounts : tally.Counts redirected := counts_run (counts_of_start? h) actions
  refine ⟨hcounts.count_eq, fun label n => ?_, fun n => ?_, hcounts.nodup_lines,
    ⟨_, hcounts.nodup, fun label => ?_, hcounts.sum_count.trans hcounts.durations⟩,
    fun label => language_of_mem_redirectLabels, ?_⟩
  · rw [Tally.line_mem_lines_iff, hcounts.mem_iff]
  · rw [Tally.durationLine_mem_lines_iff, hcounts.durations]
  · rw [hcounts.mem_keys_iff, hcounts.count_eq, List.count_pos_iff]
  · rintro before a after rfl
    intro now
    have hsettings : now.settings = start := (follows_run h before).settings
    refine ⟨(now.step a).1, getElem?_run server before a after, fun resolution => ?_,
      fun answer hanswered => ?_, fun hnone => ?_⟩
    · rw [resolution?_step_iff, hsettings]
      exact Iff.rfl
    · rw [hanswered]
      exact status_iff_of_answered hanswered
    · rw [run_concat_state, step_tally, hnone]
      rfl

/-- A visitor is redirected.  Then a page comes that no field can carry, and the same visitor gets an
error.  Both are counted, and the health report and a method it does not know are not. -/
theorem counts_redirects_with_error :
    ∃ server, start? { sites := .ofList [("de", "/de/"), ("en", "/en/")] } = .ok server ∧
      let visit := Action.request "1" ⟨"GET", "/", [.ofText "accept-language" "de-AT"], []⟩
      let actions := [visit, .update { sites := .ofList [("en", "/en/\r\n")] }, visit,
        .request "2" ⟨"GET", "/health", [], []⟩, .stop, .request "3" ⟨"PUT", "/health", [], []⟩]
      let tally := (server.run actions).2.tally
      tally.count ⟨"de", false⟩ = 1 ∧ tally.count ⟨"en", true⟩ = 1 ∧
        Tally.durationLine 2 ∈ tally.lines := by
  obtain ⟨server, h⟩ :
      ∃ server, start? { sites := .ofList [("de", "/de/"), ("en", "/en/")] } = .ok server :=
    ⟨_, rfl⟩
  refine ⟨server, h, ?_⟩
  intro visit actions tally
  obtain ⟨hcount, -, hdurations, -⟩ := counts_redirects h actions
  have hlabels : redirectLabels (server.run actions).1 = [⟨"de", false⟩, ⟨"en", true⟩] := by
    cases h
    decide +kernel
  rw [hlabels] at hcount hdurations
  exact ⟨hcount _, hcount _, (hdurations 2).2 ⟨by decide, rfl⟩⟩

end Signpost.Server
