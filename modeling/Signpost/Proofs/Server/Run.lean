import Mathlib.Data.List.TakeWhile
import Mathlib.Tactic.Common
import Signpost.Proofs.SiteMap
import Signpost.Server

/-!
# The state of a server after a run

What has become of a server is described from the actions alone, without running them.

* `taken` — the settings that were sent before the first stop.
* `pagesInForce` — the landing pages of the last of these that have one for the fallback language,
  or the pages of the start.

**Invariant.**  `Server.Follows` says that a server is in the state that the actions so far lead to.
`Follows.step` is the step, `Follows.run` the induction over a sequence of actions.

**Outcomes.**  `Server.getElem?_run` finds the outcome of one action among those of a run.
-/

namespace Signpost

lemma Settings.siteMap?_eq_ok_iff {s : Settings} {sites : SiteMap} :
    s.siteMap? = .ok sites ↔ SiteMap.ofTable? s.sites = some sites := by
  unfold siteMap?
  cases SiteMap.ofTable? s.sites with
  | none => simp
  | some sites' => simp

namespace Server

/-! ## What the actions say -/

/-- Whether an action is the end. -/
def Action.isStop : Action → Bool
  | .stop => true
  | _ => false

/-- The settings that an action sends. -/
def Action.sent? : Action → Option Settings
  | .update next => some next
  | _ => none

/-- The settings that are sent before the first stop, in order. -/
def taken (actions : List Action) : List Settings :=
  (actions.takeWhile fun a => !a.isStop).filterMap Action.sent?

/-- The landing pages after the actions: those of the last taken settings with a page for the
fallback language, and those of the start if there are no such settings. -/
def pagesInForce (start : PageTable) (actions : List Action) : PageTable :=
  (((taken actions).map (·.sites)).filter fun t => (t.get? fallbackLanguage).isSome).getLast?.getD
    start

lemma Action.isStop_iff {a : Action} : a.isStop = true ↔ a = .stop := by
  cases a <;> simp [isStop]

lemma takeWhile_eq_self_of_not_mem {actions : List Action} (h : .stop ∉ actions) :
    actions.takeWhile (fun a => !a.isStop) = actions := by
  refine List.takeWhile_eq_self_iff.2 fun a ha => ?_
  rw [Bool.not_eq_true', ← Bool.not_eq_true, Action.isStop_iff]
  exact fun heq => h (heq ▸ ha)

/-- Without a stop everything that is sent is taken. -/
lemma taken_of_not_mem {actions : List Action} (h : .stop ∉ actions) :
    taken actions = actions.filterMap Action.sent? := by
  rw [taken, takeWhile_eq_self_of_not_mem h]

/-- What comes before the first stop is taken, and the actions after it are heeded. -/
lemma taken_append {before : List Action} (h : .stop ∉ before) (after : List Action) :
    taken (before ++ after) = taken before ++ taken after := by
  have hall := List.takeWhile_eq_self_iff.1 (takeWhile_eq_self_of_not_mem h)
  rw [taken_of_not_mem h, taken, List.takeWhile_append_of_pos hall, List.filterMap_append, taken]

lemma update_mem_of_mem_taken {actions : List Action} {next : Settings}
    (h : next ∈ taken actions) : .update next ∈ actions := by
  rw [taken, List.mem_filterMap] at h
  obtain ⟨a, ha, hsent⟩ := h
  cases a with
  | update next' =>
      cases hsent
      exact (List.takeWhile_sublist _).subset ha
  | request freshId r => cases hsent
  | stop => cases hsent

/-- After a stop nothing more is taken. -/
lemma taken_append_of_mem {actions : List Action} (h : .stop ∈ actions) (more : List Action) :
    taken (actions ++ more) = taken actions := by
  induction actions with
  | nil => cases h
  | cons a rest ih =>
      cases a with
      | stop => rfl
      | request freshId r => exact ih (by simpa using h)
      | update next => exact congrArg (next :: ·) (ih (by simpa using h))

/-- The landing pages in force are those of the start or of some settings that were taken. -/
lemma pagesInForce_eq (start : PageTable) (actions : List Action) :
    pagesInForce start actions = start ∨
      ∃ next ∈ taken actions, pagesInForce start actions = next.sites := by
  unfold pagesInForce
  cases hlast : (((taken actions).map (·.sites)).filter
      fun t => (t.get? fallbackLanguage).isSome).getLast? with
  | none => exact Or.inl rfl
  | some t =>
      obtain ⟨next, hnext, rfl⟩ :=
        List.mem_map.1 (List.mem_filter.1 (List.mem_of_getLast? hlast)).1
      exact Or.inr ⟨next, hnext, rfl⟩

lemma pagesInForce_append_of_mem (start : PageTable) {actions : List Action} (h : .stop ∈ actions)
    (more : List Action) : pagesInForce start (actions ++ more) = pagesInForce start actions := by
  rw [pagesInForce, taken_append_of_mem h, pagesInForce]

/-- Before the first stop, settings with a page for the fallback language bring their pages into
force, and other settings change nothing; so it stays if nothing more is taken. -/
lemma pagesInForce_append_update (start : PageTable) {before after : List Action}
    (h : .stop ∉ before) (hafter : taken after = []) (next : Settings) :
    pagesInForce start (before ++ .update next :: after) =
      if (next.sites.get? fallbackLanguage).isSome then next.sites
      else pagesInForce start before := by
  have htaken : taken (.update next :: after) = [next] := congrArg (next :: ·) hafter
  rw [pagesInForce, taken_append h, htaken]
  split
  · next hpage => simp [hpage]
  · next hpage => simp [hpage, pagesInForce]

lemma pagesInForce_concat_of_sent?_eq_none (start : PageTable) {actions : List Action} {a : Action}
    (ha : a.sent? = none) : pagesInForce start (actions ++ [a]) = pagesInForce start actions := by
  by_cases h : .stop ∈ actions
  · exact pagesInForce_append_of_mem start h [a]
  · have htaken : taken [a] = [] := by
      cases a with
      | update next => cases ha
      | request freshId r => rfl
      | stop => rfl
    rw [pagesInForce, taken_append h, htaken, List.append_nil, pagesInForce]

/-! ## Single operations -/

/-- A server starts with settings that give a site map and do not ask for too many places. -/
lemma start?_eq_ok_iff {settings : Settings} {server : Server} :
    start? settings = .ok server ↔ ∃ sites, SiteMap.ofTable? settings.sites = some sites ∧
      settings.listener.maxConcurrentRequests ≤ maxPermits ∧
      server = ⟨settings, sites, {}, false⟩ := by
  unfold start?
  cases hsites : settings.siteMap? with
  | error error =>
      have hnone : ∀ sites, SiteMap.ofTable? settings.sites ≠ some sites := by
        intro sites h
        rw [Settings.siteMap?_eq_ok_iff.2 h] at hsites
        cases hsites
      simp [hnone]
  | ok sites =>
      simp only [Settings.siteMap?_eq_ok_iff.1 hsites, Option.some.injEq, exists_eq_left']
      split
      · next hmany => simp [Nat.not_le.2 hmany]
      · next hfew => simp [Nat.not_lt.1 hfew, eq_comm]

/-- Answering a request changes the tally only. -/
lemma handle_state (server : Server) (freshId : String) (r : Http.Request) :
    ∃ tally, (server.handle freshId r).2 = { server with tally } := by
  simp only [handle]
  split
  · exact ⟨_, rfl⟩
  · exact ⟨server.tally, rfl⟩

/-- The answer to a request depends on the settings and the landing pages. -/
lemma handle_answer (server : Server) (freshId : String) (r : Http.Request) :
    (server.handle freshId r).1 = Answer.toRequest? server.settings server.sites freshId r := by
  simp only [handle]
  split <;> rfl

/-- New settings exchange the landing pages if they can, and nothing else. -/
lemma update_state (server : Server) (next : Settings) :
    (server.update next).2 =
      { server with sites := (SiteMap.ofTable? next.sites).getD server.sites } := by
  unfold update Settings.siteMap?
  cases SiteMap.ofTable? next.sites <;> rfl

/-- The sections are reported whether or not the pages are exchanged. -/
lemma update_restartRequired (server : Server) (next : Settings) :
    (server.update next).1.restartRequired = server.settings.restartRequired next := by
  unfold update
  split <;> rfl

/-- New settings are rejected if they have no page for the fallback language. -/
lemma update_rejection_eq_none_iff (server : Server) (next : Settings) :
    (server.update next).1.rejection = none ↔ (next.sites.get? fallbackLanguage).isSome := by
  rw [← SiteMap.isSome_ofTable?_iff]
  unfold update Settings.siteMap?
  cases SiteMap.ofTable? next.sites <;> simp

lemma step_request_state (server : Server) (freshId : String) (r : Http.Request) :
    ∃ tally, (server.step (.request freshId r)).2 = { server with tally } := by
  obtain ⟨tally, htally⟩ := server.handle_state freshId r
  refine ⟨tally, ?_⟩
  rw [← htally, step]
  rcases server.handle freshId r with ⟨_ | answer, server'⟩ <;> rfl

lemma step_update {server : Server} (h : ¬ server.stopped = true) (next : Settings) :
    server.step (.update next) = (.updated (server.update next).1, (server.update next).2) := by
  rw [step, if_neg h]

lemma step_update_of_stopped {server : Server} (h : server.stopped = true) (next : Settings) :
    server.step (.update next) = (.ignored, server) := by
  rw [step, if_pos h]

/-- A server that is stopped, or stopped again, has been stopped. -/
lemma step_stop_state (server : Server) :
    (server.step .stop).2 = { server with stopped := true } := by
  simp only [step]
  split
  · next h => rw [← h]
  · rfl

/-! ## Runs -/

/-- A server is in the state that the actions so far lead to. -/
structure Follows (start : Settings) (actions : List Action) (server : Server) : Prop where
  /-- The settings are those of the start. -/
  settings : server.settings = start
  /-- The landing pages are those in force. -/
  sites : SiteMap.ofTable? (pagesInForce start.sites actions) = some server.sites
  /-- It has been stopped if there was a stop. -/
  stopped : server.stopped = true ↔ .stop ∈ actions

lemma follows_of_start? {settings : Settings} {server : Server}
    (h : start? settings = .ok server) : Follows settings [] server := by
  obtain ⟨sites, hsites, -, rfl⟩ := start?_eq_ok_iff.1 h
  exact ⟨rfl, hsites, by simp⟩

/-- **One more action** keeps the invariant. -/
theorem Follows.step {start : Settings} {actions : List Action} {server : Server}
    (h : Follows start actions server) (a : Action) :
    Follows start (actions ++ [a]) (server.step a).2 := by
  cases a with
  | request freshId r =>
      obtain ⟨tally, hstep⟩ := server.step_request_state freshId r
      rw [hstep]
      refine ⟨h.settings, ?_, by simpa using h.stopped⟩
      rw [pagesInForce_concat_of_sent?_eq_none start.sites rfl]
      exact h.sites
  | update next =>
      by_cases hstop : .stop ∈ actions
      · rw [step_update_of_stopped (h.stopped.2 hstop)]
        refine ⟨h.settings, ?_, by simpa using h.stopped⟩
        rw [pagesInForce_append_of_mem start.sites hstop]
        exact h.sites
      · rw [step_update (fun hstopped => hstop (h.stopped.1 hstopped)), update_state]
        refine ⟨h.settings, ?_, by simpa using h.stopped⟩
        rw [pagesInForce_append_update start.sites hstop rfl]
        split
        · next hpage =>
          obtain ⟨sites, hsites⟩ :=
            Option.isSome_iff_exists.1 (SiteMap.isSome_ofTable?_iff.2 hpage)
          simp [hsites]
        · next hpage =>
          have hnone : SiteMap.ofTable? next.sites = none := by
            rw [← Option.not_isSome_iff_eq_none, SiteMap.isSome_ofTable?_iff]
            exact hpage
          simpa [hnone] using h.sites
  | stop =>
      rw [step_stop_state]
      refine ⟨h.settings, ?_, by simp⟩
      rw [pagesInForce_concat_of_sent?_eq_none start.sites rfl]
      exact h.sites

/-- **Any further actions** keep the invariant. -/
theorem Follows.run {start : Settings} {before : List Action} {server : Server}
    (h : Follows start before server) (actions : List Action) :
    Follows start (before ++ actions) (server.run actions).2 := by
  induction actions generalizing before server with
  | nil => simpa [Server.run] using h
  | cons a rest ih =>
      have hrest := ih (h.step a)
      rw [List.append_assoc, List.singleton_append] at hrest
      exact hrest

/-- The state that a started server runs into. -/
lemma follows_run {settings : Settings} {server : Server} (h : start? settings = .ok server)
    (actions : List Action) : Follows settings actions (server.run actions).2 :=
  (follows_of_start? h).run actions

/-- New settings are looked at if there was no stop before. -/
lemma Follows.outcome_update {start : Settings} {before : List Action} {server : Server}
    (h : Follows start before server) (hstop : .stop ∉ before) (next : Settings) :
    (server.step (.update next)).1 = .updated (server.update next).1 := by
  rw [step_update fun hstopped => hstop (h.stopped.1 hstopped)]

lemma run_cons (server : Server) (a : Action) (actions : List Action) :
    server.run (a :: actions) =
      ((server.step a).1 :: ((server.step a).2.run actions).1, ((server.step a).2.run actions).2) :=
  rfl

/-- A run goes on where it has come to. -/
lemma run_append (server : Server) (before after : List Action) :
    server.run (before ++ after) =
      ((server.run before).1 ++ ((server.run before).2.run after).1,
        ((server.run before).2.run after).2) := by
  induction before generalizing server with
  | nil => rfl
  | cons a rest ih => rw [List.cons_append, run_cons, ih, run_cons, List.cons_append]

lemma run_concat_state (server : Server) (before : List Action) (a : Action) :
    (server.run (before ++ [a])).2 = ((server.run before).2.step a).2 := by
  rw [run_append]
  rfl

/-- The outcome of an action in the middle of a run is that of the state before it. -/
lemma getElem?_run (server : Server) (before : List Action) (a : Action) (after : List Action) :
    (server.run (before ++ a :: after)).1[before.length]? =
      some ((server.run before).2.step a).1 := by
  induction before generalizing server with
  | nil => rfl
  | cons b rest ih => exact ih (server.step b).2

end Server

end Signpost
