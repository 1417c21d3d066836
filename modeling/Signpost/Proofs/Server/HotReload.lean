import Mathlib.Tactic.Common
import Signpost.Proofs.Server.Answer
import Signpost.Proofs.Server.Run

/-!
# Reloading and restarting

A running server takes nothing from new settings but their landing pages.  What a visitor sees of it
is therefore what a server shows that is newly started with the old settings and the new pages; and
when the new settings differ in nothing but the pages, it is what a server shows that is newly
started with them.

**`hotReload_eq_restart`** says this for every sequence of actions, together with what is reported
about the sections that need a restart.
-/

namespace Signpost

/-- Settings that differ in no section differ in their landing pages at most. -/
lemma Settings.eq_of_restartRequired_eq_nil {running next : Settings}
    (h : running.restartRequired next = []) : { running with sites := next.sites } = next := by
  have hsame : ∀ s ∈ Section.all, ¬ Section.differs running next s = true :=
    List.filter_eq_nil_iff.1 h
  simp only [Section.all, Section.differs, List.forall_mem_cons, decide_eq_true_eq, not_not] at hsame
  obtain ⟨hlistener, hnegotiation, htimeouts, hobservability, hsecurity, hreload, -⟩ := hsame
  cases running
  cases next
  simp_all

/-- The names of the sections in which new settings differ from the running ones. -/
def changedNames (running next : Settings) : List String :=
  (if running.listener ≠ next.listener then ["listener"] else []) ++
  (if running.negotiation ≠ next.negotiation then ["negotiation"] else []) ++
  (if running.timeouts ≠ next.timeouts then ["timeouts"] else []) ++
  (if running.observability ≠ next.observability then ["observability"] else []) ++
  (if running.security ≠ next.security then ["security"] else []) ++
  (if running.reload ≠ next.reload then ["reload"] else [])

/-- Selecting from a list and naming what is left, item by item. -/
lemma map_filter_cons {α β : Type} (p : α → Bool) (f : α → β) (a : α) (l : List α) :
    ((a :: l).filter p).map f = (if p a = true then [f a] else []) ++ (l.filter p).map f := by
  cases h : p a <;> simp [h]

/-- The sections that are reported are those that differ. -/
lemma Settings.names_restartRequired (running next : Settings) :
    (running.restartRequired next).map Section.name = changedNames running next := by
  simp only [restartRequired, Section.all, map_filter_cons, List.filter_nil, List.map_nil,
    List.append_nil, ← List.append_assoc, Section.differs, Section.name, decide_eq_true_eq]
  rfl

namespace Server

/-- A server in the state that some actions lead to answers as one that is newly started with the
landing pages in force. -/
lemma Follows.answers_as_fresh {start : Settings} {actions : List Action} {server : Server}
    (h : Follows start actions server)
    (hplaces : start.listener.maxConcurrentRequests ≤ maxPermits) :
    ∃ fresh, start? { start with sites := pagesInForce start.sites actions } = .ok fresh ∧
      ∀ freshId r, (server.handle freshId r).1 = (fresh.handle freshId r).1 := by
  refine ⟨_, start?_eq_ok_iff.2 ⟨server.sites, h.sites, hplaces, rfl⟩, fun freshId r => ?_⟩
  rw [handle_answer, handle_answer, h.settings]
  exact Answer.toRequest?_congr rfl rfl rfl rfl _ _ _

/-- New settings are looked at only if there was no stop before. -/
lemma Follows.not_stop_mem_of_updated {start : Settings} {before : List Action} {server : Server}
    (h : Follows start before server) {next : Settings} {report : UpdateReport}
    (hstep : (server.step (.update next)).1 = .updated report) : .stop ∉ before := by
  intro hstop
  rw [step_update_of_stopped (h.stopped.2 hstop)] at hstep
  cases hstep

/-- **Reloading is as good as restarting.**

* After any actions a server answers every request as one that is newly started with the same
  settings but the landing pages in force.
* New settings that come before the end are answered with the sections in which they differ from the
  settings of the start, each once and in their order, whether or not their pages are rejected; and
  they are rejected only for want of a page for the fallback language.
* If the latest settings that were taken differ in no section and were not rejected, the server
  answers every request as one that is newly started with them. -/
theorem hotReload_eq_restart {start : Settings} {server : Server} (h : start? start = .ok server)
    (actions : List Action) :
    (∃ fresh, start? { start with sites := pagesInForce start.sites actions } = .ok fresh ∧
      ∀ freshId r, ((server.run actions).2.handle freshId r).1 = (fresh.handle freshId r).1) ∧
    (∀ before next after, actions = before ++ .update next :: after → .stop ∉ before →
      ∃ report, (server.run actions).1[before.length]? = some (.updated report) ∧
        report.restartRequired.map Section.name = changedNames start next ∧
        (report.rejection = none ↔ (next.sites.get? "en").isSome)) ∧
    (∀ before next after, actions = before ++ .update next :: after → taken after = [] →
      (server.run actions).1[before.length]? = some (.updated ⟨none, []⟩) →
      ∃ fresh, start? next = .ok fresh ∧
        ∀ freshId r, ((server.run actions).2.handle freshId r).1 = (fresh.handle freshId r).1) := by
  obtain ⟨-, -, hplaces, -⟩ := start?_eq_ok_iff.1 h
  have hfresh := (follows_run h actions).answers_as_fresh hplaces
  refine ⟨hfresh, ?_, ?_⟩
  · rintro before next after rfl hstop
    have hbefore := follows_run h before
    refine ⟨((server.run before).2.update next).1, ?_, ?_, ?_⟩
    · rw [getElem?_run, hbefore.outcome_update hstop]
    · rw [update_restartRequired, hbefore.settings]
      exact Settings.names_restartRequired start next
    · exact update_rejection_eq_none_iff _ _
  · rintro before next after rfl hafter houtcome
    have hbefore := follows_run h before
    rw [getElem?_run, Option.some.injEq] at houtcome
    have hstop := hbefore.not_stop_mem_of_updated houtcome
    rw [hbefore.outcome_update hstop, Outcome.updated.injEq] at houtcome
    have hsections : start.restartRequired next = [] := by
      rw [← hbefore.settings, ← update_restartRequired, houtcome]
    have hpage : (next.sites.get? fallbackLanguage).isSome := by
      rw [← update_rejection_eq_none_iff (server.run before).2, houtcome]
    rw [pagesInForce_append_update start.sites hstop hafter, if_pos hpage,
      Settings.eq_of_restartRequired_eq_nil hsections] at hfresh
    exact hfresh

/-- A page that is added while the server runs is shown as if the server had been started with it:
settings without pages are rejected before, and others come too late after. -/
theorem hotReload_eq_restart_of_added_page :
    ∃ server fresh, start? { sites := .ofList [("en", "/en/")] } = .ok server ∧
      start? { sites := .ofList [("de", "/de/"), ("en", "/en/")] } = .ok fresh ∧
      ∀ freshId r, ((server.run [.update {},
          .update { sites := .ofList [("de", "/de/"), ("en", "/en/")] }, .stop,
          .update { sites := .ofList [("en", "/")] }]).2.handle freshId r).1 =
        (fresh.handle freshId r).1 := by
  obtain ⟨server, h⟩ : ∃ server, start? { sites := .ofList [("en", "/en/")] } = .ok server :=
    ⟨_, rfl⟩
  have hupdated : (server.run [.update {},
      .update { sites := .ofList [("de", "/de/"), ("en", "/en/")] }, .stop,
      .update { sites := .ofList [("en", "/")] }]).1[1]? = some (.updated ⟨none, []⟩) := by
    cases h
    rfl
  obtain ⟨fresh, hfresh, hanswers⟩ := (hotReload_eq_restart h _).2.2 [.update {}] _ _ rfl rfl hupdated
  exact ⟨server, fresh, h, hfresh, hanswers⟩

end Server

end Signpost
