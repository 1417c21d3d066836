import Mathlib.Tactic.Common
import Signpost.Proofs.Negotiation.Choice
import Signpost.Proofs.Server.Answer
import Signpost.Proofs.Server.Run
import Signpost.Proofs.Settings.Validity

/-!
# Servers with valid settings

Valid settings have no landing page that a header field cannot carry, no limit of zero, and a page
to fall back to.  A server that has been given nothing but valid settings therefore redirects every
visitor whose request keeps the size limit, whatever has happened before, and takes all new settings.

One thing is not checked: how many places for requests the settings ask for, as long as there is one.
Too many of them keep a server from starting, and nothing else does.

* **`Server.starts_of_valid`** — which settings that are read from a text start a server.
* `Settings.Valid.isFieldText` — the landing pages of valid settings can be sent.
* `Server.Follows.isFieldText_location` — so can the page that is chosen after any actions.
* **`Server.redirects_of_valid`** — every such request is redirected.
-/

namespace Signpost

open Http Negotiation Text

/-- A header field can carry the landing pages of valid settings. -/
lemma Settings.Valid.isFieldText {s : Settings} (h : s.Valid) {page : String × String}
    (hpage : page ∈ s.sites.pages) : isFieldText page.2 = true := by
  have hnone := h.locations page hpage
  unfold locationFault? at hnone
  split at hnone
  · cases hnone
  · split at hnone
    · cases hnone
    · next htext => simpa using htext

/-- Valid settings have a site map, for they have a page to fall back to. -/
lemma Settings.Valid.exists_sites {s : Settings} (h : s.Valid) :
    ∃ sites, SiteMap.ofTable? s.sites = some sites :=
  Option.isSome_iff_exists.1 (SiteMap.isSome_ofTable?_iff.2 h.fallbackPage)

/-- Valid settings let every request through that keeps the size limit. -/
lemma Settings.Valid.admits {s : Settings} (h : s.Valid) {r : Request} (hsize : s.AllowsSize r) :
    s.Admits r :=
  ⟨h.maxConcurrentRequests, hsize, h.requestSecs⟩

namespace Server

/-! ## Starting -/

/-- Valid settings start a server that shows their landing pages and has done nothing yet, if the
places they ask for can be set up. -/
lemma exists_start?_of_valid {s : Settings} (h : s.Valid)
    (hplaces : s.listener.maxConcurrentRequests ≤ maxPermits) :
    ∃ sites, sites.table = s.sites ∧ start? s = .ok ⟨s, sites, {}, false⟩ := by
  obtain ⟨sites, hsites⟩ := h.exists_sites
  refine ⟨sites, SiteMap.table_of_ofTable? hsites, ?_⟩
  exact start?_eq_ok_iff.2 ⟨sites, hsites, hplaces, rfl⟩

/-- Nothing but the places is wrong with valid settings that start no server. -/
lemma start?_of_maxPermits_lt {s : Settings} (h : s.Valid)
    (hplaces : maxPermits < s.listener.maxConcurrentRequests) :
    start? s = .error .tooManyPermits := by
  obtain ⟨sites, hsites⟩ := h.exists_sites
  rw [start?, Settings.siteMap?_eq_ok_iff.2 hsites]
  exact if_pos hplaces

/-- **Settings that are read from a text start a server, unless they ask for too many places.**  The
server has these settings, shows their landing pages and has done nothing yet.  Settings that ask for
more places than can be set up are not refused when they are read; it is the start that fails. -/
theorem starts_of_valid {text : String} {s : Settings} (h : Settings.ofString? text = .ok s) :
    (s.listener.maxConcurrentRequests ≤ maxPermits →
      ∃ sites, sites.table = s.sites ∧ start? s = .ok ⟨s, sites, {}, false⟩) ∧
    (maxPermits < s.listener.maxConcurrentRequests → start? s = .error .tooManyPermits) :=
  have hvalid := Settings.valid_of_ofString? h
  ⟨exists_start?_of_valid hvalid, start?_of_maxPermits_lt hvalid⟩

/-- As many places as can be set up. -/
theorem starts_of_valid_most_places :
    ∃ s server, Settings.ofString?
        "listener.max_concurrent_requests = 2305843009213693951\nsites.en = \"/en/\"" = .ok s ∧
      s.listener.maxConcurrentRequests = maxPermits ∧ start? s = .ok server := by
  have htext : Settings.ofString?
      "listener.max_concurrent_requests = 2305843009213693951\nsites.en = \"/en/\"" =
      .ok { listener := { maxConcurrentRequests := maxPermits }
            sites := .ofList [("en", "/en/")] } := by
    decide +kernel
  obtain ⟨sites, -, hstart⟩ := (starts_of_valid htext).1 (Nat.le_refl _)
  exact ⟨_, _, htext, rfl, hstart⟩

/-- One place more is accepted when the settings are read, and no server starts. -/
theorem not_starts_of_one_place_more :
    ¬ ∀ text s, Settings.ofString? text = .ok s → ∃ server, start? s = .ok server := by
  intro hall
  have htext : Settings.ofString?
      "listener.max_concurrent_requests = 2305843009213693952\nsites.en = \"/en/\"" =
      .ok { listener := { maxConcurrentRequests := maxPermits + 1 }
            sites := .ofList [("en", "/en/")] } := by
    decide +kernel
  obtain ⟨server, hstart⟩ := hall _ _ htext
  cases hstart

/-! ## Redirecting -/

/-- If all settings so far are valid, so are some settings with the landing pages of the server. -/
lemma Follows.exists_valid {start : Settings} {actions : List Action} {server : Server}
    (h : Follows start actions server) (hstart : start.Valid)
    (hvalid : ∀ next, .update next ∈ actions → next.Valid) :
    ∃ s : Settings, s.Valid ∧ server.sites.table = s.sites := by
  have htable := SiteMap.table_of_ofTable? h.sites
  rcases pagesInForce_eq start.sites actions with heq | ⟨next, hnext, heq⟩
  · exact ⟨start, hstart, htable.trans heq⟩
  · exact ⟨next, hvalid next (update_mem_of_mem_taken hnext), htable.trans heq⟩

/-- If all settings so far are valid, a header field can carry every page that is chosen. -/
lemma Follows.isFieldText_location {start : Settings} {actions : List Action} {server : Server}
    (h : Follows start actions server) (hstart : start.Valid)
    (hvalid : ∀ next, .update next ∈ actions → next.Valid) (policy : Policy)
    (header : Option String) :
    isFieldText (resolve policy header server.sites).location = true := by
  obtain ⟨s, hs, htable⟩ := h.exists_valid hstart hvalid
  have hlocation := hasLocation_resolve policy header server.sites
  rw [SiteMap.hasLocation, htable, List.any_eq_true] at hlocation
  obtain ⟨page, hpage, heq⟩ := hlocation
  rw [← of_decide_eq_true heq]
  exact hs.isFieldText hpage

/-- The latest settings show their landing pages if they came before the end and are valid. -/
lemma Follows.table_of_valid {start next : Settings} {before : List Action} {server : Server}
    (h : Follows start (before ++ [.update next]) server) (hstop : .stop ∉ before)
    (hnext : next.Valid) : server.sites.table = next.sites := by
  have hsites := h.sites
  rw [pagesInForce_append_update start.sites hstop rfl, if_pos hnext.fallbackPage] at hsites
  exact SiteMap.table_of_ofTable? hsites

/-- **Valid settings have no failure mode.**  A server that was started with settings read from a
text, and was given only such settings since, redirects every request to another path than that of
the health report, if the size it announces is within the limit: without a body, and with one field
each for the location that the language header leads to and for what the answer varies with.  All
the settings it is given before the end are taken. -/
theorem redirects_of_valid {text : String} {start : Settings} {server : Server}
    (htext : Settings.ofString? text = .ok start) (h : start? start = .ok server)
    {actions : List Action}
    (hvalid : ∀ next, .update next ∈ actions → ∃ text, Settings.ofString? text = .ok next) :
    (∀ freshId r, r.path ≠ "/health" →
      (∀ n, r.announcedSize? = some n → n ≤ start.security.maxBodySize) →
      ∃ answer, ((server.run actions).2.handle freshId r).1 = some answer ∧
        answer.response.status = 302 ∧ answer.response.body = "" ∧
        Fields.values "vary" answer.response.fields = [Utf8.encode "accept-language".toList] ∧
        Fields.values "location" answer.response.fields =
          [Utf8.encode (resolve start.negotiation.invalidWeight (Fields.acceptLanguage? r.fields)
            (server.run actions).2.sites).location.toList]) ∧
    (∀ before next after, actions = before ++ .update next :: after → .stop ∉ before →
      ∃ report, (server.run actions).1[before.length]? = some (.updated report) ∧
        report.rejection = none ∧
        (server.run (before ++ [.update next])).2.sites.table = next.sites) := by
  have hstart := Settings.valid_of_ofString? htext
  have hall : ∀ next, .update next ∈ actions → next.Valid := by
    intro next hnext
    obtain ⟨text', htext'⟩ := hvalid next hnext
    exact Settings.valid_of_ofString? htext'
  refine ⟨fun freshId r hpath hsize => ?_, ?_⟩
  · have hfollows := follows_run h actions
    rw [handle_answer, hfollows.settings]
    refine Answer.toRequest?_of_redirected hstart.maxConcurrentRequests hsize hstart.requestSecs
      hpath ?_ freshId
    exact hfollows.isFieldText_location hstart hall _ _
  · rintro before next after rfl hstop
    have hnext : next.Valid := hall next (by simp)
    refine ⟨((server.run before).2.update next).1, ?_, ?_, ?_⟩
    · rw [getElem?_run, (follows_run h before).outcome_update hstop]
    · exact (update_rejection_eq_none_iff _ next).2 hnext.fallbackPage
    · exact (follows_run h (before ++ [.update next])).table_of_valid hstop hnext

/-- A server with two landing pages takes a third, and sends a visitor with a damaged language header
to the page of the fallback language. -/
theorem redirects_of_valid_page_added :
    ∃ start server next, Settings.ofString? "[sites]\nen = \"/en/\"\nde = \"/de/\"" = .ok start ∧
      start? start = .ok server ∧
      Settings.ofString? "[sites]\nen = \"/en/\"\nde = \"/de/\"\nfr = \"/fr/\"" = .ok next ∧
      (server.run [.update next]).2.sites.table = next.sites ∧
      ∃ answer, ((server.run [.update next]).2.handle "1"
          ⟨"GET", "/", [⟨"accept-language", [0xFF]⟩], []⟩).1 = some answer ∧
        answer.response.status = 302 := by
  have htext : Settings.ofString? "[sites]\nen = \"/en/\"\nde = \"/de/\"" =
      .ok { sites := .ofList [("de", "/de/"), ("en", "/en/")] } := by
    decide +kernel
  have hnext : Settings.ofString? "[sites]\nen = \"/en/\"\nde = \"/de/\"\nfr = \"/fr/\"" =
      .ok { sites := .ofList [("de", "/de/"), ("en", "/en/"), ("fr", "/fr/")] } := by
    decide +kernel
  obtain ⟨server, h⟩ :
      ∃ server, start? { sites := .ofList [("de", "/de/"), ("en", "/en/")] } = .ok server :=
    ⟨_, rfl⟩
  have hupdates : ∀ next, Action.update next ∈
      [Action.update { sites := .ofList [("de", "/de/"), ("en", "/en/"), ("fr", "/fr/")] }] →
      ∃ text, Settings.ofString? text = .ok next := by
    intro next hmem
    cases List.mem_singleton.1 hmem
    exact ⟨_, hnext⟩
  have hvalid := redirects_of_valid htext h hupdates
  obtain ⟨answer, hanswer, hstatus, -⟩ := hvalid.1 "1"
    ⟨"GET", "/", [⟨"accept-language", [0xFF]⟩], []⟩ (by decide) (by
      intro n hn
      cases hn)
  obtain ⟨-, -, -, hsites⟩ := hvalid.2 [] _ [] rfl (by simp)
  exact ⟨_, server, _, htext, h, hnext, hsites, answer, hanswer, hstatus⟩

end Server

end Signpost
