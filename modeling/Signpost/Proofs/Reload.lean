import Mathlib.Tactic.Common
import Signpost.Proofs.Server.ValidSettings
import Signpost.Reload

/-!
# Keeping the last good settings

A watched file changes again and again, and each time it may be unreadable, malformed, invalid or good.
What the watch sends on is what is good, and so a server that takes all of it shows the landing pages of
the last good file.

* `Watch.loaded` — the settings of the files that load, in order.
* `Watch.foldl_reload` — the outcomes and the counts after a sequence of changes, by induction.
* `Server.Follows.table_of_sent` — the landing pages after a sequence of valid settings.

**`Watch.keeps_last_good`** puts the two together.
-/

namespace Signpost

open Server Text

/-! ## The server -/

/-- If all settings that are taken have a page for the fallback language, the pages of the last are in
force. -/
lemma Server.pagesInForce_of_forall {start : Settings} {actions : List Action}
    (h : ∀ s ∈ taken actions, (s.sites.get? fallbackLanguage).isSome) :
    pagesInForce start.sites actions = ((taken actions).getLast?.getD start).sites := by
  have hall : ∀ t ∈ (taken actions).map (·.sites), (t.get? fallbackLanguage).isSome := by
    rintro t ht
    obtain ⟨s, hs, rfl⟩ := List.mem_map.1 ht
    exact h s hs
  rw [pagesInForce, List.filter_eq_self.2 hall, List.getLast?_map]
  cases (taken actions).getLast? <;> rfl

/-- **After valid settings the landing pages are those of the last**, or those of the start if there
were none. -/
lemma Server.Follows.table_of_sent {start : Settings} {actions : List Action} {server : Server}
    (h : Follows start actions server) (hstop : .stop ∉ actions)
    (hvalid : ∀ s ∈ actions.filterMap Action.sent?, s.Valid) :
    server.sites.table = ((actions.filterMap Action.sent?).getLast?.getD start).sites := by
  rw [← taken_of_not_mem hstop] at hvalid ⊢
  rw [SiteMap.table_of_ofTable? h.sites]
  exact pagesInForce_of_forall fun s hs => (hvalid s hs).fallbackPage

/-! ## The watch -/

namespace Watch

/-- The settings of the files that load, in order. -/
def loaded (files : List FileState) : List Settings :=
  files.filterMap fun file => (Settings.load? file).toOption

lemma valid_of_mem_loaded {files : List FileState} {s : Settings} (h : s ∈ loaded files) :
    s.Valid := by
  obtain ⟨file, -, hfile⟩ := List.mem_filterMap.1 h
  cases hload : Settings.load? file with
  | ok t =>
      rw [hload] at hfile
      cases hfile
      exact Settings.valid_of_load? hload
  | error e =>
      rw [hload] at hfile
      cases hfile

lemma loaded_singleton_of_ok {file : FileState} {s : Settings} (h : Settings.load? file = .ok s) :
    loaded [file] = [s] := by
  simp [loaded, h, Except.toOption]

lemma loaded_singleton_of_error {file : FileState} {error : SettingsError}
    (h : Settings.load? file = .error error) : loaded [file] = [] := by
  simp [loaded, h, Except.toOption]

/-- **One change** adds its outcome, and counts it. -/
lemma reload_eq (w : Watch) (file : FileState) :
    w.reload file =
      ⟨w.outcomes ++ [Settings.load? file],
        ⟨w.count.ok + (loaded [file]).length, w.count.error + (1 - (loaded [file]).length)⟩⟩ := by
  unfold reload
  cases hload : Settings.load? file with
  | ok s =>
      rw [loaded_singleton_of_ok hload]
      rfl
  | error error =>
      rw [loaded_singleton_of_error hload]
      rfl

/-- **A sequence of changes** adds their outcomes, and counts them. -/
lemma foldl_reload (files : List FileState) (w : Watch) :
    files.foldl reload w =
      ⟨w.outcomes ++ files.map Settings.load?,
        ⟨w.count.ok + (loaded files).length, w.count.error + (files.length - (loaded files).length)⟩⟩ := by
  induction files generalizing w with
  | nil => simp [loaded]
  | cons file rest ih =>
      have hfile : (loaded [file]).length ≤ 1 := List.length_filterMap_le _ [file]
      have hrest : (loaded rest).length ≤ rest.length := List.length_filterMap_le _ rest
      have hcons : (loaded (file :: rest)).length = (loaded [file]).length + (loaded rest).length := by
        rw [← List.length_append, loaded, loaded, loaded, ← List.filterMap_append]
        rfl
      rw [List.foldl_cons, ih, reload_eq, hcons, List.length_cons, List.append_assoc,
        List.singleton_append, List.map_cons]
      -- the outcomes agree already; each count is a sum over the first file and the others
      congr 2 <;> dsimp only <;> omega

lemma all_eq (files : List FileState) :
    all files =
      ⟨files.map Settings.load?, ⟨(loaded files).length, files.length - (loaded files).length⟩⟩ := by
  simp [all, foldl_reload]

lemma sent_all (files : List FileState) : (all files).sent = loaded files := by
  rw [all_eq, sent, List.filterMap_map]
  rfl

/-- **Reloading keeps the last good settings.**  Whatever the files hold that a watched path leads to,
one after the other:

* The settings that are sent on are those of the files that load, in order, and nothing else.  They pass
  validation again.
* The count of good reloads grows by their number, and that of bad reloads by the number of the other
  files.
* A server that was started with settings read from a text, and that takes everything that is sent
  before it is stopped, at whatever moments and with whatever requests in between, rejects none of it.
  After each of the settings it shows their landing pages, and so in the end those of the last ones, or
  of the start if there were none.

The server may have been kept from starting by the places for requests, if they are too many. -/
theorem keeps_last_good {text : String} {start : Settings} (h : Settings.ofString? text = .ok start)
    (files : List FileState) :
    let accepted := files.filterMap fun file => (Settings.load? file).toOption
    (all files).sent = accepted ∧ (∀ s ∈ accepted, s.validate = .ok s) ∧
    (∀ earlier, (all (earlier ++ files)).count.ok = (all earlier).count.ok + accepted.length ∧
      (all (earlier ++ files)).count.error =
        (all earlier).count.error + (files.length - accepted.length)) ∧
    ∃ sites, sites.table = start.sites ∧
      (start.listener.maxConcurrentRequests ≤ maxPermits →
        start? start = .ok ⟨start, sites, {}, false⟩) ∧
      ∀ actions, .stop ∉ actions → actions.filterMap Action.sent? = accepted →
        let server : Server := ⟨start, sites, {}, false⟩
        (∀ before next after, actions = before ++ .update next :: after →
          ∃ report, (server.run actions).1[before.length]? = some (.updated report) ∧
            report.rejection = none ∧
            (server.run (before ++ [.update next])).2.sites.table = next.sites) ∧
        (server.run actions).2.sites.table = (accepted.getLast?.getD start).sites := by
  intro accepted
  have hvalid : ∀ s ∈ accepted, s.Valid := fun s hs => valid_of_mem_loaded hs
  obtain ⟨sites, hsites⟩ := (Settings.valid_of_ofString? h).exists_sites
  refine ⟨sent_all files, fun s hs => Settings.validate_eq_ok_iff.2 ⟨hvalid s hs, rfl⟩, fun earlier => ?_,
    sites, SiteMap.table_of_ofTable? hsites, fun hplaces => ?_, ?_⟩
  · have hall : all (earlier ++ files) = files.foldl reload (all earlier) := List.foldl_append
    rw [hall, foldl_reload]
    exact ⟨rfl, rfl⟩
  · exact start?_eq_ok_iff.2 ⟨sites, hsites, hplaces, rfl⟩
  · intro actions hstop hsent server
    -- whether or not the places can be set up, this is the state that the invariant begins with
    have hbegin : Follows start [] server := ⟨rfl, hsites, by simp [server]⟩
    have hrun : ∀ done, Follows start done (server.run done).2 := hbegin.run
    refine ⟨?_, ?_⟩
    · rintro before next after rfl
      have hbefore : .stop ∉ before := fun hmem => hstop (List.mem_append_left _ hmem)
      have hnext : next.Valid := hvalid next (hsent ▸ List.mem_filterMap.2 ⟨.update next, by simp, rfl⟩)
      refine ⟨((server.run before).2.update next).1, ?_, ?_, ?_⟩
      · rw [getElem?_run, (hrun before).outcome_update hbefore]
      · exact (update_rejection_eq_none_iff _ next).2 hnext.fallbackPage
      · exact (hrun (before ++ [.update next])).table_of_valid hbefore hnext
    · rw [← hsent]
      exact (hrun actions).table_of_sent hstop (hsent ▸ hvalid)

/-- A page is added.  Then the file disappears, comes back without a text in it, and loses the page of
the fallback language; the page that was added stays. -/
theorem keeps_last_good_through_bad_files :
    let files := [.content (Utf8.encode "[sites]\nen = \"/en/\"\nde = \"/de/\"".toList),
      .unreadable .missing, .content [0xFF],
      .content (Utf8.encode "[sites]\nde = \"/de/\"".toList)]
    let next : Settings := { sites := .ofList [("de", "/de/"), ("en", "/en/")] }
    (all files).sent = [next] ∧ (all files).count.error = 3 ∧
      ∃ start server, Settings.ofString? "[sites]\nen = \"/en/\"" = .ok start ∧
        start? start = .ok server ∧ (server.run [.update next]).2.sites.table = next.sites := by
  intro files next
  have htext : Settings.ofString? "[sites]\nen = \"/en/\"" =
      .ok { sites := .ofList [("en", "/en/")] } := by
    decide +kernel
  have hloaded : files.filterMap (fun file => (Settings.load? file).toOption) = [next] := by
    decide +kernel
  obtain ⟨hsent, -, hcount, sites, -, hstart, hrun⟩ := keeps_last_good htext files
  obtain ⟨-, herror⟩ := hcount []
  rw [List.nil_append, hloaded] at herror
  rw [hloaded] at hsent hrun
  obtain ⟨-, htable⟩ := hrun [.update next] (by simp) rfl
  exact ⟨hsent, herror.trans rfl, _, _, htext, hstart (by decide), htable⟩

end Watch

end Signpost
