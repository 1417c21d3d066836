import Mathlib.Tactic.Common
import Signpost.Proofs.Service.Log
import Signpost.Proofs.Service.Start

/-!
# The service from start to end

A run ends in one of three ways: the settings do not load, there is an obstacle to the start, or a signal
comes after the visits.

* **`Service.run_ends_once`** — how each of the three shows in the exit code, the complaint, and what comes of
  the visits.
* **`Service.run_logs_at_level`** — the log at a level is the log of everything without what lies below.
* **`Service.run_errors_are_bad_files`** — at each level, the errors in the log.
* **`Service.exitCode_offline_iff`** — on which addresses the service starts where no network is up.
-/

namespace Signpost.Service

open Log
open Net (SocketAddress)

variable (path : String) (host : Host) (vs : List Visit) (signal : Signal)

/-! ## The end of a run -/

lemma run_of_error {error : SettingsError} (h : Settings.load? host.settingsFile = .error error) :
    run path host vs signal =
      ⟨1, [], some (error.message (host.parseDetail host.settingsFile)), []⟩ := by
  rw [run, h]

/-- A run whose start is known. -/
lemma run_of_load {settings : Settings} (h : Settings.load? host.settingsFile = .ok settings) :
    run path host vs signal =
      let filter := Filter.inForce host.filterVariable settings.observability.logLevel
      match (startServer path host settings).run.run [] with
      | (.error fault, told) => ⟨fault.exitCode, filter.written told, fault.message?, []⟩
      | (.ok server, told) =>
        let visited := visits path host server vs
        ⟨0, filter.written (told ++ visited.1 ++ endEvents signal), none, visited.2.1⟩ := by
  unfold run
  cases hload : Settings.load? host.settingsFile with
  | error error =>
      rw [hload] at h
      cases h
  | ok loaded =>
      rw [hload] at h
      cases h
      rfl

/-- **A run ends in one of three ways.**

* Settings that do not load are complained about; nothing is told, and nothing comes of any visit.
* If there is an obstacle to the start, its exit code and its wording are those of the run; it is never told
  that the service serves, and nothing comes of any visit.
* Otherwise a server is started with the settings and visited.  Something comes of each visit, and the
  run ends well. -/
theorem run_ends_once :
    let r := run path host vs signal
    (∀ error, Settings.load? host.settingsFile = .error error →
      r.exitCode = 1 ∧ r.events = [] ∧ r.outcomes = [] ∧
        r.complaint = some (error.message (host.parseDetail host.settingsFile))) ∧
    ∀ settings, Settings.load? host.settingsFile = .ok settings →
      (∀ fault, obstacle? host settings = some fault →
        r.exitCode = fault.exitCode ∧ r.complaint = fault.message? ∧ r.outcomes = [] ∧
          ∀ text n, .serverStarting text n ∉ r.events) ∧
      (obstacle? host settings = none → ∃ server, Server.start? settings = .ok server ∧
        r.exitCode = 0 ∧ r.complaint = none ∧
        r.outcomes = (visits path host server vs).2.1 ∧ r.outcomes.length = vs.length) := by
  intro r
  refine ⟨fun error h => ?_, fun settings h => ?_⟩
  · have hr : r = _ := run_of_error path host vs signal h
    rw [hr]
    exact ⟨rfl, rfl, rfl, rfl⟩
  · have hr : r = _ := run_of_load path host vs signal h
    have hvalid := Settings.valid_of_load? h
    have hstarts := starts_to_listen_last hvalid path host
    refine ⟨fun fault hfault => ?_, fun hnone => ?_⟩
    · rw [hfault] at hstarts
      obtain ⟨hresult, hsilent⟩ := hstarts
      obtain ⟨result, told, hran⟩ : ∃ result told,
          (startServer path host settings).run.run [] = (result, told) := ⟨_, _, rfl⟩
      rw [hran] at hresult hsilent hr
      cases hresult
      rw [hr]
      exact ⟨rfl, rfl, rfl, fun text n hmem => hsilent text n (List.mem_of_mem_filter hmem)⟩
    · rw [hnone] at hstarts
      obtain ⟨server, _, _, hserver, -, hran, -⟩ := hstarts
      rw [hran] at hr
      refine ⟨server, hserver, ?_⟩
      rw [hr]
      exact ⟨rfl, rfl, rfl, length_outcomes_visits path host server vs⟩

/-- So the exit code is zero exactly if the settings load and nothing keeps the service from starting. -/
theorem exitCode_eq_zero_iff :
    (run path host vs signal).exitCode = 0 ↔
      ∃ settings, Settings.load? host.settingsFile = .ok settings ∧ obstacle? host settings = none := by
  obtain ⟨hbad, hgood⟩ := run_ends_once path host vs signal
  cases hload : Settings.load? host.settingsFile with
  | error error => simp [(hbad error hload).1]
  | ok settings =>
      obtain ⟨hfault, hnone⟩ := hgood settings hload
      cases hobstacle : obstacle? host settings with
      | none =>
          obtain ⟨server, -, hzero, -⟩ := hnone hobstacle
          simp [hzero, hobstacle]
      | some fault =>
          have hcode : fault.exitCode ≠ 0 := by cases fault <;> simp [StartupFault.exitCode]
          simp [(hfault fault hobstacle).1, hobstacle, hcode]

/-! ## The log of a run -/

/-- Visits do not depend on the filter that the environment asks for. -/
lemma visits_filterVariable (asked : Option String) (server : Server) :
    visits path { host with filterVariable := asked } server vs = visits path host server vs := by
  induction vs generalizing server with
  | nil => rfl
  | cons v rest ih =>
      have hfirst : visit path { host with filterVariable := asked } server v =
          visit path host server v := by
        cases v <;> rfl
      rw [visits_cons, visits_cons, hfirst, ih]

/-- What a run writes is told without regard to the filter, and its errors are those of the visits. -/
lemma exists_told {settings : Settings} (h : Settings.load? host.settingsFile = .ok settings) :
    ∃ told, (∀ asked, (run path { host with filterVariable := asked } vs signal).events =
        (Filter.inForce asked settings.observability.logLevel).written told) ∧
      errors told = if obstacle? host settings = none ∧ settings.reload.enabled = true then
        (vs.filterMap Visit.file?).filterMap (failure? host) else [] := by
  have hrun : ∀ asked, run path { host with filterVariable := asked } vs signal = _ :=
    fun asked => run_of_load path { host with filterVariable := asked } vs signal h
  have hvalid := Settings.valid_of_load? h
  have hstarts := starts_to_listen_last hvalid path host
  obtain ⟨result, told, hran⟩ : ∃ result told,
      (startServer path host settings).run.run [] = (result, told) := ⟨_, _, rfl⟩
  have hsame : ∀ asked, (startServer path { host with filterVariable := asked } settings).run.run [] =
      (result, told) := fun _ => hran
  have hnews : errors told = [] := by
    refine List.filter_eq_nil_iff.2 fun e he => ?_
    have hmem : e ∈ ((startServer path host settings).run.run []).2 := by
      rw [hran]
      exact he
    rw [level_of_mem_startServer hmem]
    decide
  cases hobstacle : obstacle? host settings with
  | some fault =>
      rw [hobstacle, hran] at hstarts
      obtain ⟨rfl, -⟩ := hstarts
      refine ⟨told, fun asked => ?_, by simpa using hnews⟩
      rw [hrun, hsame]
  | none =>
      rw [hobstacle, hran] at hstarts
      obtain ⟨server, _, _, hserver, -, hresult, -⟩ := hstarts
      obtain rfl : result = .ok server := congrArg Prod.fst hresult
      refine ⟨told ++ (visits path host server vs).1 ++ endEvents signal, fun asked => ?_, ?_⟩
      · rw [hrun, hsame]
        dsimp only
        rw [visits_filterVariable]
      · have hend : errors (endEvents signal) = [] := rfl
        rw [errors_append, errors_append, hnews, hend,
          errors_are_bad_files hvalid hserver path host vs]
        simp

/-- **The log at a level is the log of everything without what lies below.**  The settings name a level, in
letters of any case.  Unless the environment asks for a filter that can be read, a run writes what it
writes when the environment asks for everything, and leaves out what is less important than that level. -/
theorem run_logs_at_level {settings : Settings}
    (h : Settings.load? host.settingsFile = .ok settings)
    (hasked : host.filterVariable.bind Filter.ofString? = none) :
    ∃ level : Level, Text.EqUpToCase settings.observability.logLevel level.name ∧
      (run path host vs signal).events =
        (run path { host with filterVariable := some "trace" } vs signal).events.filter
          fun e => level.severity ≤ e.level.severity := by
  obtain ⟨level, hlevel⟩ := (Settings.valid_of_load? h).exists_level
  obtain ⟨told, htold, -⟩ := exists_told path host vs signal h
  refine ⟨level, hlevel, ?_⟩
  rw [htold (some "trace"), Filter.written_inForce_trace, ← Filter.written_inForce hasked hlevel]
  exact htold host.filterVariable

/-- **Whatever the level, the errors in the log are the bad settings files.**  A run writes an error for each
new version of the settings file that does not load, if it starts and watches the file, and no other
errors. -/
theorem run_errors_are_bad_files {settings : Settings}
    (h : Settings.load? host.settingsFile = .ok settings)
    (hasked : host.filterVariable.bind Filter.ofString? = none) :
    errors (run path host vs signal).events =
      if obstacle? host settings = none ∧ settings.reload.enabled = true then
        (vs.filterMap Visit.file?).filterMap (failure? host) else [] := by
  obtain ⟨level, -, hlog⟩ := run_logs_at_level path host vs signal h hasked
  obtain ⟨told, htold, herrors⟩ := exists_told path host vs signal h
  rw [hlog, htold (some "trace"), Filter.written_inForce_trace, ← herrors, errors,
    List.filter_filter]
  -- no level lies above that of errors
  refine List.filter_congr fun e _ => ?_
  rw [Bool.eq_iff_iff]
  simp only [Bool.and_eq_true, decide_eq_true_eq, and_iff_left_iff_imp]
  intro he
  rw [he]
  cases level <;> decide

/-! ## Without a network -/

lemma offlineFault?_eq_none_iff {address : SocketAddress} :
    offlineFault? address = none ↔
      address.v4Part?.isSome = true ∨ address.isUnspecifiedV6 = true := by
  cases address with
  | v4 address port => simp [offlineFault?, SocketAddress.v4Part?]
  | v6 groups scope port =>
      unfold offlineFault?
      dsimp only
      rw [← Bool.or_eq_true]
      split
      · next hbelongs => simp [hbelongs]
      · next hforeign =>
        refine iff_of_false ?_ hforeign
        split_ifs <;> simp

/-- An address that a host without a network can listen on while others are taken: one that stands for
an IPv4 address, or the IPv6 address of zeros. -/
def IsFree (taken : List SocketAddress) (address : SocketAddress) : Prop :=
  (address.v4Part?.isSome = true ∨ address.isUnspecifiedV6 = true) ∧
    ∀ other ∈ taken, collide other address = false

lemma bindFault?_offline_eq_none_iff {file : FileState} {asked : Option String}
    {taken : List SocketAddress} {port : Nat} {address : SocketAddress} :
    (Host.offline file asked taken port).bindFault? address = none ↔ IsFree taken address := by
  rw [Host.offline, IsFree]
  dsimp only
  split
  · next htaken =>
    obtain ⟨other, hother, hcollide⟩ := List.any_eq_true.1 htaken
    simp only [reduceCtorEq, false_iff, not_and]
    exact fun _ hfree => Bool.false_ne_true ((hfree other hother).symm.trans hcollide)
  · next hfree =>
    rw [Bool.not_eq_true, List.any_eq_false] at hfree
    simp only [offlineFault?_eq_none_iff, iff_self_and]
    exact fun _ other hother => Bool.eq_false_iff.2 (hfree other hother)

/-- **Without a network the service starts** exactly if the settings load, the places can be set up, the
addresses for metrics and for requests are free, and these two do not collide. -/
theorem exitCode_offline_iff (file : FileState) (asked : Option String)
    (taken : List SocketAddress) (port : Nat) :
    (run path (Host.offline file asked taken port) vs signal).exitCode = 0 ↔
      ∃ settings, Settings.load? file = .ok settings ∧
        settings.listener.maxConcurrentRequests ≤ Server.maxPermits ∧
        (∀ metrics, metricsAddress? settings = some metrics → IsFree taken metrics) ∧
        ∀ address, SocketAddress.ofString? settings.listener.bindAddress = some address →
          IsFree taken address ∧
          ∀ metrics, metricsAddress? settings = some metrics → collide address metrics = false := by
  have hlisten : ∀ metrics address,
      listenFault? (Host.offline file asked taken port) metrics address = none ↔
        IsFree taken address ∧ ∀ other, metrics = some other → collide address other = false := by
    intro metrics address
    rw [listenFault?]
    cases metrics with
    | none => simp [bindFault?_offline_eq_none_iff]
    | some other => cases hcollide : collide address other <;>
        simp [hcollide, bindFault?_offline_eq_none_iff]
  rw [exitCode_eq_zero_iff]
  refine exists_congr fun settings => and_congr_right fun _ => ?_
  simp only [obstacle?_eq_none_iff, bindFault?_offline_eq_none_iff, hlisten, and_left_comm]

end Signpost.Service
