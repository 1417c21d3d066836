import Mathlib.Tactic.Common
import Signpost.Proofs.Server.ValidSettings
import Signpost.Service

/-!
# How the service starts

Starting is a sequence of steps, each of which may tell events and may fail.  The first step that fails
ends it, and what was told until then is kept.

**One step.**  `Service.run_bind` runs two steps one after the other, and `Service.run_announce` runs a
step that listens on an address and tells so.

**All steps.**  `Service.run_startServer` is the outcome of all steps and what is told on the way, with the
three things that can go wrong in the order in which they are looked at.

**Valid settings.**  `Service.obstacle?` is the first of these things, and
**`Service.starts_to_listen_last`** says that the service starts unless there is one.
-/

namespace Signpost.Service

open Log
open Net (SocketAddress)

/-! ## One step -/

variable {α β : Type} (events : List Event)

lemma run_tell (e : Event) : (tell e).run.run events = (.ok (), events ++ [e]) :=
  rfl

/-- Two steps: the second goes on where the first ended, unless that failed. -/
lemma run_bind (x : Starting α) (f : α → Starting β) :
    (x >>= f).run.run events =
      match x.run.run events with
      | (.ok a, told) => (f a).run.run told
      | (.error fault, told) => (.error fault, told) := by
  rw [ExceptT.run_bind, StateT.run_bind]
  show (match x.run.run events with | (a, told) => _) = _
  rcases x.run.run events with ⟨_ | a, told⟩ <;> rfl

/-- An address is listened on and told, or there is a fault with it and nothing is told. -/
lemma run_announce (fault : BindFault → StartupFault) (check : SocketAddress → Option BindFault)
    (event : SocketAddress → Event) (address? : Option SocketAddress) :
    (announce fault check event address?).run.run events =
      match address?.bind check with
      | some f => (.error (fault f), events)
      | none => (.ok (), events ++ address?.toList.map event) := by
  cases address? with
  | none =>
      show (Except.ok (), events) = (Except.ok (), events ++ [])
      rw [List.append_nil]
  | some address =>
      show (failIf fault (check address) >>= fun _ => tell (event address)).run.run events = _
      rw [run_bind, Option.bind_some]
      cases check address <;> rfl

lemma run_watch (path : String) (settings : Settings) :
    (watch path settings).run.run events =
      (.ok (), events ++ if settings.reload.enabled then [.watcherStarted path] else []) := by
  unfold watch
  split
  · rfl
  · rw [List.append_nil]
    rfl

lemma run_orFail {ε : Type} (fault : ε → StartupFault) (x : Except ε α) :
    (orFail fault x).run.run events = (x.mapError fault, events) := by
  cases x <;> rfl

/-! ## All steps -/

/-- **All steps**, with what can go wrong in the order in which it is looked at. -/
theorem run_startServer (path : String) (host : Host) (settings : Settings) :
    let metrics := metricsAddress? settings
    let listener := SocketAddress.ofString? settings.listener.bindAddress
    let loaded := [.configurationLoaded path settings.listener.bindAddress
      settings.sites.languages settings.timeouts.requestSecs]
    let offered := loaded ++ metrics.toList.map (.metricsListening ·.render)
    let watched := offered ++ if settings.reload.enabled then [.watcherStarted path] else []
    (startServer path host settings).run.run [] =
      match metrics.bind host.bindFault?, Server.start? settings,
        listener.bind (listenFault? host metrics) with
      | some fault, _, _ => (.error (.metrics fault), loaded)
      | none, .error fault, _ => (.error (serverFault fault), offered)
      | none, .ok _, some fault => (.error (.bind settings.listener.bindAddress fault), watched)
      | none, .ok server, none =>
        (.ok server, watched ++ listener.toList.map fun address =>
          .serverStarting (host.assign address).render server.sites.size) := by
  intro metrics listener loaded offered watched
  simp only [startServer, offerMetrics, listen, run_bind, run_tell, run_announce, run_orFail,
    run_watch, List.nil_append]
  cases metrics.bind host.bindFault? with
  | some fault => rfl
  | none =>
      cases Server.start? settings with
      | error fault => rfl
      | ok server => cases listener.bind (listenFault? host metrics) <;> rfl

/-- Starting tells nothing but news: what goes wrong is complained about at the end. -/
lemma level_of_mem_startServer {path : String} {host : Host} {settings : Settings} {e : Event}
    (h : e ∈ ((startServer path host settings).run.run []).2) : e.level = .info := by
  have hwatched : e ∈ (if settings.reload.enabled then [Event.watcherStarted path] else []) →
      e.level = .info := by
    split <;> simp +contextual [Event.level]
  rw [run_startServer] at h
  simp only [List.cons_append, List.nil_append, List.append_assoc] at h
  split at h <;> simp only [List.mem_cons, List.mem_append, List.mem_map, List.not_mem_nil,
    or_false] at h
  · rw [h]
    rfl
  · rcases h with rfl | ⟨address, -, rfl⟩ <;> rfl
  · rcases h with rfl | ⟨address, -, rfl⟩ | h
    · rfl
    · rfl
    · exact hwatched h
  · rcases h with rfl | ⟨address, -, rfl⟩ | h | ⟨address, -, rfl⟩
    · rfl
    · rfl
    · exact hwatched h
    · rfl

/-! ## Valid settings -/

/-- What keeps the service from starting with valid settings: the first thing in the order of the steps. -/
def obstacle? (host : Host) (settings : Settings) : Option StartupFault :=
  ((metricsAddress? settings).bind host.bindFault?).map .metrics <|>
  (if Server.maxPermits < settings.listener.maxConcurrentRequests then some .crash else none) <|>
  ((SocketAddress.ofString? settings.listener.bindAddress).bind
    (listenFault? host (metricsAddress? settings))).map (.bind settings.listener.bindAddress)

lemma obstacle?_eq_none_iff {host : Host} {settings : Settings} :
    obstacle? host settings = none ↔
      (∀ address, metricsAddress? settings = some address → host.bindFault? address = none) ∧
      settings.listener.maxConcurrentRequests ≤ Server.maxPermits ∧
      ∀ address, SocketAddress.ofString? settings.listener.bindAddress = some address →
        listenFault? host (metricsAddress? settings) address = none := by
  simp [obstacle?, Option.bind_eq_none_iff]

/-- Valid settings name an address to listen on. -/
lemma exists_listener {settings : Settings} (h : settings.Valid) :
    ∃ address, SocketAddress.ofString? settings.listener.bindAddress = some address := by
  have hgood := h.bindAddress
  rwa [Settings.isBadAddress, Option.isNone_eq_false_iff, Option.isSome_iff_exists] at hgood

/-- **The service listens when everything else is done.**  With valid settings it starts a server, unless
there is an obstacle, and then it fails with the first.  It tells that it serves exactly if it starts, once
and last, with the address that it listens on and the number of landing pages. -/
theorem starts_to_listen_last {settings : Settings} (h : settings.Valid) (path : String)
    (host : Host) :
    let ran := (startServer path host settings).run.run []
    match obstacle? host settings with
    | some fault => ran.1 = .error fault ∧ ∀ text n, .serverStarting text n ∉ ran.2
    | none => ∃ server address earlier, Server.start? settings = .ok server ∧
        SocketAddress.ofString? settings.listener.bindAddress = some address ∧
        ran = (.ok server,
          earlier ++ [.serverStarting (host.assign address).render server.sites.size]) ∧
        ∀ text n, .serverStarting text n ∉ earlier := by
  intro ran
  have hran : ran = _ := run_startServer path host settings
  obtain ⟨address, haddress⟩ := exists_listener h
  rw [haddress, Option.bind_some] at hran
  rw [obstacle?, haddress, Option.bind_some]
  cases hmetrics : (metricsAddress? settings).bind host.bindFault? with
  | some fault =>
      rw [hmetrics] at hran
      rw [hran]
      exact ⟨rfl, by simp⟩
  | none =>
      rw [hmetrics] at hran
      by_cases hplaces : settings.listener.maxConcurrentRequests ≤ Server.maxPermits
      · obtain ⟨sites, -, hstart⟩ := Server.exists_start?_of_valid h hplaces
        rw [if_neg (Nat.not_lt.2 hplaces)]
        cases hlisten : listenFault? host (metricsAddress? settings) address with
        | some fault =>
            rw [hstart, hlisten] at hran
            rw [hran]
            refine ⟨rfl, fun text n => ?_⟩
            cases settings.reload.enabled <;> simp
        | none =>
            rw [hstart, hlisten] at hran
            refine ⟨_, address, _, hstart, rfl, hran, fun text n => ?_⟩
            cases settings.reload.enabled <;> simp
      · have hstart := Server.start?_of_maxPermits_lt h (Nat.not_le.1 hplaces)
        rw [hstart] at hran
        rw [hran, if_pos (Nat.not_le.1 hplaces)]
        exact ⟨rfl, by simp⟩

end Signpost.Service
