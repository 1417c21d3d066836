import Signpost.Log.Event
import Signpost.Server
import Signpost.Service.Host

/-!
# The service from start to end

A run of the service on a host: it starts up, is visited, and is stopped by a signal.

* **Starting** loads the settings, offers metrics, sets up the server, begins to watch the settings
  file and listens, in that order; the first step that fails ends the run (`Service.startServer`).
* **Visits** are requests, and new versions of the settings file (`Service.visit`).
* **The end** of a run has an exit code: zero after a signal, one after a step that failed, and 101
  if the server could not be set up at all.

Everything on the way is told as log events, and the run shows those that the filter lets through.
-/

namespace Signpost

open Http Log Negotiation
open Net (SocketAddress)

/-- Why the service does not start. -/
inductive StartupFault where
  | settings (error : SettingsError)
  | metrics (fault : BindFault)
  | bind (address : String) (fault : BindFault)
  /-- The server cannot set up its places for requests. -/
  | crash
  deriving DecidableEq

/-- The wording of a fault; a crash is not put into words. -/
def StartupFault.message? : StartupFault → Option String
  | settings error => some error.message
  | metrics fault =>
    some ("failed to start metrics exporter: failed to create HTTP listener: " ++ fault.message)
  | bind address fault => some ("failed to bind " ++ address ++ ": " ++ fault.message)
  | crash => none

/-- The exit code after a fault. -/
def StartupFault.exitCode : StartupFault → Nat
  | crash => 101
  | _ => 1

/-- Something that happens to the running service. -/
inductive Visit where
  /-- A request, with the id it gets if it has none. -/
  | request (freshId : String) (r : Request)
  /-- A new version of the settings file. -/
  | replaceFile (file : FileState)

/-- What comes of a visit. -/
inductive VisitOutcome where
  | answered (response : Response)
  | unanswered
  /-- No request can reach the service. -/
  | unreachable
  /-- The settings file was replaced; tells whether its settings were sent to the server. -/
  | reloaded (ok : Bool)
  deriving DecidableEq

/-- A run of the service. -/
structure Run where
  /-- The exit code. -/
  exitCode : Nat
  /-- The events that were written. -/
  events : List Event
  /-- The message at the end of a run that failed. -/
  complaint : Option String
  /-- What came of the visits. -/
  outcomes : List VisitOutcome

namespace Service

/-! ## Starting -/

/-- A step of starting: it may tell events, and it may fail. -/
abbrev Starting := ExceptT StartupFault (StateM (List Event))

/-- Tells an event. -/
def tell (e : Event) : Starting Unit :=
  modify (· ++ [e])

/-- Goes on with a value, or fails. -/
def orFail {ε α : Type} (fault : ε → StartupFault) : Except ε α → Starting α
  | .ok a => pure a
  | .error e => throw (fault e)

/-- Fails if there is a fault. -/
def failIf (fault : BindFault → StartupFault) : Option BindFault → Starting Unit
  | some f => throw (fault f)
  | none => pure ()

/-- Listens on an address, if there is one, and tells so; fails if there is a fault with it. -/
def announce (fault : BindFault → StartupFault) (check : SocketAddress → Option BindFault)
    (event : SocketAddress → Event) (address? : Option SocketAddress) : Starting Unit :=
  address?.forM fun address => do
    failIf fault (check address)
    tell (event address)

/-- Where metrics are to be offered; nothing if they are not. -/
def metricsAddress? (settings : Settings) : Option SocketAddress :=
  if settings.observability.metricsEnabled
  then SocketAddress.ofString? settings.observability.metricsAddress else none

/-- Offers metrics, and tells where. -/
def offerMetrics (host : Host) (settings : Settings) : Starting Unit :=
  announce .metrics host.bindFault? (.metricsListening ·.render) (metricsAddress? settings)

/-- The fault of a server that does not start. -/
def serverFault : StartFault → StartupFault
  | .settings error => .settings error
  | .tooManyPermits => .crash

/-- Begins to watch the settings file, if it is to be watched. -/
def watch (path : String) (settings : Settings) : Starting Unit :=
  if settings.reload.enabled then tell (.watcherStarted path) else pure ()

/-- Why the service cannot listen on an address when it offers metrics on another. -/
def listenFault? (host : Host) (metrics : Option SocketAddress) (address : SocketAddress) :
    Option BindFault :=
  if metrics.any (collide address) then some .inUse else host.bindFault? address

/-- Listens for requests to the server, and tells where. -/
def listen (host : Host) (settings : Settings) (server : Server) : Starting Unit :=
  announce (.bind settings.listener.bindAddress) (listenFault? host (metricsAddress? settings))
    (fun address => .serverStarting (host.assign address).render server.sites.size)
    (SocketAddress.ofString? settings.listener.bindAddress)

/-- Starts a server with the given settings. -/
def startServer (path : String) (host : Host) (settings : Settings) : Starting Server := do
  tell (.configurationLoaded path settings.listener.bindAddress settings.sites.languages
    settings.timeouts.requestSecs)
  offerMetrics host settings
  let server ← orFail serverFault (Server.start? settings)
  watch path settings
  listen host settings server
  return server

/-! ## Visits -/

/-- The events of a request that is redirected. -/
def redirectEvents (policy : Policy) (r : Request) (resolution : Resolution) : List Event :=
  let header := Fields.acceptLanguage? r.fields
  let dropped : List Token := match policy, header with
    | .drop, some text => (tokens .drop text.toList).filter fun t => (t.weight? .drop).isNone
    | _, _ => []
  let factors := dropped.map fun t =>
    .droppedFactor (String.ofList t.tag) (String.ofList (Text.trim (t.factor.getD [])))
  let bad := if isFieldText resolution.location then [] else [.badLocation resolution.location]
  factors ++ [.redirecting (Fields.requestId r.fields) header resolution] ++ bad

/-- The events of a request that is answered. -/
def answerEvents (policy : Policy) (r : Request) (answer : Answer) : List Event :=
  match answer.resolution with
  | some resolution => redirectEvents policy r resolution
  | none => []

/-- The field of a connection that serves one request. -/
def closing : Field := .ofText "connection" "close"

/-- A request as it arrives over a connection of its own. -/
def arriving (r : Request) : Request :=
  { r with fields := .ofText "host" "localhost" :: closing :: r.fields }

/-- A request over a connection of its own. -/
def request (host : Host) (server : Server) (freshId : String) (r : Request) :
    List Event × VisitOutcome × Server :=
  if !host.isReachable then ([], .unreachable, server)
  else
    match server.handle freshId (arriving r) with
    | (none, server) => ([], .unanswered, server)
    | (some answer, server) =>
      let policy := server.settings.negotiation.invalidWeight
      (answerEvents policy ((arriving r).addId freshId) answer,
        .answered (answer.response.withDefault closing), server)

/-- The events of new settings: whether the landing pages were exchanged, and for these, and which other
changes wait for a restart. -/
def updateEvents (report : UpdateReport) (sites : SiteMap) : List Event :=
  let news := match report.rejection with
    | none => .siteMapReloaded sites.languages
    | some error => .updateRejected error.message
  news :: report.restartRequired.map .restartRequired

/-- A new version of the settings file.  Nobody notices unless the file is watched. -/
def replaceFile (path : String) (host : Host) (server : Server) (file : FileState) :
    List Event × VisitOutcome × Server :=
  if !server.settings.reload.enabled then ([], .reloaded false, server)
  else
    match Settings.load? file with
    | .error error =>
      ([.changeDetected path, .reloadFailed (error.message (host.parseDetail file))],
        .reloaded false, server)
    | .ok next =>
      let (report, server) := server.update next
      (.changeDetected path :: updateEvents report server.sites, .reloaded true, server)

/-- One visit: the events, what comes of it, and the server after it. -/
def visit (path : String) (host : Host) (server : Server) :
    Visit → List Event × VisitOutcome × Server
  | .request freshId r => request host server freshId r
  | .replaceFile file => replaceFile path host server file

/-- A sequence of visits: the events, what comes of each, and the server after the last. -/
def visits (path : String) (host : Host) (server : Server) :
    List Visit → List Event × List VisitOutcome × Server
  | [] => ([], [], server)
  | v :: vs =>
    let (events, outcome, server) := visit path host server v
    let (moreEvents, outcomes, server) := visits path host server vs
    (events ++ moreEvents, outcome :: outcomes, server)

/-! ## Runs -/

/-- The events at the end of a run. -/
def endEvents (signal : Signal) : List Event :=
  [.signalReceived signal, .shutdownReceived, .serverStopped, .shutdownComplete]

/-- A run with the given settings file: it starts, is visited, and is stopped by a signal. -/
def run (path : String) (host : Host) (vs : List Visit) (signal : Signal) : Run :=
  match Settings.load? host.settingsFile with
  | .error error => ⟨1, [], some (error.message (host.parseDetail host.settingsFile)), []⟩
  | .ok settings =>
    let filter := Filter.inForce host.filterVariable settings.observability.logLevel
    match (startServer path host settings).run.run [] with
    | (.error fault, events) => ⟨fault.exitCode, filter.written events, fault.message?, []⟩
    | (.ok server, events) =>
      let (visitEvents, outcomes, _) := visits path host server vs
      ⟨0, filter.written (events ++ visitEvents ++ endEvents signal), none, outcomes⟩

end Service

end Signpost
