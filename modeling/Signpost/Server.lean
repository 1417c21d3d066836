import Signpost.Server.Answer
import Signpost.Server.Tally
import Signpost.Settings.Loading

/-!
# The running server

A server keeps the settings it was started with.  While it runs it answers requests, exchanges its
landing pages for those of new settings, and counts its redirects.  Once it has been stopped it
takes no more settings; requests that still reach it are answered as before.  Stopping is one step: the
time in which the requests under way are finished is left out.

* `Server.start?` needs a landing page for the fallback language, and cannot set up more than
  `Server.maxPermits` places for requests.
* `Server.step` is one action and its outcome, `Server.run` a sequence of them.
-/

namespace Signpost

open Http (Request)

/-- Why a server cannot start. -/
inductive StartFault where
  /-- The settings give no site map. -/
  | settings (error : SettingsError)
  /-- So many places for requests cannot be set up. -/
  | tooManyPermits
  deriving DecidableEq

/-- A server and what it has done so far. -/
structure Server where
  /-- The settings it was started with. -/
  settings : Settings
  /-- The landing pages of the moment. -/
  sites : SiteMap
  /-- The redirects so far. -/
  tally : Tally
  /-- Whether it has been stopped. -/
  stopped : Bool

/-- What new settings did. -/
structure UpdateReport where
  /-- Why the landing pages were kept; nothing if they were exchanged. -/
  rejection : Option SettingsError
  /-- The sections that differ from the settings the server was started with. -/
  restartRequired : List Section
  deriving DecidableEq

namespace Server

/-- The most places for requests that can be set up. -/
def maxPermits : Nat := 0x1FFFFFFFFFFFFFFF

/-- A server with the given settings. -/
def start? (settings : Settings) : Except StartFault Server :=
  match settings.siteMap? with
  | .error error => .error (.settings error)
  | .ok sites =>
    if maxPermits < settings.listener.maxConcurrentRequests then .error .tooManyPermits
    else .ok ⟨settings, sites, {}, false⟩

/-- Answers a request and counts it if it was redirected.  `freshId` is the id for a request that
has none. -/
def handle (server : Server) (freshId : String) (r : Request) : Option Answer × Server :=
  let answer := Answer.toRequest? server.settings server.sites freshId r
  match answer.bind (·.resolution) with
  | some resolution => (answer, { server with tally := server.tally.record (.of resolution) })
  | none => (answer, server)

/-- Takes the landing pages of new settings, if they give a site map. -/
def update (server : Server) (next : Settings) : UpdateReport × Server :=
  let sections := server.settings.restartRequired next
  match next.siteMap? with
  | .ok sites => (⟨none, sections⟩, { server with sites })
  | .error error => (⟨some error, sections⟩, server)

/-! ## Runs -/

/-- Something that is done to a server. -/
inductive Action where
  /-- A request, with the id it gets if it has none. -/
  | request (freshId : String) (r : Request)
  /-- New settings. -/
  | update (next : Settings)
  /-- The end. -/
  | stop

/-- What comes of an action. -/
inductive Outcome where
  | answered (answer : Answer)
  | unanswered
  | updated (report : UpdateReport)
  /-- New settings came after the end. -/
  | ignored
  | stopped
  | alreadyStopped
  deriving DecidableEq

/-- One action and its outcome. -/
def step (server : Server) : Action → Outcome × Server
  | .request freshId r =>
    match server.handle freshId r with
    | (some answer, server) => (.answered answer, server)
    | (none, server) => (.unanswered, server)
  | .update next =>
    if server.stopped then (.ignored, server)
    else
      let (report, server) := server.update next
      (.updated report, server)
  | .stop =>
    if server.stopped then (.alreadyStopped, server)
    else (.stopped, { server with stopped := true })

/-- A sequence of actions and their outcomes. -/
def run (server : Server) : List Action → List Outcome × Server
  | [] => ([], server)
  | action :: actions =>
    let (outcome, server) := server.step action
    let (outcomes, server) := server.run actions
    (outcome :: outcomes, server)

end Server

end Signpost
