import Signpost.Negotiation.Token
import Signpost.SiteMap

/-!
# Settings

Everything that can be configured, in sections, each with its default values.  Only the landing
pages can be exchanged while the service runs; a change in any other section takes effect after a
restart, and `Settings.restartRequired` names the sections concerned.
-/

namespace Signpost

/-- Where requests are accepted, and how many at once. -/
structure ListenerSettings where
  /-- The address to listen on. -/
  bindAddress : String := "0.0.0.0:8080"
  /-- The most requests handled at the same time. -/
  maxConcurrentRequests : Nat := 10000
  deriving DecidableEq, Repr

/-- How language headers are read. -/
structure NegotiationSettings where
  /-- What becomes of a tag with a malformed factor. -/
  invalidWeight : Negotiation.Policy := .default
  deriving DecidableEq, Repr

/-- Time limits. -/
structure TimeoutSettings where
  /-- The time for one request, in seconds. -/
  requestSecs : Nat := 30
  deriving DecidableEq, Repr

/-- Logging and metrics. -/
structure ObservabilitySettings where
  /-- The name of the log level. -/
  logLevel : String := "info"
  /-- Whether metrics are offered. -/
  metricsEnabled : Bool := true
  /-- The address where metrics are offered. -/
  metricsAddress : String := "0.0.0.0:9090"
  deriving DecidableEq, Repr

/-- Precautions. -/
structure SecuritySettings where
  /-- Whether responses carry the security fields. -/
  enableHeaders : Bool := true
  /-- The largest announced size of a request body, in bytes. -/
  maxBodySize : Nat := 65536
  deriving DecidableEq, Repr

/-- Reloading of the settings file. -/
structure ReloadSettings where
  /-- Whether the file is watched. -/
  enabled : Bool := true
  /-- The time between two looks at the file, in seconds. -/
  pollIntervalSecs : Nat := 2
  deriving DecidableEq, Repr

/-- The settings of the service. -/
structure Settings where
  /-- Where requests are accepted. -/
  listener : ListenerSettings := {}
  /-- The landing pages by language code. -/
  sites : PageTable := .empty
  /-- How language headers are read. -/
  negotiation : NegotiationSettings := {}
  /-- Time limits. -/
  timeouts : TimeoutSettings := {}
  /-- Logging and metrics. -/
  observability : ObservabilitySettings := {}
  /-- Precautions. -/
  security : SecuritySettings := {}
  /-- Reloading of the settings file. -/
  reload : ReloadSettings := {}
  deriving DecidableEq

/-- The sections whose changes need a restart. -/
inductive Section where
  | listener
  | negotiation
  | timeouts
  | observability
  | security
  | reload
  deriving DecidableEq, Repr

namespace Section

/-- The name of a section in the settings file. -/
def name : Section → String
  | listener => "listener"
  | negotiation => "negotiation"
  | timeouts => "timeouts"
  | observability => "observability"
  | security => "security"
  | reload => "reload"

/-- The sections, in the order in which changes are reported. -/
def all : List Section := [listener, negotiation, timeouts, observability, security, reload]

/-- Whether two settings differ in the section. -/
def differs (a b : Settings) : Section → Bool
  | listener => a.listener ≠ b.listener
  | negotiation => a.negotiation ≠ b.negotiation
  | timeouts => a.timeouts ≠ b.timeouts
  | observability => a.observability ≠ b.observability
  | security => a.security ≠ b.security
  | reload => a.reload ≠ b.reload

end Section

/-- The sections in which new settings differ from the running ones. -/
def Settings.restartRequired (running next : Settings) : List Section :=
  Section.all.filter (Section.differs running next)

end Signpost
