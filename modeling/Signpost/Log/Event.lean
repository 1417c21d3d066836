import Signpost.Log.Filter
import Signpost.Negotiation.Resolution
import Signpost.Settings
import Signpost.Text.Quoted

/-!
# Log events

Everything the service tells about itself while it runs.  An event has a level, a target, which is
the part of the service it comes from, a message, and fields with the details.

`Event.text` is the written form: the target, the message, and the fields in order.  Some fields are
written as they are, others as quoted and escaped text.
-/

namespace Signpost.Log

open Signpost.Text
open Negotiation (Resolution)

/-- The ways to ask the service to stop. -/
inductive Signal where
  | terminate
  | interrupt
  deriving DecidableEq, Repr

/-- The parts of the service that events come from. -/
inductive Source where
  | startup
  | signals
  | watcher
  | server
  | response
  | acceptLanguage
  | metrics
  deriving DecidableEq, Repr

/-- The target of the events of a part. -/
def Source.target : Source → String
  | startup => "lang_redirect::lifecycle::startup"
  | signals => "lang_redirect::lifecycle::signals"
  | watcher => "lang_redirect::config::watcher"
  | server => "lang_redirect::http::server"
  | response => "lang_redirect::http::response"
  | acceptLanguage => "lang_redirect::negotiation::accept_language"
  | metrics => "lang_redirect::observability::metrics"

/-- Something the service tells. -/
inductive Event where
  | configurationLoaded (path bindAddress : String) (languages : List String) (requestSecs : Nat)
  | metricsListening (address : String)
  | watcherStarted (path : String)
  | serverStarting (address : String) (languages : Nat)
  | changeDetected (path : String)
  | reloadFailed (message : String)
  | siteMapReloaded (languages : List String)
  | updateRejected (message : String)
  | restartRequired (changed : Section)
  | droppedFactor (tag factor : String)
  | redirecting (requestId : String) (acceptLanguage : Option String) (resolution : Resolution)
  | badLocation (location : String)
  | signalReceived (signal : Signal)
  | shutdownReceived
  | serverStopped
  | shutdownComplete
  deriving DecidableEq

namespace Event

/-- The part of the service that an event comes from. -/
def source : Event → Source
  | configurationLoaded .. | shutdownComplete => .startup
  | metricsListening .. => .metrics
  | watcherStarted .. | changeDetected .. | reloadFailed .. => .watcher
  | serverStarting .. | siteMapReloaded .. | updateRejected .. | restartRequired ..
  | redirecting .. | shutdownReceived | serverStopped => .server
  | droppedFactor .. => .acceptLanguage
  | badLocation .. => .response
  | signalReceived .. => .signals

/-- The level of an event. -/
def level : Event → Level
  | reloadFailed .. | updateRejected .. | badLocation .. => .error
  | restartRequired .. => .warn
  | redirecting .. => .debug
  | droppedFactor .. => .trace
  | _ => .info

/-- The message of an event. -/
def message : Event → String
  | configurationLoaded .. => "Configuration loaded"
  | metricsListening .. => "Metrics exporter listening"
  | watcherStarted .. => "Config watcher started"
  | serverStarting .. => "HTTP server starting"
  | changeDetected .. => "Config file change detected, reloading"
  | reloadFailed .. => "Failed to reload config. Keeping current configuration."
  | siteMapReloaded .. => "Site map reloaded"
  | updateRejected .. => "Rejected site map update"
  | restartRequired .. => "Settings changed; restart required to apply them"
  | droppedFactor .. => "Dropping tag with invalid q-factor"
  | redirecting .. => "Redirecting"
  | badLocation .. => "Redirect target is not a valid header value"
  | signalReceived .terminate => "Received SIGTERM"
  | signalReceived .interrupt => "Received Ctrl+C"
  | shutdownReceived => "Shutdown signal received"
  | serverStopped => "HTTP server stopped"
  | shutdownComplete => "Shutdown complete"

/-- A text that may be missing, in escaped form. -/
def optionEscaped : Option String → String
  | some s => "Some(" ++ quoteEscaped s ++ ")"
  | none => "None"

/-- The details of an event: names and written values. -/
def details : Event → List (String × String)
  | configurationLoaded path bindAddress languages requestSecs =>
    [("path", quoteEscaped path), ("bind_address", bindAddress),
     ("languages", listEscaped languages), ("request_timeout_secs", digits 10 1 requestSecs)]
  | metricsListening address => [("address", address)]
  | watcherStarted path | changeDetected path => [("path", quoteEscaped path)]
  | serverStarting address languages =>
    [("address", address), ("languages", digits 10 1 languages)]
  | reloadFailed message | updateRejected message => [("error", message)]
  | siteMapReloaded languages => [("languages", listEscaped languages)]
  | restartRequired changed => [("section", quoteEscaped changed.name)]
  | droppedFactor tag factor => [("tag", quoteEscaped tag), ("factor", quoteEscaped factor)]
  | redirecting requestId acceptLanguage resolution =>
    [("request_id", requestId), ("accept_language", optionEscaped acceptLanguage),
     ("language", resolution.language),
     ("fallback", if resolution.fallback then "true" else "false"),
     ("location", resolution.location)]
  | badLocation location => [("location", location)]
  | signalReceived _ | shutdownReceived | serverStopped | shutdownComplete => []

/-- The written form of an event. -/
def text (e : Event) : String :=
  e.source.target ++ ": " ++ e.message
    ++ String.join (e.details.map fun d => " " ++ d.1 ++ "=" ++ d.2)

end Event

/-- The events that a filter lets through. -/
def Filter.written (filter : Filter) (events : List Event) : List Event :=
  events.filter fun e => filter.lets e.source.target e.level

end Signpost.Log
