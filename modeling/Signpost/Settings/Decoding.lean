import Signpost.Settings
import Signpost.Toml.Value

/-!
# Settings from a document

A document overlays the default settings field by field.  Every section and every field may be
missing, keys that mean nothing are passed over, and a field of the wrong type makes the whole
document unusable.

* A section is a table.  It may also be an array, whose items are then its fields in the order of
  their declaration.
* A date or time in the place of a table counts as a table with a single key of its own.
* Numbers are natural numbers.
* The policy for malformed factors is a name, or a table whose only key is the name, with an empty
  table or array as its value.
-/

namespace Signpost

open Toml (Value)

namespace Settings

/-! ## Fields -/

/-- The key under which a date or time appears where a table is wanted. -/
def datetimeKey : String := "$__toml_private_datetime"

/-- A value as a section with the given fields: each field that is present, under its key. -/
def entriesOf? (fields : List String) : Value → Option (List (String × Value))
  | .table entries => some entries
  | .array items => some (fields.zip items)
  | .datetime text => some [(datetimeKey, .string text)]
  | _ => none

/-- The entry of a key, read by the given reader; the default if there is none. -/
def entryOr {α : Type} (entries : List (String × Value)) (key : String) (read : Value → Option α)
    (default : α) : Option α :=
  match entries.lookup key with
  | some v => read v
  | none => some default

/-- A text. -/
def text? : Value → Option String
  | .string text => some text
  | _ => none

/-- A natural number. -/
def nat? : Value → Option Nat
  | .integer value => if 0 ≤ value then some value.toNat else none
  | _ => none

/-- A truth value. -/
def bool? : Value → Option Bool
  | .boolean value => some value
  | _ => none

/-- The policy of a name. -/
def policyOfName? : String → Option Negotiation.Policy
  | "ignore" => some .ignore
  | "drop" => some .drop
  | _ => none

/-- A policy for malformed factors. -/
def policy? : Value → Option Negotiation.Policy
  | .string name => policyOfName? name
  | .table [(name, .table [])] => policyOfName? name
  | .table [(name, .array [])] => policyOfName? name
  | _ => none

/-! ## Sections -/

/-- The section of the listener. -/
def listener? (v : Value) : Option ListenerSettings := do
  let entries ← entriesOf? ["bind_address", "max_concurrent_requests"] v
  let default : ListenerSettings := {}
  return {
    bindAddress := ← entryOr entries "bind_address" text? default.bindAddress
    maxConcurrentRequests :=
      ← entryOr entries "max_concurrent_requests" nat? default.maxConcurrentRequests }

/-- The section of negotiation. -/
def negotiation? (v : Value) : Option NegotiationSettings := do
  let entries ← entriesOf? ["invalid_weight"] v
  let default : NegotiationSettings := {}
  return { invalidWeight := ← entryOr entries "invalid_weight" policy? default.invalidWeight }

/-- The section of time limits. -/
def timeouts? (v : Value) : Option TimeoutSettings := do
  let entries ← entriesOf? ["request_secs"] v
  let default : TimeoutSettings := {}
  return { requestSecs := ← entryOr entries "request_secs" nat? default.requestSecs }

/-- The section of logging and metrics. -/
def observability? (v : Value) : Option ObservabilitySettings := do
  let entries ← entriesOf? ["log_level", "metrics_enabled", "metrics_address"] v
  let default : ObservabilitySettings := {}
  return {
    logLevel := ← entryOr entries "log_level" text? default.logLevel
    metricsEnabled := ← entryOr entries "metrics_enabled" bool? default.metricsEnabled
    metricsAddress := ← entryOr entries "metrics_address" text? default.metricsAddress }

/-- The section of precautions. -/
def security? (v : Value) : Option SecuritySettings := do
  let entries ← entriesOf? ["enable_headers", "max_body_size"] v
  let default : SecuritySettings := {}
  return {
    enableHeaders := ← entryOr entries "enable_headers" bool? default.enableHeaders
    maxBodySize := ← entryOr entries "max_body_size" nat? default.maxBodySize }

/-- The section of reloading. -/
def reload? (v : Value) : Option ReloadSettings := do
  let entries ← entriesOf? ["enabled", "poll_interval_secs"] v
  let default : ReloadSettings := {}
  return {
    enabled := ← entryOr entries "enabled" bool? default.enabled
    pollIntervalSecs := ← entryOr entries "poll_interval_secs" nat? default.pollIntervalSecs }

/-- The landing pages.  Their codes are keys of their own, so an array cannot give them. -/
def sites? : Value → Option PageTable
  | .table entries => (entries.mapM fun e => (text? e.2).map (e.1, ·)).map PageTable.ofList
  | .datetime text => some (PageTable.ofList [(datetimeKey, text)])
  | _ => none

/-- The settings that a document gives. -/
def ofDocument? (document : List (String × Value)) : Option Settings := do
  return {
    listener := ← entryOr document "listener" listener? {}
    sites := ← entryOr document "sites" sites? .empty
    negotiation := ← entryOr document "negotiation" negotiation? {}
    timeouts := ← entryOr document "timeouts" timeouts? {}
    observability := ← entryOr document "observability" observability? {}
    security := ← entryOr document "security" security? {}
    reload := ← entryOr document "reload" reload? {} }

end Settings

end Signpost
