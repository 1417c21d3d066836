import Signpost.Http.Field
import Signpost.Log.Level
import Signpost.Net.Url
import Signpost.Settings
import Signpost.Text.LowerCase
import Signpost.Text.Quoted

/-!
# Checking settings

Settings that can be read may still make no sense.  `Settings.problems` lists everything that is
wrong with them: first the single values in a fixed order, then the landing pages by ascending code,
each with its code before its address.  Settings are *valid* if there is nothing to list.
-/

namespace Signpost

open Signpost.Text

/-- The single values that are checked. -/
inductive CheckedValue where
  | bindAddress
  | maxConcurrentRequests
  | requestSecs
  | maxBodySize
  | pollIntervalSecs
  | metricsAddress
  deriving DecidableEq, Repr

/-- Where a value stands in the settings file: section and key. -/
def CheckedValue.path : CheckedValue → String
  | bindAddress => "listener.bind_address"
  | maxConcurrentRequests => "listener.max_concurrent_requests"
  | requestSecs => "timeouts.request_secs"
  | maxBodySize => "security.max_body_size"
  | pollIntervalSecs => "reload.poll_interval_secs"
  | metricsAddress => "observability.metrics_address"

/-- Why a landing page cannot be redirected to. -/
inductive LocationFault where
  /-- It holds nothing but blanks. -/
  | blank
  /-- It holds a control character, which no header field can carry. -/
  | notFieldText
  /-- It is no good address. -/
  | badUrl (fault : Net.Url.Fault)
  deriving DecidableEq, Repr

/-- The wording of a fault. -/
def LocationFault.message : LocationFault → String
  | blank => "empty"
  | notFieldText => "not a valid header value"
  | badUrl fault => fault.message

/-- The first fault of a landing page. -/
def locationFault? (location : String) : Option LocationFault :=
  if trim location.toList = [] then some .blank
  else if !Http.isFieldText location then some .notFieldText
  else (Net.Url.fault? location.toList).map .badUrl

/-- Whether a text is a language code: two small ASCII letters. -/
def isLanguageCode (code : String) : Bool :=
  code.toList.length = 2 && code.toList.all Char.isLower

/-- Something that is wrong with settings. -/
inductive Problem where
  | invalidAddress (checked : CheckedValue) (text : String)
  | zero (checked : CheckedValue)
  | unknownLogLevel (text : String)
  | missingFallback
  | invalidLanguageCode (code : String)
  | invalidUrl (code url : String) (fault : LocationFault)
  deriving DecidableEq, Repr

/-- The wording of a problem. -/
def Problem.message : Problem → String
  | invalidAddress checked text =>
    "invalid " ++ checked.path ++ " " ++ quote text ++ ": not a socket address"
  | zero checked => checked.path ++ " must be greater than zero"
  | unknownLogLevel text => "unknown log level " ++ quote text
  | missingFallback => "sites has no entry for fallback language " ++ quote fallbackLanguage
  | invalidLanguageCode code =>
    "site key " ++ quote code ++ " is not a two-letter lowercase language code"
  | invalidUrl code url fault =>
    "site " ++ quote code ++ " has an invalid URL " ++ quote url ++ ": " ++ fault.message

namespace Settings

/-- A list of one problem, if the condition for it holds. -/
def problemIf (condition : Bool) (problem : Problem) : List Problem :=
  if condition then [problem] else []

/-- Whether a text is no socket address. -/
def isBadAddress (s : String) : Bool :=
  (Net.SocketAddress.ofString? s).isNone

/-- The problems of one landing page. -/
def pageProblems (page : String × String) : List Problem :=
  problemIf (!isLanguageCode page.1) (.invalidLanguageCode page.1)
    ++ match locationFault? page.2 with
      | some fault => [.invalidUrl page.1 page.2 fault]
      | none => []

/-- Everything that is wrong with the settings. -/
def problems (s : Settings) : List Problem :=
  problemIf (isBadAddress s.listener.bindAddress)
      (.invalidAddress .bindAddress s.listener.bindAddress)
    ++ problemIf (s.listener.maxConcurrentRequests = 0) (.zero .maxConcurrentRequests)
    ++ problemIf (s.timeouts.requestSecs = 0) (.zero .requestSecs)
    ++ problemIf (s.security.maxBodySize = 0) (.zero .maxBodySize)
    ++ problemIf (s.reload.enabled && s.reload.pollIntervalSecs = 0) (.zero .pollIntervalSecs)
    ++ problemIf (Log.Level.ofName? (toLowerCase s.observability.logLevel)).isNone
      (.unknownLogLevel s.observability.logLevel)
    ++ problemIf (s.observability.metricsEnabled && isBadAddress s.observability.metricsAddress)
      (.invalidAddress .metricsAddress s.observability.metricsAddress)
    ++ problemIf (s.sites.get? fallbackLanguage).isNone .missingFallback
    ++ s.sites.pages.flatMap pageProblems

end Settings

end Signpost
