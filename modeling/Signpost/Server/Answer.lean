import Signpost.Http.Request
import Signpost.Http.Response
import Signpost.Negotiation.Resolution
import Signpost.Settings
import Signpost.Text.Quoted

/-!
# Answering a request

What the service answers to one request, given its settings and the landing pages of the moment.

There are two routes: the path `/health` reports on the service, and every other path redirects to a
landing page.  Around the routes lie the layers, each of which may answer in their place.  From the
outside in:

* a service that may handle no request at a time never answers;
* every answer carries the id of its request, or a fresh one if the request has none;
* a body that is announced as too large is refused;
* a time limit of zero has passed before any route is reached;
* the security fields, if they are wanted, are added to what the routes answer.

At the very end an answer gets the length of its body, and the body is left out where the request
asks for the header alone.
-/

namespace Signpost

open Http Negotiation Text

/-- An answer, with the landing page that was chosen if the request was redirected. -/
structure Answer where
  /-- The response. -/
  response : Response
  /-- The landing page; nothing if the request did not reach the redirecting route. -/
  resolution : Option Resolution
  deriving DecidableEq

namespace Answer

/-! ## Routes -/

/-- The path that reports on the service. -/
def healthPath : String := "/health"

/-- The version that is reported. -/
def version : String := "0.1.0"

/-- Whether a method reads the health report. -/
def isReading (method : String) : Bool :=
  method = "GET" || method = "HEAD"

/-- The health report: the languages that have a landing page, in JSON. -/
def healthReport (sites : SiteMap) : String :=
  "\x7b\"languages\":[" ++ ",".intercalate (sites.languages.map quoteJson)
    ++ "],\"status\":\"ok\",\"version\":" ++ quoteJson version ++ "\x7d"

/-- The answer of the health route. -/
def health (sites : SiteMap) (r : Request) : Answer :=
  if isReading r.method then
    ⟨⟨200, [.ofText "content-type" "application/json"], healthReport sites⟩, none⟩
  else ⟨.empty 405, none⟩

/-- The landing page for a request. -/
def resolveRequest (policy : Policy) (sites : SiteMap) (r : Request) : Resolution :=
  resolve policy (Fields.acceptLanguage? r.fields) sites

/-- The answer of the redirecting route. -/
def redirect (policy : Policy) (sites : SiteMap) (r : Request) : Answer :=
  let resolution := resolveRequest policy sites r
  ⟨.redirect resolution.location, some resolution⟩

/-- The answer of the route that the path of a request leads to. -/
def route (policy : Policy) (sites : SiteMap) (r : Request) : Answer :=
  if r.path = healthPath then health sites r else redirect policy sites r

/-! ## Layers -/

/-- Changes the response of an answer. -/
def mapResponse (f : Response → Response) (a : Answer) : Answer :=
  { a with response := f a.response }

/-- The answer to a request whose body is too large. -/
def tooLarge : Answer :=
  ⟨⟨413, [Response.plainText], "length limit exceeded"⟩, none⟩

/-- The answer to a request whose time is over. -/
def timedOut : Answer :=
  ⟨.empty 408, none⟩

/-- The answer within the limits on size and time. -/
def limited (settings : Settings) (sites : SiteMap) (r : Request) : Answer :=
  if r.announcedSize?.any (settings.security.maxBodySize < ·) then tooLarge
  else if settings.timeouts.requestSecs = 0 then timedOut
  else
    let answer := route settings.negotiation.invalidWeight sites r
    if settings.security.enableHeaders then answer.mapResponse Response.secure else answer

/-- A response with the id of its request, or the fresh one. -/
def identified (freshId : String) (r : Request) (response : Response) : Response :=
  let id := (Fields.first? requestIdName r.fields).getD (Utf8.encode freshId.toList)
  response.withDefault ⟨requestIdName, id⟩

/-- A response as it leaves the service: it names the methods of the health route where another one
was tried, has the length of its body, and no body where only the header was asked for. -/
def finished (r : Request) (response : Response) : Response :=
  let allowed := if r.path = healthPath && !isReading r.method
    then response.withDefault (.ofText "allow" "GET,HEAD") else response
  let measured := allowed.measured
  if r.method = "HEAD" then { measured with body := "" } else measured

/-- The answer to a request; nothing if the request is never answered. -/
def toRequest? (settings : Settings) (sites : SiteMap) (freshId : String) (r : Request) :
    Option Answer :=
  if settings.listener.maxConcurrentRequests = 0 then none
  else some ((limited settings sites r).mapResponse fun response =>
    finished r (identified freshId r response))

end Answer

end Signpost
