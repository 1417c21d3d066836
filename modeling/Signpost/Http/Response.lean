import Signpost.Http.Field
import Signpost.Text.Digits

/-!
# Responses

The responses of the service, and what is added to them on the way out.

* `Response.redirect` sends a visitor to a landing page.
* `Response.secure` adds each security field that a response does not have yet.
* `Response.measured` adds the length of the body.
-/

namespace Signpost.Http

open Signpost.Text

/-- A response. -/
structure Response where
  /-- The status code. -/
  status : Nat
  /-- The header fields. -/
  fields : List Field
  /-- The body. -/
  body : String
  deriving DecidableEq, Repr

namespace Response

/-- A response without fields and body. -/
def empty (status : Nat) : Response :=
  ⟨status, [], ""⟩

/-- A redirect to a location that caches keep apart by language; an internal error for a location
that no field can carry. -/
def redirect (location : String) : Response :=
  if isFieldText location then
    ⟨302, [.ofText "location" location, .ofText "vary" "accept-language"], ""⟩
  else empty 500

/-- A response with one field more, unless it has a field of that name. -/
def withDefault (r : Response) (field : Field) : Response :=
  { r with fields := Fields.addIfAbsent field r.fields }

/-- The fields that keep browsers from guessing types, framing pages and telling where a visitor
came from. -/
def securityFields : List Field :=
  [.ofText "x-content-type-options" "nosniff", .ofText "x-frame-options" "DENY",
   .ofText "referrer-policy" "no-referrer"]

/-- A response with the security fields that it does not have yet. -/
def secure (r : Response) : Response :=
  securityFields.foldl withDefault r

/-- A response with the length of its body, unless a length is given already. -/
def measured (r : Response) : Response :=
  r.withDefault (.ofText "content-length" (digits 10 1 r.body.utf8ByteSize))

/-- The text type. -/
def plainText : Field := .ofText "content-type" "text/plain; charset=utf-8"

end Response

end Signpost.Http
