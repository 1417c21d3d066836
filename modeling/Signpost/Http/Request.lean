import Signpost.Http.Field
import Signpost.Http.Target
import Signpost.Text.Digits

/-!
# Requests

A request has a method, a path, header fields and a body.  Methods are tokens, and so compared with
regard to case.

* `Fields.acceptLanguage?` joins all language headers of a request into one.
* `Fields.requestId` is the name under which a request appears in the log.
* `Request.addId` gives an id to a request that has none.
* `Request.announcedSize?` is the size of the body as the sender announces it.
-/

namespace Signpost.Http

open Signpost.Text

/-- A request as the service sees it. -/
structure Request where
  /-- The method. -/
  method : String
  /-- The path of the target; empty if the target has none. -/
  path : String
  /-- The header fields. -/
  fields : List Field
  /-- The body. -/
  body : List UInt8
  deriving DecidableEq, Repr

/-- The name of the field that carries the id of a request. -/
def requestIdName : String := "x-request-id"

/-- A field value as a text, if it holds visible ASCII characters, spaces and tabs only. -/
def visibleText? (value : List UInt8) : Option String :=
  if value.all fun b => (0x20 ≤ b && b ≤ 0x7E) || b = 9
  then some (String.ofList (Utf8.decodeLossy value)) else none

namespace Fields

/-- All language headers, joined by commas; bytes that are no UTF-8 become replacement characters.
Nothing if there are none. -/
def acceptLanguage? (fields : List Field) : Option String :=
  match values "accept-language" fields with
  | [] => none
  | vs => some (", ".intercalate (vs.map fun v => String.ofList (Utf8.decodeLossy v)))

/-- The id of a request in the log. -/
def requestId (fields : List Field) : String :=
  ((first? requestIdName fields).bind visibleText?).getD "unknown"

end Fields

/-- The number below 2 ^ 64 that a text writes in decimal.  A plus sign may come first. -/
def size? (s : String) : Option Nat :=
  let ds := match s.toList with
    | '+' :: ds => ds
    | ds => ds
  if ds ≠ [] ∧ ds.all Char.isDigit ∧ numeral 10 ds < 0x10000000000000000 then some (numeral 10 ds)
  else none

namespace Request

/-- A request to a target, if the method and the target are well formed. -/
def make? (method target : String) (fields : List Field) (body : List UInt8) : Option Request :=
  if isToken method then (Target.path? target).map (⟨method, ·, fields, body⟩) else none

/-- A request with the fresh id, unless it has one. -/
def addId (r : Request) (freshId : String) : Request :=
  { r with fields := Fields.addIfAbsent (.ofText requestIdName freshId) r.fields }

/-- The size of the body as the sender announces it; nothing if the announcement is no number. -/
def announcedSize? (r : Request) : Option Nat :=
  ((Fields.first? "content-length" r.fields).bind visibleText?).bind size?

end Request

end Signpost.Http
