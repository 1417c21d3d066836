import Signpost.Negotiation.Preference
import Signpost.SiteMap

/-!
# Choosing the landing page

The preferences of a visitor are tried from the strongest on.  The first whose code has a page
decides; if none has, or there is no header, the page of the fallback language is shown.
-/

namespace Signpost.Negotiation

/-- The landing page chosen for a visitor. -/
structure Resolution where
  /-- The code of the chosen language. -/
  language : String
  /-- The page of that language. -/
  location : String
  /-- Whether no preference could be met. -/
  fallback : Bool
  deriving DecidableEq, Repr

/-- The code and the page of the first preference that the site map can meet. -/
def firstMatch? (sites : SiteMap) (preferences : List Preference) : Option (String × String) :=
  preferences.findSome? fun p => (sites.get? p.code).map (p.code, ·)

/-- The preferences of a visitor, strongest first; none if there is no language header. -/
def preferences (policy : Policy) (header : Option String) : List Preference :=
  (header.map (Preference.ofHeader policy)).getD []

/-- The landing page for a visitor with the given language header, if any. -/
def resolve (policy : Policy) (header : Option String) (sites : SiteMap) : Resolution :=
  match firstMatch? sites (preferences policy header) with
  | some (language, location) => ⟨language, location, false⟩
  | none => ⟨fallbackLanguage, sites.fallback, true⟩

/-- The landing page under the policy that holds where none is chosen. -/
def resolveDefault (header : Option String) (sites : SiteMap) : Resolution :=
  resolve .default header sites

/-- The address alone of the landing page under that policy. -/
def resolveLocation (header : Option String) (sites : SiteMap) : String :=
  match firstMatch? sites (preferences .default header) with
  | some (_, location) => location
  | none => sites.fallback

end Signpost.Negotiation
