import Mathlib.Tactic.Common
import Signpost.Negotiation.Resolution
import Signpost.Proofs.Negotiation.Ranking
import Signpost.Proofs.SiteMap

/-!
# Which landing page is chosen

The choice is described without ranking and searching.  `stated` is the list of preferences that the
tokens of a header state, in the order of the header.  Among the tags of this list, each with its
last weight, those count whose code has a page (`Supported`).  The best of them (`IsBest`) precedes
all the others: it has the greatest weight, and of those with the greatest weight it is named first.

**`resolve_best`** says that the page of the best preference is chosen, and that without a supported
preference it is the page of the fallback language.
-/

namespace Signpost.Negotiation

/-- The preferences that the tokens of a header state, in their order; the policy may discard some of
them, and without a header there are none. -/
def stated (policy : Policy) (header : Option String) : List Preference :=
  match header with
  | none => []
  | some text => (tokens policy text.toList).filterMap (·.preference? policy)

/-- A tag with the weight that the list gives it last, if its code has a page. -/
def Supported (sites : SiteMap) (ps : List Preference) (p : Preference) : Prop :=
  lastWeight? ps p.tag = some p.weight ∧ (sites.get? p.code).isSome

/-- The supported preference that precedes all other supported ones. -/
def IsBest (sites : SiteMap) (ps : List Preference) (p : Preference) : Prop :=
  Supported sites ps p ∧ ∀ q, Supported sites ps q → q ≠ p → Precedes ps p q

/-- There is no more than one best preference. -/
lemma IsBest.unique {sites : SiteMap} {ps : List Preference} {p q : Preference}
    (hp : IsBest sites ps p) (hq : IsBest sites ps q) : q = p := by
  by_contra hne
  exact (hp.2 q hq.1 hne).asymm (hq.2 p hp.1 (Ne.symm hne))

/-- The preferences of a visitor are the stated ones, ranked. -/
lemma preferences_eq_ordered (policy : Policy) (header : Option String) :
    preferences policy header = (Ranking.ofList (stated policy header)).ordered := by
  cases header with
  | none => simp [preferences, stated, Ranking.ofList, Ranking.empty, Ranking.ordered]
  | some text => rfl

/-- No page is found among the ranked preferences exactly if none of them is supported. -/
lemma firstMatch?_eq_none_iff {sites : SiteMap} {ps : List Preference} :
    firstMatch? sites (Ranking.ofList ps).ordered = none ↔ ∀ p, ¬ Supported sites ps p := by
  simp only [firstMatch?, List.findSome?_eq_none_iff, Option.map_eq_none_iff, Ranking.mem_ordered,
    Supported, not_and, Option.not_isSome_iff_eq_none]

/-- The page that is found among the ranked preferences is the page of the best one. -/
lemma isBest_of_firstMatch? {sites : SiteMap} {ps : List Preference} {code url : String}
    (h : firstMatch? sites (Ranking.ofList ps).ordered = some (code, url)) :
    ∃ p, IsBest sites ps p ∧ p.code = code ∧ sites.get? code = some url := by
  rw [firstMatch?, List.findSome?_eq_some_iff] at h
  obtain ⟨before, p, after, hsplit, hpage, hbefore⟩ := h
  obtain ⟨url', hurl, heq⟩ := Option.map_eq_some_iff.1 hpage
  cases heq
  have hmem : p ∈ (Ranking.ofList ps).ordered := by simp [hsplit]
  refine ⟨p, ⟨⟨Ranking.mem_ordered.1 hmem, by simp [hurl]⟩, fun q hq hne => ?_⟩, rfl, hurl⟩
  -- a supported preference other than `p` stands behind `p`, for those in front have no page
  have hqmem : q ∈ before ++ p :: after := hsplit ▸ Ranking.mem_ordered.2 hq.1
  have hqafter : q ∈ after := by
    rcases List.mem_append.1 hqmem with hq' | hq'
    · have hnone := hbefore q hq'
      rw [Option.map_eq_none_iff] at hnone
      simp [Supported, hnone] at hq
    · exact (List.mem_cons.1 hq').resolve_left hne
  have hordered := Ranking.pairwise_ordered ps
  rw [hsplit, List.pairwise_append, List.pairwise_cons] at hordered
  exact hordered.2.1.1 q hqafter

/-- Whatever the header says, the visitor is sent to the page that the site map has for the chosen
language. -/
lemma get?_resolve (policy : Policy) (header : Option String) (sites : SiteMap) :
    sites.get? (resolve policy header sites).language =
      some (resolve policy header sites).location := by
  unfold resolve
  split
  · next code url hmatch =>
    rw [preferences_eq_ordered] at hmatch
    obtain ⟨-, -, -, hurl⟩ := isBest_of_firstMatch? hmatch
    exact hurl
  · exact sites.get?_fallbackLanguage

/-- So it is a page of the site map. -/
lemma hasLocation_resolve (policy : Policy) (header : Option String) (sites : SiteMap) :
    sites.hasLocation (resolve policy header sites).location = true :=
  SiteMap.hasLocation_iff.2 ⟨_, get?_resolve policy header sites⟩

/-- Without a supported preference the page is that of the fallback language. -/
lemma resolve_of_forall_not_supported {policy : Policy} {header : Option String} {sites : SiteMap}
    (h : ∀ p, ¬ Supported sites (stated policy header) p) :
    resolve policy header sites = ⟨fallbackLanguage, sites.fallback, true⟩ := by
  rw [resolve, preferences_eq_ordered, firstMatch?_eq_none_iff.2 h]

/-- With a supported preference there is a best one, and the page is that of its code. -/
lemma resolve_of_supported {policy : Policy} {header : Option String} {sites : SiteMap}
    {p : Preference} (h : Supported sites (stated policy header) p) :
    ∃ best url, IsBest sites (stated policy header) best ∧ sites.get? best.code = some url ∧
      resolve policy header sites = ⟨best.code, url, false⟩ := by
  rw [resolve, preferences_eq_ordered]
  cases hmatch : firstMatch? sites (Ranking.ofList (stated policy header)).ordered with
  | none => exact absurd h (firstMatch?_eq_none_iff.1 hmatch p)
  | some found =>
      obtain ⟨code, url⟩ := found
      obtain ⟨best, hbest, rfl, hurl⟩ := isBest_of_firstMatch? hmatch
      exact ⟨best, url, hbest, hurl, rfl⟩

/-- The address that is looked up alone is that of the landing page. -/
lemma resolveLocation_eq (header : Option String) (sites : SiteMap) :
    resolveLocation header sites = (resolveDefault header sites).location := by
  unfold resolveLocation resolveDefault resolve
  cases firstMatch? sites (preferences .default header) <;> rfl

/-- **The right page is chosen.**  Without a supported preference it is the page of the fallback
language, otherwise that of the only best one.  It is always a page of the site map, and it is marked
as a fallback exactly if no preference is supported.  Where no policy is given, malformed factors are
ignored, and the address alone is that of the landing page. -/
theorem resolve_best (policy : Policy) (header : Option String) (sites : SiteMap) :
    ((∀ p, ¬ Supported sites (stated policy header) p) →
      ∃ url, sites.get? "en" = some url ∧ resolve policy header sites = ⟨"en", url, true⟩) ∧
    ((∃ p, Supported sites (stated policy header) p) →
      ∃ best url, IsBest sites (stated policy header) best ∧
        (∀ p, IsBest sites (stated policy header) p → p = best) ∧
        sites.get? best.code = some url ∧
        resolve policy header sites = ⟨best.code, url, false⟩) ∧
    sites.hasLocation (resolve policy header sites).location = true ∧
    ((resolve policy header sites).fallback = true ↔
      ∀ p, ¬ Supported sites (stated policy header) p) ∧
    resolveDefault header sites = resolve .ignore header sites ∧
    resolveLocation header sites = (resolveDefault header sites).location := by
  refine ⟨fun hnone => ?_, ?_, hasLocation_resolve policy header sites, ?_, rfl,
    resolveLocation_eq header sites⟩
  · exact ⟨sites.fallback, sites.get?_fallbackLanguage, resolve_of_forall_not_supported hnone⟩
  · rintro ⟨p, hp⟩
    obtain ⟨best, url, hbest, hurl, hresolve⟩ := resolve_of_supported hp
    exact ⟨best, url, hbest, fun q hq => hbest.unique hq, hurl, hresolve⟩
  · constructor
    · intro hfallback p hp
      obtain ⟨best, url, -, -, hresolve⟩ := resolve_of_supported hp
      rw [hresolve] at hfallback
      cases hfallback
    · intro hnone
      rw [resolve_of_forall_not_supported hnone]

end Signpost.Negotiation
