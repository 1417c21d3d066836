import Mathlib.Tactic.Common
import Signpost.Proofs.Negotiation.Choice

/-!
# Changing one landing page

Visitors whom a page does not concern do not notice that it is added, taken out or replaced.

**Searching.**  A search through the preferences of a visitor looks up their codes one after the other.
Two site maps that differ in one code lead to the same page unless one of the searches ends at this code
(`firstMatch?_of_agree`).  Two site maps with the same codes lead to the same language
(`map_fst_firstMatch?`).

**Choosing.**  So a visitor is sent elsewhere only to the language that was changed, or away from it
(`resolve_of_agree`).  It makes no difference whether this language was chosen for a preference or because
there was none.

**`edits_concern_one_language`** says what this means for a page that is taken out, added or replaced.
-/

namespace Signpost

namespace SiteMap

/-- A site map with one page more, or with another page in place of the one that the code has. -/
def insert (m : SiteMap) (code url : String) : SiteMap where
  table := m.table.insert code url
  has_fallback := by
    rw [PageTable.get?_insert]
    split
    · rfl
    · exact m.has_fallback

/-- A site map without the page of a code. -/
def erase (m : SiteMap) (code : String) (h : code ≠ fallbackLanguage) : SiteMap where
  table := m.table.erase code
  has_fallback := by
    rw [PageTable.get?_erase, if_neg h.symm]
    exact m.has_fallback

lemma get?_insert (m : SiteMap) (code url c : String) :
    (m.insert code url).get? c = if c = code then some url else m.get? c :=
  m.table.get?_insert code url c

lemma get?_erase (m : SiteMap) {code : String} (h : code ≠ fallbackLanguage) (c : String) :
    (m.erase code h).get? c = if c = code then none else m.get? c :=
  m.table.get?_erase code c

/-- Two site maps have the same pages, but perhaps not for this code. -/
def AgreeBut (code : String) (a b : SiteMap) : Prop :=
  ∀ c, c ≠ code → b.get? c = a.get? c

lemma agreeBut_insert (m : SiteMap) (code url : String) : AgreeBut code m (m.insert code url) := by
  intro c hc
  rw [get?_insert, if_neg hc]

lemma agreeBut_erase (m : SiteMap) {code : String} (h : code ≠ fallbackLanguage) :
    AgreeBut code m (m.erase code h) := by
  intro c hc
  rw [get?_erase, if_neg hc]

end SiteMap

namespace Negotiation

open SiteMap

/-! ## Searching -/

lemma firstMatch?_cons (m : SiteMap) (p : Preference) (rest : List Preference) :
    firstMatch? m (p :: rest) = match m.get? p.code with
      | some url => some (p.code, url)
      | none => firstMatch? m rest := by
  rw [firstMatch?, List.findSome?_cons]
  cases m.get? p.code <;> rfl

/-- A search that does not end at a code finds no page for it. -/
lemma get?_of_firstMatch?_cons {m : SiteMap} {p : Preference} {rest : List Preference}
    (h : ∀ url, firstMatch? m (p :: rest) ≠ some (p.code, url)) : m.get? p.code = none := by
  cases hpage : m.get? p.code with
  | none => rfl
  | some url => exact absurd (by rw [firstMatch?_cons, hpage]) (h url)

/-- **Searches that do not end at the code are the same.** -/
lemma firstMatch?_of_agree {code : String} {a b : SiteMap} (h : AgreeBut code a b)
    {ps : List Preference} (ha : ∀ url, firstMatch? a ps ≠ some (code, url))
    (hb : ∀ url, firstMatch? b ps ≠ some (code, url)) : firstMatch? b ps = firstMatch? a ps := by
  induction ps with
  | nil => rfl
  | cons p rest ih =>
      have hpage : b.get? p.code = a.get? p.code := by
        by_cases hp : p.code = code
        · subst hp
          rw [get?_of_firstMatch?_cons ha, get?_of_firstMatch?_cons hb]
        · exact h p.code hp
      rw [firstMatch?_cons] at ha hb
      rw [firstMatch?_cons, firstMatch?_cons, hpage]
      cases hfound : a.get? p.code with
      | some url => rfl
      | none =>
          simp only [hpage, hfound] at ha hb
          exact ih ha hb

/-- **Searches through site maps with the same codes end at the same code.** -/
lemma map_fst_firstMatch? {a b : SiteMap} (h : ∀ c, (b.get? c).isSome = (a.get? c).isSome)
    (ps : List Preference) : (firstMatch? b ps).map (·.1) = (firstMatch? a ps).map (·.1) := by
  induction ps with
  | nil => rfl
  | cons p rest ih =>
      have hp := h p.code
      rw [firstMatch?_cons, firstMatch?_cons]
      cases ha : a.get? p.code <;> cases hb : b.get? p.code <;> simp_all

/-! ## Choosing -/

section Choosing

variable (policy : Policy) (header : Option String) {a b : SiteMap} {code : String}

lemma language_of_firstMatch? {m : SiteMap} {url : String}
    (h : firstMatch? m (preferences policy header) = some (code, url)) :
    (resolve policy header m).language = code := by
  rw [resolve, h]

lemma language_of_fallback {m : SiteMap} (h : (resolve policy header m).fallback = true) :
    (resolve policy header m).language = fallbackLanguage := by
  rw [resolve] at h ⊢
  split at h
  · cases h
  · rfl

/-- **A visitor is sent elsewhere only to the language that was changed, or away from it.** -/
theorem resolve_of_agree (h : AgreeBut code a b)
    (ha : (resolve policy header a).language ≠ code)
    (hb : (resolve policy header b).language ≠ code) :
    resolve policy header b = resolve policy header a := by
  have hsearch := firstMatch?_of_agree h
    (fun url hfound => ha (language_of_firstMatch? policy header hfound))
    (fun url hfound => hb (language_of_firstMatch? policy header hfound))
  rw [resolve, resolve, hsearch]
  rw [resolve] at ha
  split
  · rfl
  · next hnone =>
    -- both fall back, and the page to fall back to is not the one that was changed
    rw [hnone] at ha
    have hpage := h fallbackLanguage ha
    rw [b.get?_fallbackLanguage, a.get?_fallbackLanguage, Option.some.injEq] at hpage
    rw [hpage]

/-- Site maps with the same codes lead to the same language, or both to none. -/
lemma language_of_isSome (h : ∀ c, (b.get? c).isSome = (a.get? c).isSome) :
    (resolve policy header b).language = (resolve policy header a).language ∧
      (resolve policy header b).fallback = (resolve policy header a).fallback := by
  have hsearch := map_fst_firstMatch? h (preferences policy header)
  rw [resolve, resolve]
  cases hb : firstMatch? b (preferences policy header) <;>
    cases ha : firstMatch? a (preferences policy header) <;> simp_all

end Choosing

/-- **A change of one landing page concerns the visitors of its language only.**

* A page that is taken out is missed by those who were sent to it, and by nobody else.
* A page that is added is shown instead of the one before, or makes no difference.
* Another page for a language is shown to those who were sent to the old one.  All the others are sent
  where they were sent before, and nobody is sent to another language.
* Whatever happens to the page of one code, a visitor who is sent elsewhere was sent to this language
  before or is sent to it now. -/
theorem edits_concern_one_language (policy : Policy) (header : Option String) (sites : SiteMap) :
    (∀ code (h : code ≠ fallbackLanguage), (sites.get? code).isSome →
      (resolve policy header sites).language ≠ code →
      resolve policy header (sites.erase code h) = resolve policy header sites) ∧
    (∀ code url, sites.get? code = none →
      resolve policy header (sites.insert code url) = resolve policy header sites ∨
        resolve policy header (sites.insert code url) = ⟨code, url, false⟩) ∧
    (∀ code old url, sites.get? code = some old → url ≠ old →
      (resolve policy header (sites.insert code url)).language =
          (resolve policy header sites).language ∧
        (resolve policy header (sites.insert code url)).fallback =
          (resolve policy header sites).fallback ∧
        ((resolve policy header (sites.insert code url)).location ≠
            (resolve policy header sites).location ↔
          (resolve policy header sites).language = code)) ∧
    (∀ code (edited : SiteMap), AgreeBut code sites edited →
      resolve policy header edited ≠ resolve policy header sites →
      (resolve policy header sites).language = code ∨
        (resolve policy header edited).language = code) := by
  have hpage := get?_resolve policy header
  refine ⟨?_, ?_, ?_, ?_⟩
  · intro code h hcode hlanguage
    refine resolve_of_agree policy header (sites.agreeBut_erase h) hlanguage fun hchosen => ?_
    have herased := hpage (sites.erase code h)
    rw [hchosen, get?_erase, if_pos rfl] at herased
    cases herased
  · intro code url hcode
    have hlanguage : (resolve policy header sites).language ≠ code := by
      intro hchosen
      have hfound := hpage sites
      rw [hchosen, hcode] at hfound
      cases hfound
    by_cases hchosen : (resolve policy header (sites.insert code url)).language = code
    · right
      set chosen := resolve policy header (sites.insert code url) with hresolve
      have hlocation : url = chosen.location := by
        have hfound := hpage (sites.insert code url)
        rwa [← hresolve, hchosen, get?_insert, if_pos rfl, Option.some.injEq] at hfound
      have hfallback : chosen.fallback = false := by
        rw [← Bool.not_eq_true]
        intro hfallback
        rw [hresolve, language_of_fallback policy header hfallback] at hchosen
        rw [← hchosen, get?_fallbackLanguage] at hcode
        cases hcode
      calc chosen = ⟨chosen.language, chosen.location, chosen.fallback⟩ := rfl
        _ = ⟨code, url, false⟩ := by rw [hchosen, ← hlocation, hfallback]
    · exact Or.inl (resolve_of_agree policy header (sites.agreeBut_insert code url) hlanguage hchosen)
  · intro code old url hcode hurl
    have hcodes : ∀ c, ((sites.insert code url).get? c).isSome = (sites.get? c).isSome := by
      intro c
      by_cases hc : c = code <;> simp [get?_insert, hc, hcode]
    obtain ⟨hlanguage, hfallback⟩ := language_of_isSome policy header hcodes
    have hbefore := hpage sites
    have hafter := hpage (sites.insert code url)
    rw [hlanguage, get?_insert] at hafter
    refine ⟨hlanguage, hfallback, ?_⟩
    by_cases hchosen : (resolve policy header sites).language = code
    · rw [hchosen, hcode, Option.some.injEq] at hbefore
      rw [if_pos hchosen, Option.some.injEq] at hafter
      rw [← hbefore, ← hafter]
      exact iff_of_true hurl hchosen
    · rw [if_neg hchosen, hbefore, Option.some.injEq] at hafter
      exact iff_of_false (not_not.2 hafter.symm) hchosen
  · intro code edited h hne
    by_contra hnot
    rw [not_or] at hnot
    exact hne (resolve_of_agree policy header h hnot.1 hnot.2)

/-- A visitor who falls back does not notice that another page is taken out, may be sent to a new page,
and notices a change of the page to fall back to. -/
theorem edits_concern_one_language_japanese :
    let sites : SiteMap := ⟨.ofList [("de", "/de/"), ("en", "/en/")], by decide⟩
    resolve .drop (some "ja-JP") sites = ⟨"en", "/en/", true⟩ ∧
      resolve .drop (some "ja-JP") (sites.erase "de" (by decide)) = ⟨"en", "/en/", true⟩ ∧
      (resolve .drop (some "ja-JP") (sites.insert "ja" "/ja/") = ⟨"en", "/en/", true⟩ ∨
        resolve .drop (some "ja-JP") (sites.insert "ja" "/ja/") = ⟨"ja", "/ja/", false⟩) ∧
      (resolve .drop (some "ja-JP") (sites.insert "en" "/home/")).fallback = true ∧
      (resolve .drop (some "ja-JP") (sites.insert "en" "/home/")).location ≠ "/en/" := by
  intro sites
  have hbefore : resolve .drop (some "ja-JP") sites = ⟨"en", "/en/", true⟩ := by decide +kernel
  obtain ⟨herase, hinsert, hreplace, -⟩ := edits_concern_one_language .drop (some "ja-JP") sites
  have herased := herase "de" (by decide) (by decide) (by rw [hbefore]; decide)
  have hinserted := hinsert "ja" "/ja/" (by decide)
  obtain ⟨-, hfallback, hlocation⟩ := hreplace "en" "/en/" "/home/" (by decide) (by decide)
  rw [hbefore] at herased hinserted hfallback hlocation
  exact ⟨hbefore, herased, hinserted, hfallback, hlocation.2 rfl⟩

end Negotiation

end Signpost
