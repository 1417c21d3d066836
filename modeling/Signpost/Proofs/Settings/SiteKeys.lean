import Mathlib.Tactic.Common
import Signpost.Proofs.Negotiation.Code
import Signpost.Proofs.Server.ValidSettings

/-!
# Which keys a visitor can reach

Valid settings list their landing pages under language codes: two small letters.  A visitor's tag is
looked up under its code, which need not be one: the tag may be a single letter, or go on with a hyphen
after the first letter.

**Codes of tags.**  `LanguageTag.isLanguageCode_code_iff` says which tags have a language code for their
code: those that begin with two letters.  So every page of valid settings can be reached, and only by
such tags.

**Any site map.**  Whatever keys it has, a chosen language is the code of a tag in the header.

**`site_keys_usable`** says both.
-/

namespace Signpost.Negotiation

/-! ## Tags with a language code -/

/-- The code of a tag is a language code if the tag begins with two letters. -/
lemma LanguageTag.isLanguageCode_code_iff (t : LanguageTag) :
    isLanguageCode t.code = true ↔ ∃ a b rest, t.chars = a :: b :: rest ∧ a.isAlpha = true ∧
      b.isAlpha = true := by
  obtain ⟨a, tail, hchars, ha⟩ := t.exists_chars_eq_cons
  have hcode : t.code.toList = ((a :: tail).take 2).map Char.toLower := by
    rw [code, String.toList_ofList, hchars]
  rw [isLanguageCode_iff, hcode, hchars]
  cases tail with
  | nil => simp
  | cons b rest =>
      constructor
      · rintro ⟨a', b', heq, -, hb'⟩
        refine ⟨a, b, rest, rfl, ha, ?_⟩
        have hb : b.toLower = b' := by simpa using (List.cons.inj heq).2
        have hmem : b ∈ t.chars := by simp [hchars]
        rcases isAlpha_or_eq_of_mem hmem with hletter | rfl
        · exact hletter
        · rw [← hb] at hb'
          exact absurd hb' (by decide)
      · rintro ⟨a', b', rest', heq, -, hb⟩
        obtain ⟨rfl, htail⟩ := List.cons.inj heq
        obtain ⟨rfl, rfl⟩ := List.cons.inj htail
        exact ⟨a.toLower, b.toLower, rfl, isLower_toLower ha, isLower_toLower hb⟩

/-- The code of a single letter is none, nor is that of a tag with a hyphen behind the first letter. -/
lemma LanguageTag.isLanguageCode_code_eq_false {t : LanguageTag}
    (h : t.chars.length = 1 ∨ t.chars[1]? = some '-') : isLanguageCode t.code = false := by
  rw [← Bool.not_eq_true, isLanguageCode_code_iff]
  rintro ⟨a, b, rest, hchars, -, hb⟩
  rw [hchars] at h
  rcases h with hone | hhyphen
  · simp at hone
  · have hhyphen' : b = '-' := by simpa using hhyphen
    rw [hhyphen'] at hb
    exact absurd hb (by decide)

/-- The code of a tag is a language code if the first two characters of the tag are, but for the case
of the letters. -/
lemma LanguageTag.code_eq_of_map_toLower {t : LanguageTag} {code : String}
    (hcode : isLanguageCode code = true)
    (h : (t.chars.take 2).map Char.toLower = code.toList.map Char.toLower) : t.code = code := by
  obtain ⟨a, b, hab, ha, hb⟩ := isLanguageCode_iff.1 hcode
  have hkeep : code.toList.map Char.toLower = code.toList := by
    simp [hab, toLower_of_isLower ha, toLower_of_isLower hb]
  rw [LanguageTag.code, h, hkeep, String.ofList_toList]

/-! ## Keys -/

/-- The ranked preferences have the tags of the stated ones. -/
lemma exists_languageTag_of_mem_preferences {policy : Policy} {header : Option String}
    {p : Preference} (h : p ∈ preferences policy header) :
    ∃ t : LanguageTag, t.chars = p.tag.toList ∧ t.code = p.code := by
  rw [preferences_eq_ordered] at h
  obtain ⟨q, hq, htag⟩ :=
    List.mem_map.1 (Ranking.mem_map_tag_ordered_iff.1 (List.mem_map_of_mem h))
  obtain ⟨t, hchars, hcode⟩ := exists_languageTag_of_mem_stated hq
  refine ⟨t, by rw [hchars, htag], ?_⟩
  rw [hcode, Preference.code, htag, Preference.code]

/-- The key of a page of valid settings is a language code. -/
lemma isLanguageCode_of_get? {s : Settings} {sites : SiteMap} (h : s.Valid)
    (hsites : sites.table = s.sites) {key : String} (hpage : (sites.get? key).isSome) :
    isLanguageCode key = true := by
  obtain ⟨url, hurl⟩ := Option.isSome_iff_exists.1 hpage
  rw [SiteMap.get?, hsites] at hurl
  exact h.languageCodes _ (PageTable.get?_eq_some_iff.1 hurl)

/-- **The keys of valid settings are the codes that a visitor's tags can have.**

Of valid settings:
* Every page can be reached: there are tags that begin with the two letters of its key, in any case, and
  a header that is such a tag leads to the page under either policy.
* A preference for a single letter, or with a hyphen behind its first letter, finds no page.
* A language that is chosen without falling back is two small letters, and a tag in the header begins with
  these letters.

Of any site map: a language that is chosen without falling back is the code of a tag in the header, which
is one small letter, or one followed by a second or by a hyphen. -/
theorem site_keys_usable :
    (∀ s : Settings, s.problems = [] → ∃ sites, s.siteMap? = .ok sites ∧ sites.table = s.sites ∧
      (∀ key url, s.sites.get? key = some url →
        (∃ t : LanguageTag,
          (t.chars.take 2).map Char.toLower = key.toList.map Char.toLower) ∧
        ∀ (policy : Policy) (t : LanguageTag),
          (t.chars.take 2).map Char.toLower = key.toList.map Char.toLower →
          resolve policy (some (String.ofList t.chars)) sites = ⟨key, url, false⟩) ∧
      (∀ policy header, ∀ p ∈ preferences policy header,
        p.tag.toList.length = 1 ∨ p.tag.toList[1]? = some '-' → sites.get? p.code = none) ∧
      ∀ policy header, (resolve policy header sites).fallback = false →
        isLanguageCode (resolve policy header sites).language = true ∧
        ∃ p ∈ stated policy header, (p.tag.toList.take 2).map Char.toLower =
          (resolve policy header sites).language.toList) ∧
    ∀ (sites : SiteMap) policy header, (resolve policy header sites).fallback = false →
      (∃ p ∈ stated policy header, p.code = (resolve policy header sites).language) ∧
      IsShortCode (resolve policy header sites).language := by
  refine ⟨?_, ?_⟩
  · intro s h
    have hvalid := Settings.problems_eq_nil_iff.1 h
    obtain ⟨sites, hsites⟩ := hvalid.exists_sites
    have htable := SiteMap.table_of_ofTable? hsites
    have hkey : ∀ key, (sites.get? key).isSome → isLanguageCode key = true := fun key =>
      isLanguageCode_of_get? hvalid htable
    refine ⟨sites, Settings.siteMap?_eq_ok_iff.2 hsites, htable, ?_, ?_, ?_⟩
    · intro key url hpage
      rw [← htable] at hpage
      have hcode := hkey key (Option.isSome_of_eq_some hpage)
      obtain ⟨t, ht, -⟩ := exists_languageTag_of_isLanguageCode hcode
      refine ⟨⟨t, ?_⟩, ?_⟩
      · obtain ⟨a, b, hab, -⟩ := isLanguageCode_iff.1 hcode
        rw [← ht, String.toList_ofList] at hab ⊢
        rw [hab]
        rfl
      · intro policy t' ht'
        rw [← LanguageTag.code_eq_of_map_toLower hcode ht'] at hpage ⊢
        exact resolve_languageTag policy t' hpage
    · intro policy header p hp hshort
      rw [← Option.not_isSome_iff_eq_none]
      intro hpage
      obtain ⟨t, htag, htcode⟩ := exists_languageTag_of_mem_preferences hp
      have hcode := hkey p.code hpage
      rw [← htag] at hshort
      rw [← htcode, LanguageTag.isLanguageCode_code_eq_false hshort] at hcode
      cases hcode
    · intro policy header hfallback
      obtain ⟨p, hp, hcode, hpage⟩ := exists_stated_of_not_fallback hfallback
      obtain ⟨t, htag, htcode⟩ := exists_languageTag_of_mem_stated hp
      refine ⟨?_, p, hp, ?_⟩
      · rw [← hcode]
        exact hkey p.code (Option.isSome_of_eq_some hpage)
      · rw [← hcode, ← htcode, ← htag, LanguageTag.code, String.toList_ofList]
  · intro sites policy header hfallback
    obtain ⟨p, hp, hcode, -⟩ := exists_stated_of_not_fallback hfallback
    obtain ⟨t, -, htcode⟩ := exists_languageTag_of_mem_stated hp
    refine ⟨⟨p, hp, hcode⟩, ?_⟩
    rw [← hcode, ← htcode]
    exact t.isShortCode

/-- Settings with three pages: a tag in capitals with a region leads to the page of its first two letters,
and the rest of a malformed factor, a single letter, to none. -/
theorem site_keys_usable_capitals :
    let s : Settings := { sites := .ofList [("de", "/de/"), ("en", "/en/"), ("qu", "/qu/")] }
    let t : LanguageTag := ⟨⟨['D', 'E'], by simp, by decide, by decide⟩,
      some ⟨['A', 't'], by simp, by decide, by decide⟩⟩
    let qu : LanguageTag := ⟨⟨['Q', 'u'], by simp, by decide, by decide⟩, none⟩
    s.problems = [] ∧ ∃ sites, s.siteMap? = .ok sites ∧
      resolve .drop (some (String.ofList t.chars)) sites = ⟨"de", "/de/", false⟩ ∧
      (∃ p ∈ preferences .ignore (some "q;q=2"), p.tag = "q" ∧ sites.get? p.code = none) ∧
      isLanguageCode (resolve .ignore (some (String.ofList qu.chars)) sites).language = true := by
  intro s t qu
  have hproblems : s.problems = [] := by decide +kernel
  obtain ⟨sites, hsites, htable, hreach, hshort, hchosen⟩ := site_keys_usable.1 s hproblems
  have hq : (⟨"q", .one⟩ : Preference) ∈ preferences .ignore (some "q;q=2") := by
    rw [preferences_eq_ordered, Ranking.mem_ordered]
    decide +kernel
  have hquechua : (resolve .ignore (some (String.ofList qu.chars)) sites).fallback = false := by
    rw [(hreach "qu" "/qu/" (by decide)).2 .ignore qu (by decide)]
  refine ⟨hproblems, sites, hsites, (hreach "de" "/de/" (by decide)).2 .drop t (by decide),
    ⟨_, hq, rfl, hshort .ignore _ _ hq (Or.inl (by decide))⟩, (hchosen .ignore _ hquechua).1⟩

end Signpost.Negotiation
