import Mathlib
import Signpost.Proofs.Negotiation.Choice
import Signpost.Proofs.Negotiation.Grammar
import Signpost.Proofs.Text.LowerCase
import Signpost.Settings.Problem

/-!
# The code of a language tag

A landing page is looked up under the code of a tag: its first two characters in lower case.

**Of any header.**  A tag of the grammar begins with a letter, and its second character, if there is
one, is a letter or the hyphen.  So is its code (`LanguageTag.isShortCode`), and with it every
language that a visitor can be sent to (`isShortCode_language_resolve`), whatever the header and the
site map hold.

**Of a header that is a tag.**  A header that consists of one tag leads to the page of its code
(`resolve_languageTag`).  In particular a language code leads to its own page
(`resolve_languageCode`).
-/

namespace Signpost.Negotiation

open Signpost.Text

/-! ## Characters of a tag -/

lemma toNat_lt_of_isAlpha {c : Char} (h : c.isAlpha = true) : c.toNat < 0x80 := by
  simp only [Char.isAlpha, Char.isUpper, Char.isLower, Bool.or_eq_true, Bool.and_eq_true,
    decide_eq_true_eq, ge_iff_le, UInt32.le_iff_toNat_le] at h
  rcases h with h | h
  · have hZ : c.toNat ≤ 90 := h.2
    omega
  · have hz : c.toNat ≤ 122 := h.2
    omega

lemma isBlank_eq_false_of_isAlpha {c : Char} (h : c.isAlpha = true) : isBlank c = false :=
  forall_of_ascii (P := fun c => c.isAlpha = true → isBlank c = false) (by decide +kernel)
    (toNat_lt_of_isAlpha h) h

lemma isLower_toLower {c : Char} (h : c.isAlpha = true) : c.toLower.isLower = true :=
  forall_of_ascii (P := fun c => c.isAlpha = true → c.toLower.isLower = true) (by decide +kernel)
    (toNat_lt_of_isAlpha h) h

lemma toLower_of_isLower {c : Char} (h : c.isLower = true) : c.toLower = c :=
  forall_of_ascii (P := fun c => c.isLower = true → c.toLower = c) (by decide +kernel)
    (toNat_lt_of_isAlpha (by simp [Char.isAlpha, h])) h

lemma LanguageTag.isAlpha_or_eq_of_mem {t : LanguageTag} {c : Char} (h : c ∈ t.chars) :
    c.isAlpha = true ∨ c = '-' := by
  obtain ⟨language, region⟩ := t
  cases region with
  | none => exact Or.inl (language.isAlpha c h)
  | some region =>
      rw [chars, List.mem_append, List.mem_cons] at h
      rcases h with h | rfl | h
      · exact Or.inl (language.isAlpha c h)
      · exact Or.inr rfl
      · exact Or.inl (region.isAlpha c h)

lemma LanguageTag.toNat_lt_of_mem {t : LanguageTag} {c : Char} (h : c ∈ t.chars) :
    c.toNat < 0x80 := by
  rcases isAlpha_or_eq_of_mem h with h | rfl
  · exact toNat_lt_of_isAlpha h
  · decide

lemma LanguageTag.isBlank_of_mem {t : LanguageTag} {c : Char} (h : c ∈ t.chars) :
    isBlank c = false := by
  rcases isAlpha_or_eq_of_mem h with h | rfl
  · exact isBlank_eq_false_of_isAlpha h
  · decide

/-! ## Codes -/

/-- The first two characters of a tag in lower case. -/
def LanguageTag.code (t : LanguageTag) : String :=
  String.ofList ((t.chars.take 2).map Char.toLower)

/-- A tag of the grammar has no blanks to cut off, and only ASCII letters to lower-case. -/
lemma LanguageTag.code_preference (t : LanguageTag) (w : Weight) :
    Preference.code ⟨String.ofList t.chars, w⟩ = t.code := by
  have htrim : trimEnd (t.chars ++ []) = t.chars :=
    trimEnd_append (fun c hc => isBlank_of_mem hc) fun c hc => absurd hc List.not_mem_nil
  rw [List.append_nil] at htrim
  have hascii : ∀ c ∈ t.chars.take 2, c.toNat < 0x80 := fun c hc =>
    toNat_lt_of_mem (List.mem_of_mem_take hc)
  rw [Preference.code, String.toList_ofList, htrim, lowerCase_of_ascii hascii, code]

/-- A small letter, and possibly one more or a hyphen. -/
def IsShortCode (code : String) : Prop :=
  ∃ c : Char, c.isLower = true ∧ (code.toList = [c] ∨
    ∃ d : Char, (d.isLower = true ∨ d = '-') ∧ code.toList = [c, d])

lemma LanguageTag.exists_chars_eq_cons (t : LanguageTag) :
    ∃ c rest, t.chars = c :: rest ∧ c.isAlpha = true := by
  obtain ⟨⟨letters, isAlpha, ne_nil, -⟩, region⟩ := t
  obtain ⟨c, more, rfl⟩ := List.exists_cons_of_ne_nil ne_nil
  cases region with
  | none => exact ⟨c, more, rfl, isAlpha c List.mem_cons_self⟩
  | some region => exact ⟨c, more ++ '-' :: region.chars, rfl, isAlpha c List.mem_cons_self⟩

/-- **The code of a tag is short.** -/
lemma LanguageTag.isShortCode (t : LanguageTag) : IsShortCode t.code := by
  obtain ⟨c, rest, hchars, hc⟩ := t.exists_chars_eq_cons
  refine ⟨c.toLower, isLower_toLower hc, ?_⟩
  rw [code, String.toList_ofList, hchars]
  cases rest with
  | nil => exact Or.inl rfl
  | cons d rest =>
      refine Or.inr ⟨d.toLower, ?_, rfl⟩
      have hd : d ∈ t.chars := by simp [hchars]
      rcases isAlpha_or_eq_of_mem hd with hletter | rfl
      · exact Or.inl (isLower_toLower hletter)
      · exact Or.inr rfl

/-! ## Chosen languages -/

/-- Every preference that a header states has a tag of the grammar, and the code of this tag. -/
lemma exists_languageTag_of_mem_stated {policy : Policy} {header : Option String} {p : Preference}
    (h : p ∈ stated policy header) : ∃ t : LanguageTag, t.chars = p.tag.toList ∧ t.code = p.code := by
  cases header with
  | none => cases h
  | some text =>
      obtain ⟨t, ht⟩ := exists_languageTag_of_mem_statedIn h
      refine ⟨t, ?_, ?_⟩
      · rw [← ht, String.toList_ofList]
      · rw [← t.code_preference p.weight, ht]

/-- A language that is chosen without falling back is the code of a preference that the header states,
and has its page. -/
lemma exists_stated_of_not_fallback {policy : Policy} {header : Option String} {sites : SiteMap}
    (h : (resolve policy header sites).fallback = false) :
    ∃ p ∈ stated policy header, p.code = (resolve policy header sites).language ∧
      sites.get? p.code = some (resolve policy header sites).location := by
  by_cases hnone : ∀ p, ¬ Supported sites (stated policy header) p
  · rw [resolve_of_forall_not_supported hnone] at h
    cases h
  · rw [not_forall_not] at hnone
    obtain ⟨p, hp⟩ := hnone
    obtain ⟨best, url, hbest, hurl, hresolve⟩ := resolve_of_supported hp
    obtain ⟨q, hq, htag⟩ :=
      List.mem_map.1 (isSome_lastWeight?_iff.1 (Option.isSome_of_eq_some hbest.1.1))
    -- the code of a preference does not depend on its weight
    have hcode : q.code = best.code := by rw [Preference.code, htag, Preference.code]
    rw [← hcode] at hurl
    rw [hresolve]
    exact ⟨q, hq, hcode, hurl⟩

/-- A visitor is sent to the fallback language, or to the code of a tag. -/
lemma resolve_language (policy : Policy) (header : Option String) (sites : SiteMap) :
    (resolve policy header sites).language = fallbackLanguage ∨
      (resolve policy header sites).fallback = false ∧
        ∃ t : LanguageTag, (resolve policy header sites).language = t.code := by
  by_cases hnone : ∀ p, ¬ Supported sites (stated policy header) p
  · rw [resolve_of_forall_not_supported hnone]
    exact Or.inl rfl
  · rw [not_forall_not] at hnone
    obtain ⟨supported, hsupported⟩ := hnone
    obtain ⟨best, url, -, -, hresolve⟩ := resolve_of_supported hsupported
    have hfallback : (resolve policy header sites).fallback = false := by rw [hresolve]
    obtain ⟨p, hp, hcode, -⟩ := exists_stated_of_not_fallback hfallback
    obtain ⟨t, -, htcode⟩ := exists_languageTag_of_mem_stated hp
    exact Or.inr ⟨hfallback, t, by rw [← hcode, htcode]⟩

/-- **Every language that is chosen has a short code**, whatever codes the site map has. -/
theorem isShortCode_language_resolve (policy : Policy) (header : Option String) (sites : SiteMap) :
    IsShortCode (resolve policy header sites).language := by
  rcases resolve_language policy header sites with hfallback | ⟨-, t, ht⟩
  · rw [hfallback]
    exact ⟨'e', by decide, Or.inr ⟨'n', Or.inl (by decide), by decide⟩⟩
  · rw [ht]
    exact t.isShortCode

/-! ## Headers that are a tag -/

/-- **A tag leads to the page of its code.** -/
theorem resolve_languageTag (policy : Policy) (t : LanguageTag) {sites : SiteMap} {url : String}
    (h : sites.get? t.code = some url) :
    resolve policy (some (String.ofList t.chars)) sites = ⟨t.code, url, false⟩ := by
  have hstated : stated policy (some (String.ofList t.chars)) = [⟨String.ofList t.chars, .one⟩] := by
    have htag := statedIn_tag policy t ⟨[], by simp⟩ (by simp [EndsTag])
    rw [List.append_nil] at htag
    rw [stated, String.toList_ofList]
    exact htag
  have hordered : ∀ p, (Ranking.ofList [p]).ordered = [p] := by
    intro p
    simp [Ranking.ofList, Ranking.insert, Ranking.empty, Ranking.ordered]
  rw [resolve, preferences_eq_ordered, hstated, hordered, firstMatch?, List.findSome?_cons,
    t.code_preference, h]
  rfl

lemma exists_languageTag_of_isLanguageCode {code : String} (h : isLanguageCode code = true) :
    ∃ t : LanguageTag, String.ofList t.chars = code ∧ t.code = code := by
  simp only [isLanguageCode, Bool.and_eq_true, decide_eq_true_eq, List.all_eq_true] at h
  obtain ⟨hlength, hlower⟩ := h
  have hne : code.toList ≠ [] := List.length_pos_iff.1 (by omega)
  have halpha : ∀ c ∈ code.toList, c.isAlpha = true := fun c hc => by
    simp [Char.isAlpha, hlower c hc]
  have hkeep : code.toList.map Char.toLower = code.toList :=
    (List.map_congr_left fun c hc => toLower_of_isLower (hlower c hc)).trans (List.map_id _)
  refine ⟨⟨⟨code.toList, halpha, hne, by omega⟩, none⟩, String.ofList_toList, ?_⟩
  show String.ofList ((code.toList.take 2).map Char.toLower) = code
  rw [List.take_of_length_le (by omega), hkeep, String.ofList_toList]

/-- **A language code leads to its page.** -/
theorem resolve_languageCode (policy : Policy) {code url : String}
    (hcode : isLanguageCode code = true) {sites : SiteMap} (h : sites.get? code = some url) :
    resolve policy (some code) sites = ⟨code, url, false⟩ := by
  obtain ⟨t, htag, htcode⟩ := exists_languageTag_of_isLanguageCode hcode
  rw [← htcode] at h
  have hresolve := resolve_languageTag policy t h
  rwa [htag, htcode] at hresolve

end Signpost.Negotiation
