import Mathlib.Data.List.Induction
import Mathlib.Data.List.Nodup
import Mathlib.Tactic.Common
import Signpost.SiteMap

/-!
# Looking up landing pages

What a look-up in a page table or a site map tells about the pages: the pages that are found are those
that are listed (`PageTable.get?_eq_some_iff`), and a site map always finds the page of the fallback
language (`SiteMap.get?_fallbackLanguage`).

A page that is added or taken out changes the look-up of its own code and of no other
(`PageTable.get?_insert`, `PageTable.get?_erase`).
-/

namespace Signpost

/-- In a list without repeated codes, a page is found exactly if it is listed. -/
lemma lookup_eq_some_iff_mem {pages : List (String × String)} (h : (pages.map (·.1)).Nodup)
    {code url : String} : pages.lookup code = some url ↔ (code, url) ∈ pages := by
  rw [List.lookup_eq_some_iff]
  constructor
  · rintro ⟨before, after, rfl, -⟩
    exact List.mem_append_right _ List.mem_cons_self
  · intro hmem
    obtain ⟨before, after, rfl⟩ := List.append_of_mem hmem
    refine ⟨before, after, rfl, fun p hp => ?_⟩
    rw [List.map_append, List.nodup_append] at h
    rw [bne_iff_ne]
    exact (h.2.2 p.1 (List.mem_map_of_mem hp) code List.mem_cons_self).symm

lemma PageTable.pairwise_languages (t : PageTable) : t.languages.Pairwise (· < ·) :=
  List.pairwise_map.2 t.sorted

lemma PageTable.nodup_languages (t : PageTable) : t.languages.Nodup :=
  t.pairwise_languages.imp String.ne_of_lt

/-- A page is found for a code exactly if it is listed under it, for no code is listed twice. -/
lemma PageTable.get?_eq_some_iff {t : PageTable} {code url : String} :
    t.get? code = some url ↔ (code, url) ∈ t.pages :=
  lookup_eq_some_iff_mem t.nodup_languages

/-- **A table is what is found in it.** -/
lemma PageTable.eq_of_get? {t u : PageTable} (h : ∀ code, t.get? code = u.get? code) : t = u := by
  have hmem : ∀ p, p ∈ t.pages ↔ p ∈ u.pages := fun p => by
    rw [← get?_eq_some_iff, ← get?_eq_some_iff, h]
  have hperm : t.pages.Perm u.pages :=
    (List.perm_ext_iff_of_nodup (.of_map _ t.nodup_languages) (.of_map _ u.nodup_languages)).2 hmem
  have hpages : t.pages = u.pages :=
    hperm.eq_of_pairwise (fun _ _ _ _ hab hba => absurd hba (String.lt_asymm hab)) t.sorted u.sorted
  cases t
  cases u
  cases hpages
  rfl

/-- The languages are the codes that have a page. -/
lemma PageTable.mem_languages_iff {t : PageTable} {code : String} :
    code ∈ t.languages ↔ (t.get? code).isSome := by
  rw [Option.isSome_iff_exists, languages, List.mem_map]
  simp only [get?_eq_some_iff]
  constructor
  · rintro ⟨p, hp, rfl⟩
    exact ⟨p.2, hp⟩
  · rintro ⟨url, hmem⟩
    exact ⟨(code, url), hmem, rfl⟩

/-! ## Changing one page -/

lemma lookup_cons_eq_ite (p : String × String) (pages : List (String × String)) (c : String) :
    (p :: pages).lookup c = if c = p.1 then some p.2 else pages.lookup c := by
  rw [List.lookup_cons]
  by_cases hc : c = p.1
  · rw [if_pos hc, hc, beq_self_eq_true]
  · rw [if_neg hc, beq_false_of_ne hc]

lemma lookup_insertPage (code url : String) (pages : List (String × String)) (c : String) :
    (insertPage code url pages).lookup c = if c = code then some url else pages.lookup c := by
  induction pages with
  | nil => rw [insertPage, lookup_cons_eq_ite]
  | cons p rest ih =>
      rw [insertPage]
      split
      · rw [lookup_cons_eq_ite]
      · split
        · next heq =>
          rw [lookup_cons_eq_ite, lookup_cons_eq_ite, heq]
          split <;> rfl
        · next hne =>
          rw [lookup_cons_eq_ite, lookup_cons_eq_ite, ih]
          by_cases hc : c = p.1
          · rw [if_pos hc, if_pos hc, if_neg (hc ▸ Ne.symm hne)]
          · rw [if_neg hc, if_neg hc]

lemma lookup_filter_ne (code : String) (pages : List (String × String)) (c : String) :
    (pages.filter (·.1 ≠ code)).lookup c = if c = code then none else pages.lookup c := by
  induction pages with
  | nil => simp
  | cons p rest ih =>
      rw [List.filter_cons, lookup_cons_eq_ite]
      by_cases hp : p.1 = code
      · rw [if_neg (by simpa using hp), ih, hp]
        split <;> rfl
      · rw [if_pos (by simpa using hp), lookup_cons_eq_ite, ih]
        by_cases hc : c = p.1
        · rw [if_pos hc, if_pos hc, if_neg (hc ▸ hp)]
        · rw [if_neg hc, if_neg hc]

namespace PageTable

/-- **An added page is found under its code**, and the other pages are found as before. -/
lemma get?_insert (t : PageTable) (code url c : String) :
    (t.insert code url).get? c = if c = code then some url else t.get? c :=
  lookup_insertPage code url t.pages c

/-- Of two pages in a list for one code the later is found. -/
lemma get?_ofList (pages : List (String × String)) (code : String) :
    (ofList pages).get? code = pages.reverse.lookup code := by
  induction pages using List.reverseRecOn with
  | nil => rfl
  | append_singleton pages p ih =>
      rw [ofList, List.foldl_concat, ← ofList, get?_insert, ih, List.reverse_concat,
        lookup_cons_eq_ite]

/-- The order of its pages does not matter to a table, if no code is repeated. -/
lemma ofList_of_perm {t : PageTable} {pages : List (String × String)} (h : pages.Perm t.pages) :
    ofList pages = t := by
  have hreverse : pages.reverse.Perm t.pages := pages.reverse_perm.trans h
  refine eq_of_get? fun code => Option.ext fun url => ?_
  have hnodup : (pages.reverse.map (·.1)).Nodup := (hreverse.map _).nodup_iff.2 t.nodup_languages
  rw [get?_ofList, lookup_eq_some_iff_mem hnodup, get?_eq_some_iff, hreverse.mem_iff]

/-- A table without the page of a code. -/
def erase (t : PageTable) (code : String) : PageTable :=
  ⟨t.pages.filter (·.1 ≠ code), t.sorted.filter _⟩

/-- **No page is found under an erased code**, and the other pages are found as before. -/
lemma get?_erase (t : PageTable) (code c : String) :
    (t.erase code).get? c = if c = code then none else t.get? c :=
  lookup_filter_ne code t.pages c

end PageTable

namespace SiteMap

/-- A location is in use exactly if it is the page that is found for some code. -/
lemma hasLocation_iff {m : SiteMap} {url : String} :
    m.hasLocation url = true ↔ ∃ code, m.get? code = some url := by
  rw [hasLocation, List.any_eq_true]
  constructor
  · rintro ⟨p, hp, hurl⟩
    obtain rfl : p.2 = url := of_decide_eq_true hurl
    exact ⟨p.1, PageTable.get?_eq_some_iff.2 hp⟩
  · rintro ⟨code, h⟩
    exact ⟨(code, url), PageTable.get?_eq_some_iff.1 h, decide_eq_true rfl⟩

/-- The fallback language has the page that visitors fall back to. -/
lemma get?_fallbackLanguage (m : SiteMap) : m.get? fallbackLanguage = some m.fallback :=
  (Option.some_get m.has_fallback).symm

lemma size_eq_length_languages (m : SiteMap) : m.size = m.languages.length :=
  (List.length_map _).symm

/-- There is always the page to fall back to. -/
lemma isEmpty_eq_false (m : SiteMap) : m.isEmpty = false := by
  have hmem := PageTable.get?_eq_some_iff.1 m.get?_fallbackLanguage
  rw [isEmpty, List.isEmpty_eq_false_iff]
  exact List.ne_nil_of_mem hmem

/-- A site map has the pages of the table that it was made of. -/
lemma table_of_ofTable? {t : PageTable} {m : SiteMap} (h : ofTable? t = some m) : m.table = t := by
  unfold ofTable? at h
  split at h
  · cases h
    rfl
  · cases h

/-- A table makes a site map if it has a page for the fallback language. -/
lemma isSome_ofTable?_iff {t : PageTable} :
    (ofTable? t).isSome ↔ (t.get? fallbackLanguage).isSome := by
  unfold ofTable?
  split
  · next h => simp [h]
  · next h => simp [h]

end SiteMap

end Signpost
