import Mathlib.Data.List.Dedup
import Mathlib.Data.List.Perm.Basic
import Mathlib.Tactic.Common
import Signpost.Proofs.SiteMap
import Signpost.Proofs.Text.Utf8

/-!
# The site map of a list of pages

A list of pages makes a table, and the table a site map if it has a page to fall back to.  The list may
give a code several pages, or none; what the site map shows is described from the list alone.

* `pagesFor` — the pages that the list gives a code, in the order of the list.
* `Reorders` — one list has the pages of another in a new order, which leaves the pages of each code in
  the order that they had.

**Finding.**  The table of a list finds the last page that the list gives a code
(`PageTable.get?_ofList_eq_getLast?`).  A table is what is found in it, so lists that give every code the
same last page make the same table (`PageTable.ofList_eq_of_getLast?`).

**Listing.**  The languages of the table are the codes of the list without their repetitions
(`PageTable.perm_languages_ofList`).

**`SiteMap.shows_last_pages`** says which lists make a site map and that everything that can be asked of
it is answered from the last pages.
-/

namespace Signpost

/-! ## What a list of pages gives a code -/

/-- The pages that a list gives a code, in the order of the list. -/
def pagesFor (pages : List (String × String)) (code : String) : List String :=
  (pages.filter (·.1 = code)).map (·.2)

lemma pagesFor_cons (p : String × String) (pages : List (String × String)) (code : String) :
    pagesFor (p :: pages) code =
      if p.1 = code then p.2 :: pagesFor pages code else pagesFor pages code := by
  rw [pagesFor, List.filter_cons]
  by_cases hp : p.1 = code
  · rw [if_pos (decide_eq_true hp), if_pos hp, List.map_cons, pagesFor]
  · rw [if_neg (by simpa using hp), if_neg hp, pagesFor]

lemma pagesFor_reverse (pages : List (String × String)) (code : String) :
    pagesFor pages.reverse code = (pagesFor pages code).reverse := by
  rw [pagesFor, List.filter_reverse, List.map_reverse, pagesFor]

lemma pagesFor_eq_nil_iff {pages : List (String × String)} {code : String} :
    pagesFor pages code = [] ↔ code ∉ pages.map (·.1) := by
  rw [pagesFor, List.map_eq_nil_iff, List.filter_eq_nil_iff, List.mem_map, not_exists]
  simp only [decide_eq_true_eq, not_and]

/-- A look-up finds the first page that the list gives a code. -/
lemma lookup_eq_head?_pagesFor (pages : List (String × String)) (code : String) :
    pages.lookup code = (pagesFor pages code).head? := by
  induction pages with
  | nil => rfl
  | cons p rest ih =>
      rw [lookup_cons_eq_ite, pagesFor_cons, ih]
      by_cases hp : p.1 = code
      · rw [if_pos hp.symm, if_pos hp, List.head?_cons]
      · rw [if_neg (Ne.symm hp), if_neg hp]

lemma count_pagesFor (pages : List (String × String)) (p : String × String) :
    (pagesFor pages p.1).count p.2 = pages.count p := by
  induction pages with
  | nil => rfl
  | cons q rest ih =>
      rw [pagesFor_cons, List.count_cons, ← ih]
      by_cases hq : q.1 = p.1
      · have hsame : (q.2 == p.2) = (q == p) := by
          rw [Bool.eq_iff_iff, beq_iff_eq, beq_iff_eq, Prod.ext_iff, and_iff_right hq]
        rw [if_pos hq, List.count_cons, hsame]
      · have hne : q ≠ p := fun heq => hq (congrArg Prod.fst heq)
        rw [if_neg hq, beq_false_of_ne hne, if_neg Bool.false_ne_true, Nat.add_zero]

/-! ## Lists in another order -/

/-- A list has the pages of another in a new order, which leaves the pages of each code in the order that
they had. -/
def Reorders (other pages : List (String × String)) : Prop :=
  ∀ code, pagesFor other code = pagesFor pages code

/-- The list that is reordered keeps all its pages and gets no others. -/
lemma Reorders.perm {other pages : List (String × String)} (h : Reorders other pages) :
    other.Perm pages := by
  rw [List.perm_iff_count]
  intro p
  rw [← count_pagesFor, ← count_pagesFor, h p.1]

/-- Only the codes that one of the lists names need to be compared. -/
lemma reorders_iff {other pages : List (String × String)} :
    Reorders other pages ↔
      ∀ code ∈ other.map (·.1) ++ pages.map (·.1), pagesFor other code = pagesFor pages code := by
  refine ⟨fun h code _ => h code, fun h code => ?_⟩
  by_cases hcode : code ∈ other.map (·.1) ++ pages.map (·.1)
  · exact h code hcode
  · rw [List.mem_append, not_or] at hcode
    rw [pagesFor_eq_nil_iff.2 hcode.1, pagesFor_eq_nil_iff.2 hcode.2]

instance (other pages : List (String × String)) : Decidable (Reorders other pages) :=
  decidable_of_iff _ reorders_iff.symm

/-! ## Finding and listing -/

namespace PageTable

/-- **The table of a list finds the last page that the list gives a code.** -/
lemma get?_ofList_eq_getLast? (pages : List (String × String)) (code : String) :
    (ofList pages).get? code = (pagesFor pages code).getLast? :=
  calc (ofList pages).get? code
    _ = pages.reverse.lookup code := get?_ofList pages code
    _ = (pagesFor pages.reverse code).head? := lookup_eq_head?_pagesFor _ _
    _ = (pagesFor pages code).reverse.head? := by rw [pagesFor_reverse]
    _ = (pagesFor pages code).getLast? := List.head?_reverse

lemma isSome_get?_ofList_iff {pages : List (String × String)} {code : String} :
    ((ofList pages).get? code).isSome ↔ code ∈ pages.map (·.1) := by
  rw [get?_ofList_eq_getLast?, List.getLast?_isSome, ne_eq, pagesFor_eq_nil_iff, not_not]

/-- **Lists that give every code the same last page make the same table.** -/
lemma ofList_eq_of_getLast? {other pages : List (String × String)}
    (h : ∀ code, (pagesFor other code).getLast? = (pagesFor pages code).getLast?) :
    ofList other = ofList pages := by
  refine eq_of_get? fun code => ?_
  rw [get?_ofList_eq_getLast?, get?_ofList_eq_getLast?, h]

/-- **The languages of a table are the codes of its list**, each of them once. -/
lemma perm_languages_ofList (pages : List (String × String)) :
    (ofList pages).languages.Perm (pages.map (·.1)).dedup := by
  refine (List.perm_ext_iff_of_nodup (nodup_languages _) (List.nodup_dedup _)).2 fun code => ?_
  rw [mem_languages_iff, isSome_get?_ofList_iff, List.mem_dedup]

end PageTable

/-! ## The site map -/

namespace SiteMap

/-- **A site map shows the last page that its list gives each code.**

* A list makes a site map exactly if it names the fallback language.
* The page of a code is the last one that the list gives it; a code that the list does not name has none.
* The languages are the codes that the list names, each of them once, in ascending order of their code
  points, which is also that of their bytes.  The size is their number.
* A location is in use exactly if it is the page of some code, so a page that a later one replaced is not.
* The page to fall back to is the page of the fallback language.  There is always one, so it does not
  matter what would be shown otherwise, and the site map is never empty.
* If the pages of each code stay in their order, a list in another order makes the same site map, or none
  either. -/
theorem shows_last_pages (pages : List (String × String)) :
    ((ofTable? (.ofList pages)).isSome ↔ "en" ∈ pages.map (·.1)) ∧
    (∀ m, ofTable? (.ofList pages) = some m →
      (∀ code, m.get? code = (pagesFor pages code).getLast?) ∧
      m.languages.Perm (pages.map (·.1)).dedup ∧
      m.languages.Pairwise (· < ·) ∧
      m.languages.Pairwise (fun a b => Text.Utf8.encode a.toList < Text.Utf8.encode b.toList) ∧
      m.size = m.languages.length ∧
      (∀ url, m.hasLocation url = true ↔ ∃ code, m.get? code = some url) ∧
      m.get? "en" = some m.fallback ∧
      (∀ default, (m.get? "en").getD default = m.fallback) ∧
      m.isEmpty = false) ∧
    (∀ other, Reorders other pages →
      other.Perm pages ∧ ofTable? (.ofList other) = ofTable? (.ofList pages)) := by
  refine ⟨?_, fun m hm => ?_, fun other h => ?_⟩
  · exact isSome_ofTable?_iff.trans PageTable.isSome_get?_ofList_iff
  · have htable : m.table = .ofList pages := table_of_ofTable? hm
    have hfallback : m.get? "en" = some m.fallback := m.get?_fallbackLanguage
    have hsorted : m.languages.Pairwise (· < ·) := m.table.pairwise_languages
    -- only the look-up and the names of the languages depend on the list; the rest holds of all site maps
    refine ⟨fun code => ?_, ?_, hsorted, hsorted.imp Text.Utf8.encode_lt_encode,
      m.size_eq_length_languages, fun url => m.hasLocation_iff, hfallback, fun default => ?_,
      m.isEmpty_eq_false⟩
    · rw [get?, htable, PageTable.get?_ofList_eq_getLast?]
    · rw [languages, htable]
      exact PageTable.perm_languages_ofList pages
    · rw [hfallback, Option.getD_some]
  · have htable : PageTable.ofList other = .ofList pages :=
      PageTable.ofList_eq_of_getLast? fun code => by rw [h code]
    exact ⟨h.perm, by rw [htable]⟩

/-- Two pages are replaced by later ones, and a page moves to the front. -/
theorem shows_last_pages_replaced :
    let pages := [("fr", "/f/"), ("en", "/e/"), ("é", "/e/"), ("", ""), ("en", "/en/"), ("fr", "/fr/")]
    let other := [("", ""), ("en", "/e/"), ("fr", "/f/"), ("en", "/en/"), ("é", "/e/"), ("fr", "/fr/")]
    Reorders other pages ∧
    ∃ m, ofTable? (.ofList pages) = some m ∧ ofTable? (.ofList other) = some m ∧
      m.get? "fr" = some "/fr/" ∧ m.get? "de" = none ∧ m.fallback = "/en/" ∧
      m.languages = ["", "en", "fr", "é"] ∧ m.size = 4 ∧ m.isEmpty = false ∧
      m.hasLocation "/e/" = true ∧ m.hasLocation "/f/" = false := by
  intro pages other
  have hreorders : Reorders other pages := by decide
  obtain ⟨hnames, hshows, horder⟩ := shows_last_pages pages
  obtain ⟨m, hm⟩ := Option.isSome_iff_exists.1 (hnames.2 (by decide))
  obtain ⟨hget, hperm, hsorted, -, hsize, hlocation, hfallback, -, hempty⟩ := hshows m hm
  have hlanguages : m.languages = ["", "en", "fr", "é"] := by
    have hcodes : (pages.map (·.1)).dedup.Perm ["", "en", "fr", "é"] := by decide
    exact (hperm.trans hcodes).eq_of_pairwise
      (fun _ _ _ _ hab hba => absurd hba (String.lt_asymm hab)) hsorted (by decide)
  refine ⟨hreorders, m, hm, (horder other hreorders).2.trans hm, (hget "fr").trans (by decide),
    (hget "de").trans (by decide), ?_, hlanguages, by rw [hsize, hlanguages]; rfl, hempty,
    (hlocation "/e/").2 ⟨"é", (hget "é").trans (by decide)⟩, ?_⟩
  · have hpage : (pagesFor pages "en").getLast? = some "/en/" := by decide
    rwa [← hget, hfallback, Option.some.injEq] at hpage
  · -- a code that had this page would be one of the languages, and their pages are known
    rw [← Bool.not_eq_true, hlocation]
    rintro ⟨code, hpage⟩
    have hcode : code ∈ m.languages := PageTable.mem_languages_iff.2 (Option.isSome_of_eq_some hpage)
    rw [hget] at hpage
    have hother : ∀ code ∈ m.languages, (pagesFor pages code).getLast? ≠ some "/f/" := by
      rw [hlanguages]
      decide
    exact hother code hcode hpage

end SiteMap

end Signpost
