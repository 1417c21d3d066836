/-!
# Landing pages by language

* `PageTable` — landing pages by language code, each code once, in ascending order of the codes.
  A page added for a code that has one already replaces it.
* `SiteMap` — a page table that has a page for the fallback language, so that every visitor can
  be sent somewhere.

The order of the codes is the order of their characters' code points.
-/

namespace Signpost

/-! ## Page tables -/

/-- Adds a page to a list of pages in ascending order of the codes. -/
def insertPage (code url : String) : List (String × String) → List (String × String)
  | [] => [(code, url)]
  | (c, u) :: rest =>
    if code < c then (code, url) :: (c, u) :: rest
    else if code = c then (code, url) :: rest
    else (c, u) :: insertPage code url rest

/-- The codes of a table with one more page. -/
theorem mem_insertPage {code url : String} {pages : List (String × String)} {p : String × String}
    (h : p ∈ insertPage code url pages) : p = (code, url) ∨ p ∈ pages := by
  induction pages with
  | nil => simpa [insertPage] using h
  | cons q rest ih =>
    simp only [insertPage] at h
    split at h
    · simpa using h
    · split at h <;> simp only [List.mem_cons] at h ⊢
      · rcases h with h | h
        · exact .inl h
        · exact .inr (.inr h)
      · rcases h with h | h
        · exact .inr (.inl h)
        · rcases ih h with h | h
          · exact .inl h
          · exact .inr (.inr h)

/-- Adding a page keeps the codes in strictly ascending order. -/
theorem pairwise_insertPage (code url : String) {pages : List (String × String)}
    (h : pages.Pairwise (·.1 < ·.1)) : (insertPage code url pages).Pairwise (·.1 < ·.1) := by
  induction pages with
  | nil => simp [insertPage]
  | cons q rest ih =>
    obtain ⟨hq, hrest⟩ := List.pairwise_cons.1 h
    simp only [insertPage]
    split
    · next hlt =>
      refine List.pairwise_cons.2 ⟨fun p hp => ?_, h⟩
      rcases List.mem_cons.1 hp with rfl | hp
      · exact hlt
      · exact String.lt_trans hlt (hq p hp)
    · next hnlt =>
      split
      · next heq =>
        exact List.pairwise_cons.2 ⟨fun p hp => by simpa [heq] using hq p hp, hrest⟩
      · next hne =>
        refine List.pairwise_cons.2 ⟨fun p hp => ?_, ih hrest⟩
        rcases mem_insertPage hp with rfl | hp
        · exact Std.lt_of_le_of_ne (String.not_lt.1 hnlt) (Ne.symm hne)
        · exact hq p hp

/-- Landing pages by language code. -/
structure PageTable where
  /-- The pages, each with its code. -/
  pages : List (String × String)
  /-- The codes ascend, so none occurs twice. -/
  sorted : pages.Pairwise (·.1 < ·.1)
  deriving DecidableEq

namespace PageTable

/-- The table without pages. -/
def empty : PageTable := ⟨[], .nil⟩

/-- Adds a page, in place of the one that the code may have. -/
def insert (t : PageTable) (code url : String) : PageTable :=
  ⟨insertPage code url t.pages, pairwise_insertPage code url t.sorted⟩

/-- The table of a list of pages; of two pages for one code the later counts. -/
def ofList (pages : List (String × String)) : PageTable :=
  pages.foldl (fun t p => t.insert p.1 p.2) empty

/-- The page of a code. -/
def get? (t : PageTable) (code : String) : Option String :=
  t.pages.lookup code

/-- The codes in ascending order. -/
def languages (t : PageTable) : List String :=
  t.pages.map (·.1)

end PageTable

/-! ## Site maps -/

/-- The language whose page is shown when no preference can be met. -/
def fallbackLanguage : String := "en"

/-- Landing pages by language code, one of them for the fallback language. -/
structure SiteMap where
  /-- The pages. -/
  table : PageTable
  /-- There is a page to fall back to. -/
  has_fallback : (table.get? fallbackLanguage).isSome

namespace SiteMap

/-- The site map of a page table; nothing if the fallback language has no page. -/
def ofTable? (table : PageTable) : Option SiteMap :=
  if h : (table.get? fallbackLanguage).isSome then some ⟨table, h⟩ else none

/-- The page of a code. -/
def get? (m : SiteMap) (code : String) : Option String :=
  m.table.get? code

/-- The page of the fallback language. -/
def fallback (m : SiteMap) : String :=
  (m.table.get? fallbackLanguage).get m.has_fallback

/-- The codes in ascending order. -/
def languages (m : SiteMap) : List String :=
  m.table.languages

/-- The number of languages. -/
def size (m : SiteMap) : Nat :=
  m.table.pages.length

/-- Whether there are no languages at all. -/
def isEmpty (m : SiteMap) : Bool :=
  m.table.pages.isEmpty

/-- Whether the text is the page of some language. -/
def hasLocation (m : SiteMap) (location : String) : Bool :=
  m.table.pages.any fun p => p.2 = location

end SiteMap

end Signpost
