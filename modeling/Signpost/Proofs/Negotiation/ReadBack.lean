import Mathlib
import Signpost.Proofs.Negotiation.Choice
import Signpost.Proofs.Negotiation.Grammar

/-!
# Reading headers that were written

**Well-formed headers.**  What a header of the grammar states is what its entries are meant to say,
under either policy: the tag as it stands, and the weight nearest to the factor.

**Ranked lists.**  The preferences that any header leads to can be written as such a header, for their
tags are tags of the grammar and every weight has a factor with its exact value.  However they are
written, reading them leads to the same list: the list names no tag twice and is in order already, so
ranking it again changes nothing (`Ranking.ordered_ofList_ordered`).

**`read_headerText`** says both.
-/

namespace Signpost.Negotiation

open Binary64 Text

/-! ## Ranking again -/

namespace Ranking

/-- Preferences with different tags are collected as they stand. -/
lemma preferences_ofList_of_nodup {ps : List Preference} (h : (ps.map (·.tag)).Nodup) :
    (ofList ps).preferences = ps := by
  induction ps using List.reverseRecOn with
  | nil => rfl
  | append_singleton ps p ih =>
      rw [List.map_append, List.nodup_append] at h
      obtain ⟨hnodup, -, hdiffer⟩ := h
      have hnew : p.tag ∉ ps.map (·.tag) := fun hmem => hdiffer _ hmem p.tag (by simp) rfl
      have hlookup : (ofList ps).positions.lookup p.tag = none := by
        rw [Option.eq_none_iff_forall_ne_some]
        intro i hi
        have hcollects := collects_ofList ps
        exact hnew (hcollects.mem_tags_iff.1 (List.mem_of_getElem? ((hcollects.indexed _ i).1 hi)))
      have hstep : ofList (ps ++ [p]) = (ofList ps).insert p := by
        rw [ofList, List.foldl_append]
        rfl
      rw [hstep, insert, hlookup, ih hnodup]

/-- **Ranking a ranked list changes nothing.** -/
theorem ordered_ofList_ordered (ps : List Preference) :
    (ofList (ofList ps).ordered).ordered = (ofList ps).ordered := by
  have hsame := preferences_ofList_of_nodup (nodup_ordered ps)
  have hsorted : (ofList ps).ordered.Pairwise fun p q => decide (q.weight ≤ p.weight) = true := by
    refine (pairwise_ordered ps).imp fun {p q} hpq => decide_eq_true ?_
    rcases hpq with hlt | ⟨heq, -⟩
    · exact Nat.le_of_lt hlt
    · rw [heq]
      exact Nat.le_refl _
  show (ofList (ofList ps).ordered).preferences.mergeSort _ = _
  rw [hsame]
  exact List.mergeSort_of_pairwise hsorted

end Ranking

/-! ## Writing preferences -/

/-- The entry has the tag of the preference, and a factor with the exact value of its weight. -/
def Entry.Writes (e : Entry) (p : Preference) : Prop :=
  String.ofList e.tag.chars = p.tag ∧ e.factor.value = p.weight.value

lemma Entry.preference_of_writes {e : Entry} {p : Preference} (h : e.Writes p) :
    e.preference = p := by
  obtain ⟨htag, hvalue⟩ := h
  rw [preference, htag, Factor.weight_eq_of_value hvalue]

/-- Written preferences are meant as they are. -/
lemma map_preference_of_writes {entries : List Entry} {ps : List Preference}
    (h : List.Forall₂ Entry.Writes entries ps) : entries.map Entry.preference = ps := by
  induction h with
  | nil => rfl
  | cons hwrites _ ih => rw [List.map_cons, ih, Entry.preference_of_writes hwrites]

/-- A preference with a tag of the grammar can be written with its factor. -/
lemma Entry.exists_writes {p : Preference} (h : ∃ t : LanguageTag, String.ofList t.chars = p.tag) :
    ∃ e : Entry, e.clause.isSome = true ∧ e.Writes p := by
  obtain ⟨t, ht⟩ := h
  obtain ⟨f, hf⟩ := p.weight.exists_factor
  have noBlanks : Blanks := ⟨[], by simp⟩
  exact ⟨⟨noBlanks, t, some ⟨noBlanks, noBlanks, false, noBlanks, noBlanks, f⟩, noBlanks⟩, rfl, ht,
    hf⟩

lemma exists_writes_of_forall {ps : List Preference}
    (h : ∀ p ∈ ps, ∃ t : LanguageTag, String.ofList t.chars = p.tag) :
    ∃ entries : List Entry, (∀ e ∈ entries, e.clause.isSome = true) ∧
      List.Forall₂ Entry.Writes entries ps := by
  induction ps with
  | nil => exact ⟨[], by simp, .nil⟩
  | cons p ps ih =>
      rw [List.forall_mem_cons] at h
      obtain ⟨e, hclause, he⟩ := Entry.exists_writes h.1
      obtain ⟨entries, hclauses, hentries⟩ := ih h.2
      exact ⟨e :: entries, List.forall_mem_cons.2 ⟨hclause, hclauses⟩, .cons he hentries⟩

/-- The tags that a header leads to are tags of the grammar. -/
lemma exists_languageTag_of_mem_ofHeader {policy : Policy} {header : String} {p : Preference}
    (h : p ∈ Preference.ofHeader policy header) :
    ∃ t : LanguageTag, String.ofList t.chars = p.tag := by
  have hweight := Ranking.mem_ordered.1 h
  have htag := isSome_lastWeight?_iff.1 (Option.isSome_of_eq_some hweight)
  obtain ⟨q, hq, heq⟩ := List.mem_map.1 htag
  obtain ⟨t, ht⟩ := exists_languageTag_of_mem_statedIn hq
  exact ⟨t, ht.trans heq⟩

/-- **What is written is read back**, under both policies.

* The weight that an entry is meant to say is the nearest one to its factor.
* A header of the grammar states the preferences of its entries, in their order, and leads to their
  ranking.
* The ranked preferences of any header can be written as a header of the grammar, with a factor for
  each, and every header that writes them leads to the same ranked preferences. -/
theorem read_headerText :
    (∀ e : Entry, e.preference.weight.IsNearest e.factor.value) ∧
    (∀ (policy : Policy) (elements : List Element),
      stated policy (some (headerText elements)) =
        (elements.filterMap Element.entry?).map Entry.preference ∧
      Preference.ofHeader policy (headerText elements) =
        (Ranking.ofList ((elements.filterMap Element.entry?).map Entry.preference)).ordered) ∧
    (∀ (policy : Policy) (header : String),
      (∃ entries : List Entry, (∀ e ∈ entries, e.clause.isSome = true) ∧
        List.Forall₂ Entry.Writes entries (Preference.ofHeader policy header)) ∧
      ∀ (policy' : Policy) (elements : List Element),
        List.Forall₂ Entry.Writes (elements.filterMap Element.entry?)
          (Preference.ofHeader policy header) →
        Preference.ofHeader policy' (headerText elements) =
          Preference.ofHeader policy header) := by
  have hread : ∀ (policy : Policy) (elements : List Element),
      Preference.ofHeader policy (headerText elements) =
        (Ranking.ofList ((elements.filterMap Element.entry?).map Entry.preference)).ordered :=
    fun policy elements =>
      congrArg (fun ps => (Ranking.ofList ps).ordered) (statedIn_headerText policy elements)
  refine ⟨fun e => e.factor.isNearest_weight,
    fun policy elements => ⟨statedIn_headerText policy elements, hread policy elements⟩,
    fun policy header => ⟨?_, fun policy' elements hwrites => ?_⟩⟩
  · exact exists_writes_of_forall fun p hp => exists_languageTag_of_mem_ofHeader hp
  · rw [hread, map_preference_of_writes hwrites]
    exact Ranking.ordered_ofList_ordered _

/-- A tag that is named twice, and one without a factor: written with an empty element, blanks and a
capital letter, the ranked preferences are read back under the other policy. -/
theorem read_headerText_repeated_tag :
    let noBlanks : Blanks := ⟨[], by simp⟩
    let space : Blanks := ⟨[' '], by simp [isAsciiBlank]⟩
    let en : LanguageTag := ⟨⟨['e', 'n'], by simp, by decide, by decide⟩, none⟩
    let de : LanguageTag := ⟨⟨['d', 'e'], by simp, by decide, by decide⟩, none⟩
    let quarter : Factor := .fraction ['2', '5'] (by simp) (by decide)
    let elements : List Element :=
      [.entry ⟨noBlanks, en, some ⟨noBlanks, noBlanks, false, noBlanks, noBlanks, .one⟩, noBlanks⟩,
        .empty space,
        .entry ⟨space, de, some ⟨space, space, true, space, space, quarter⟩, space⟩]
    headerText elements = "en;q=1, , de ; Q = 0.25 " ∧
      Preference.ofHeader .ignore (headerText elements) =
        Preference.ofHeader .drop "de;q=0.3,fr;q=x,en,de;q=0.25" := by
  intro noBlanks space en de quarter elements
  have hranked : Preference.ofHeader .drop "de;q=0.3,fr;q=x,en,de;q=0.25" =
      [⟨"en", .one⟩, ⟨"de", ⟨0x3FD0000000000000, by decide⟩⟩] := by
    cbv
  have hquarter : quarter.value = Weight.value ⟨0x3FD0000000000000, by decide⟩ := by
    have hnumeral : numeral 10 ['2', '5'] = 25 := by decide
    have hsignificand : significand 0x3FD0000000000000 = 2 ^ 52 := by decide
    have hplaces : places 0x3FD0000000000000 = 54 := by decide
    rw [Factor.value, Weight.value, Binary64.value, hnumeral, hsignificand, hplaces]
    norm_num
  refine ⟨by decide, (read_headerText.2.2 .drop _).2 .ignore elements ?_⟩
  rw [hranked]
  exact .cons ⟨by decide, Weight.value_one.symm⟩ (.cons ⟨by decide, hquarter⟩ .nil)

end Signpost.Negotiation
