import Mathlib
import Signpost.Proofs.Negotiation.Code
import Signpost.Proofs.Negotiation.Grammar
import Signpost.Proofs.Negotiation.Policies

/-!
# Tags with a malformed factor

What a header states that is a tag, `;q=` and any text without a comma.  Both policies read the text if it
is a factor between ASCII blanks.  Otherwise they go different ways.

* `Policy.drop` takes all blanks off the two ends of the text.  What is left has to be a factor.
* `Policy.ignore` takes the ASCII blanks off its beginning.  The longest factor that the rest begins with
  (`Factor.Leads`) is read, whatever comes behind it.

So a malformed text does not always have the tag dropped, and does not always leave it at the full weight.
`states_tag_with_factor` says when, and `not_malformed_alike` has a text for either policy.
-/

namespace Signpost

/-- The factor is the longest that the text begins with. -/
structure Factor.Leads (f : Factor) (cs : List Char) : Prop where
  isPrefix : f.chars <+: cs
  longest : ∀ g : Factor, g.chars <+: cs → g.chars.length ≤ f.chars.length

namespace Negotiation

open Text

/-- The header with a tag and the given text for its factor. -/
def factorHeader (t : LanguageTag) (body : List Char) : String :=
  String.ofList (t.chars ++ ';' :: 'q' :: '=' :: body)

/-- A text without the ASCII blanks at its two ends. -/
def trimAscii (cs : List Char) : List Char :=
  (skipBlanks (skipBlanks cs).reverse).reverse

/-! ## Between ASCII blanks -/

/-- What is cut off a text are ASCII blanks. -/
lemma exists_trimAscii_append (cs : List Char) :
    ∃ before after : Blanks, before.chars ++ (trimAscii cs ++ after.chars) = cs := by
  have hblanks : ∀ ds : List Char, ∀ c ∈ ds.takeWhile isAsciiBlank, isAsciiBlank c = true :=
    fun _ _ hc => List.mem_takeWhile_imp hc
  refine ⟨⟨cs.takeWhile isAsciiBlank, hblanks cs⟩,
    ⟨((skipBlanks cs).reverse.takeWhile isAsciiBlank).reverse, fun c hc =>
      hblanks _ c (List.mem_reverse.1 hc)⟩, ?_⟩
  show cs.takeWhile isAsciiBlank ++ (trimAscii cs ++ _) = cs
  rw [trimAscii, skipBlanks, ← List.reverse_append, List.takeWhile_append_dropWhile,
    List.reverse_reverse, skipBlanks, List.takeWhile_append_dropWhile]

/-- Where all blanks are ASCII blanks, it makes no difference which of them are cut off. -/
lemma trim_eq_trimAscii {cs : List Char} (h : ∀ c ∈ cs, isBlank c = true → isAsciiBlank c = true) :
    trim cs = trimAscii cs := by
  have hstart : skipBlanks cs = trimStart cs := dropWhile_isAsciiBlank h
  have hrest : ∀ c ∈ (trimStart cs).reverse, isBlank c = true → isAsciiBlank c = true := fun c hc =>
    h c ((List.dropWhile_sublist _).subset (List.mem_reverse.1 hc))
  rw [trimAscii, hstart, skipBlanks, dropWhile_isAsciiBlank hrest]
  rfl

/-! ## At the beginning of a text -/

/-- At the head of a text that begins with a factor, a factor is read that is at least as long. -/
lemma exists_leadingFactor?_append (f : Factor) (rest : List Char) :
    ∃ p, leadingFactor? (f.chars ++ rest) = some p ∧ f.chars.length ≤ p.1.length := by
  cases f with
  | one => exact ⟨(['1'], rest), rfl, Nat.le_refl _⟩
  | fraction digits isDigit ne_nil =>
      have htake : (digits ++ rest).takeWhile Char.isDigit =
          digits ++ rest.takeWhile Char.isDigit := List.takeWhile_append_of_pos isDigit
      show ∃ p, leadingFactor? ('0' :: '.' :: (digits ++ rest)) = some p ∧ _
      rw [leadingFactor?, htake]
      split
      · next hnil => exact absurd (List.append_eq_nil_iff.1 hnil).1 ne_nil
      · refine ⟨_, rfl, ?_⟩
        simp [Factor.chars]

/-- **The longest factor is read** at the head of a text. -/
lemma leads_iff {f : Factor} {cs : List Char} :
    f.Leads cs ↔ ∃ rest, leadingFactor? cs = some (f.chars, rest) := by
  constructor
  · intro h
    obtain ⟨rest, rfl⟩ := h.isPrefix
    obtain ⟨p, hp, hlength⟩ := exists_leadingFactor?_append f rest
    obtain ⟨g, hg⟩ := exists_factor_of_leadingFactor? hp
    have hprefix : p.1 <+: f.chars ++ rest := ⟨p.2, append_of_leadingFactor? hp⟩
    have hlongest : p.1.length ≤ f.chars.length := by
      rw [← hg] at hprefix ⊢
      exact h.longest g hprefix
    have hsame : f.chars = p.1 :=
      (List.prefix_of_prefix_length_le h.isPrefix hprefix hlength).eq_of_length_le hlongest
    exact ⟨p.2, by rw [hp, hsame]⟩
  · rintro ⟨rest, hf⟩
    refine ⟨⟨rest, append_of_leadingFactor? hf⟩, fun g hg => ?_⟩
    obtain ⟨more, rfl⟩ := hg
    obtain ⟨p, hp, hlength⟩ := exists_leadingFactor?_append g more
    rw [hf, Option.some.injEq] at hp
    rw [← hp] at hlength
    exact hlength

/-- Without a factor at the head of a text, none is read. -/
lemma leadingFactor?_of_forall_not_prefix {cs : List Char} (h : ∀ f : Factor, ¬ f.chars <+: cs) :
    leadingFactor? cs = none := by
  rw [Option.eq_none_iff_forall_ne_some]
  intro p hp
  obtain ⟨f, hf⟩ := exists_factor_of_leadingFactor? hp
  exact h f ⟨p.2, by rw [hf, append_of_leadingFactor? hp]⟩

lemma clauseWeight_of_leads {f : Factor} {body : List Char} (h : f.Leads (skipBlanks body)) :
    clauseWeight body = f.weight := by
  obtain ⟨rest, hfactor⟩ := leads_iff.1 h
  rw [clauseWeight, Policy.factor?, hfactor, Option.bind_some, Weight.ofFactor?_chars,
    Option.getD_some]

lemma clauseWeight_of_forall_not_prefix {body : List Char}
    (h : ∀ f : Factor, ¬ f.chars <+: skipBlanks body) : clauseWeight body = .one := by
  rw [clauseWeight, Policy.factor?, leadingFactor?_of_forall_not_prefix h]
  rfl

/-! ## The header -/

/-- Nothing is ranked exactly if nothing is stated. -/
lemma ofHeader_eq_nil_iff {policy : Policy} {text : String} :
    Preference.ofHeader policy text = [] ↔ stated policy (some text) = [] := by
  show (Ranking.ofList (stated policy (some text))).ordered = [] ↔ _
  rw [← List.map_eq_nil_iff (f := Preference.tag), List.eq_nil_iff_forall_not_mem]
  simp only [Ranking.mem_map_tag_ordered_iff]
  rw [← List.eq_nil_iff_forall_not_mem, List.map_eq_nil_iff]

section Header

variable (t : LanguageTag) (body : List Char)

lemma endsTag_clause : EndsTag (';' :: 'q' :: '=' :: body) := by
  intro c hc
  rw [← Option.some.inj hc]
  decide

lemma leadingTag_factorHeader : leadingTag (factorHeader t body).toList = t.chars := by
  rw [factorHeader, String.toList_ofList]
  exact leadingTag_append t (endsTag_clause body)

lemma leadingTag_factorHeader_ne_nil : leadingTag (factorHeader t body).toList ≠ [] := by
  rw [factorHeader, String.toList_ofList]
  exact leadingTag_append_ne_nil t (endsTag_clause body)

lemma clauseBody?_factorHeader : clauseBody?
    ((factorHeader t body).toList.drop (leadingTag (factorHeader t body).toList).length) =
      some body := by
  rw [leadingTag_factorHeader, factorHeader, String.toList_ofList, List.drop_left]
  rfl

/-- **Under `Policy.ignore`** the tag is kept, with the weight of what the text begins with. -/
lemma stated_ignore_factorHeader : ∃ more, stated .ignore (some (factorHeader t body)) =
    ⟨String.ofList t.chars, clauseWeight body⟩ :: more := by
  obtain ⟨rest, hrest⟩ := statedIn_ignore_of_clause (leadingTag_factorHeader_ne_nil t body)
    (clauseBody?_factorHeader t body)
  rw [leadingTag_factorHeader] at hrest
  exact ⟨_, hrest⟩

variable {body}

/-- **Under `Policy.drop`** the tag is kept if the whole text is a factor between blanks. -/
lemma stated_drop_factorHeader (hcomma : ',' ∉ body) :
    stated .drop (some (factorHeader t body)) =
      ((Weight.ofFactor? (trim body)).map (Preference.mk (String.ofList t.chars))).toList := by
  have hnone : ',' ∉ (factorHeader t body).toList := by
    rw [factorHeader, String.toList_ofList, List.mem_append, not_or]
    refine ⟨fun hmem => ?_, by simpa using hcomma⟩
    rcases LanguageTag.isAlpha_or_eq_of_mem hmem with h | h
    · exact absurd h (by decide)
    · exact absurd h (by decide)
  have hdrop := statedIn_drop_of_clause hnone (leadingTag_factorHeader_ne_nil t body)
    (clauseBody?_factorHeader t body)
  rwa [leadingTag_factorHeader] at hdrop

/-- A well-formed factor between ASCII blanks is read under either policy. -/
lemma stated_factorHeader_of_trimAscii {f : Factor} (h : trimAscii body = f.chars)
    (policy : Policy) : stated policy (some (factorHeader t body)) =
      [⟨String.ofList t.chars, f.weight⟩] := by
  obtain ⟨before, after, hbody⟩ := exists_trimAscii_append body
  rw [h] at hbody
  let noBlanks : Blanks := ⟨[], by simp⟩
  let c : FactorClause := ⟨noBlanks, noBlanks, false, noBlanks, before, f⟩
  have htext : (factorHeader t body).toList = t.chars ++ (c.chars ++ after.chars) := by
    rw [factorHeader, String.toList_ofList, ← hbody, ← List.append_assoc before.chars]
    rfl
  have hends : EndsTag (c.chars ++ after.chars) := by
    intro d hd
    rw [← Option.some.inj hd]
    decide
  rw [stated, htext]
  exact statedIn_tag_clause policy t c after hends

end Header

/-- **What a tag with a factor states.**

* A well-formed factor between ASCII blanks is read under either policy: nothing but the tag is stated,
  with the weight of the factor.
* Of other texts, those without blanks beyond ASCII have the tag dropped under `Policy.drop`, and nothing
  is left; and those that do not begin with a factor leave the tag at the full weight under
  `Policy.ignore`.
* `Policy.drop` keeps the tag, with the weight of the factor, exactly if the text without all blanks at
  its ends is one.
* `Policy.ignore` gives the tag the weight of the longest factor that the text begins with. -/
theorem states_tag_with_factor (t : LanguageTag) {body : List Char} (hcomma : ',' ∉ body) :
    (∀ f : Factor, trimAscii body = f.chars → ∀ policy,
      stated policy (some (factorHeader t body)) = [⟨String.ofList t.chars, f.weight⟩]) ∧
    ((∀ f : Factor, trimAscii body ≠ f.chars) →
      ((∀ c ∈ body, isBlank c = true → isAsciiBlank c = true) →
        Preference.ofHeader .drop (factorHeader t body) = []) ∧
      ((∀ f : Factor, ¬ f.chars <+: skipBlanks body) →
        ∃ more, stated .ignore (some (factorHeader t body)) =
          ⟨String.ofList t.chars, .one⟩ :: more)) ∧
    (∀ f : Factor, trim body = f.chars →
      stated .drop (some (factorHeader t body)) = [⟨String.ofList t.chars, f.weight⟩]) ∧
    ((∀ f : Factor, trim body ≠ f.chars) →
      Preference.ofHeader .drop (factorHeader t body) = []) ∧
    ∀ f : Factor, f.Leads (skipBlanks body) →
      ∃ more, stated .ignore (some (factorHeader t body)) =
        ⟨String.ofList t.chars, f.weight⟩ :: more := by
  have hdropped : (∀ f : Factor, trim body ≠ f.chars) →
      Preference.ofHeader .drop (factorHeader t body) = [] := by
    intro hnone
    rw [ofHeader_eq_nil_iff, stated_drop_factorHeader t hcomma,
      Weight.ofFactor?_eq_none_iff.2 hnone]
    rfl
  obtain ⟨more, hignore⟩ := stated_ignore_factorHeader t body
  refine ⟨fun f hf => stated_factorHeader_of_trimAscii t hf, ?_, ?_, hdropped, ?_⟩
  · intro hother
    refine ⟨?_, ?_⟩
    · intro hblanks
      refine hdropped fun f => ?_
      rw [trim_eq_trimAscii hblanks]
      exact hother f
    · intro hnone
      refine ⟨more, ?_⟩
      rw [hignore, clauseWeight_of_forall_not_prefix hnone]
  · intro f hf
    rw [stated_drop_factorHeader t hcomma, hf, Weight.ofFactor?_chars]
    rfl
  · intro f hf
    refine ⟨more, ?_⟩
    rw [hignore, clauseWeight_of_leads hf]

/-- A blank before a factor changes nothing; a word behind it has the tag dropped, or is ignored. -/
theorem states_tag_with_factor_and_word :
    let de : LanguageTag := ⟨⟨['d', 'e'], by simp, by decide, by decide⟩, none⟩
    let half : Factor := .fraction ['5'] (by simp) (by simp)
    (∀ policy, stated policy (some (factorHeader de " 0.5".toList)) = [⟨"de", half.weight⟩]) ∧
      Preference.ofHeader .drop (factorHeader de "0.5 fr".toList) = [] ∧
      ∃ more, stated .ignore (some (factorHeader de "0.5 fr".toList)) =
        ⟨"de", half.weight⟩ :: more := by
  intro de half
  have hother : ∀ f : Factor, trim "0.5 fr".toList ≠ f.chars :=
    Weight.ofFactor?_eq_none_iff.1 (by decide)
  have hleads : half.Leads (skipBlanks "0.5 fr".toList) := leads_iff.2 ⟨" fr".toList, rfl⟩
  have hblank : ',' ∉ " 0.5".toList := by decide
  have hword : ',' ∉ "0.5 fr".toList := by decide
  obtain ⟨hread, -⟩ := states_tag_with_factor de hblank
  obtain ⟨-, -, -, hdrop, hignore⟩ := states_tag_with_factor de hword
  exact ⟨hread half (by decide), hdrop hother, hignore half hleads⟩

/-- **The policies do not agree on what is malformed.**  A text with a word behind a factor is no factor,
but the tag does not get the full weight under `Policy.ignore`.  Nor is a text with a blank beyond ASCII
before a factor, but the tag is not dropped under `Policy.drop`. -/
theorem not_malformed_alike :
    let de : LanguageTag := ⟨⟨['d', 'e'], by simp, by decide, by decide⟩, none⟩
    (',' ∉ "0.5 fr".toList ∧ (∀ f : Factor, trimAscii "0.5 fr".toList ≠ f.chars) ∧
      ¬ ∃ more, stated .ignore (some (factorHeader de "0.5 fr".toList)) = ⟨"de", .one⟩ :: more) ∧
    (',' ∉ "\u00a00.5".toList ∧ (∀ f : Factor, trimAscii "\u00a00.5".toList ≠ f.chars) ∧
      Preference.ofHeader .drop (factorHeader de "\u00a00.5".toList) ≠ []) := by
  intro de
  refine ⟨⟨by decide, Weight.ofFactor?_eq_none_iff.1 (by decide), ?_⟩, by decide,
    Weight.ofFactor?_eq_none_iff.1 (by decide), ?_⟩
  · rintro ⟨more, hfull⟩
    obtain ⟨more', hread⟩ := stated_ignore_factorHeader de "0.5 fr".toList
    rw [hread, List.cons.injEq, Preference.mk.injEq] at hfull
    exact absurd hfull.1.2 (by decide)
  · have hcomma : ',' ∉ "\u00a00.5".toList := by decide
    rw [Ne, ofHeader_eq_nil_iff, stated_drop_factorHeader de hcomma]
    decide +kernel

end Negotiation

end Signpost
