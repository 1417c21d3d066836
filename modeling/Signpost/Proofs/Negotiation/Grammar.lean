import Mathlib.Tactic.Common
import Signpost.Proofs.Negotiation.Comma

/-!
# Well-formed language headers

What a language header is meant to look like: elements between commas, each of them empty or a tag
with or without a factor, and ASCII blanks wherever two parts meet.

**The grammar.**  Its parts are types whose values are well formed, and `chars` is the text of each of
them.  `headerText` puts elements together.

**Reading.**  `statedIn_entry` says that both policies read an entry as it is meant.  It follows the
text: the tag is found (`leadingTag_append`), its clause is found (`clauseBody?_append`), and
the factor is (`Policy.exists_factor?`).

**Tags.**  The other way around, every tag that is found in any text is one of the grammar
(`exists_languageTag_of_mem_statedIn`).
-/

namespace Signpost.Negotiation

open Signpost.Text

/-! ## The grammar -/

/-- A run of ASCII blanks, which may be empty. -/
structure Blanks where
  chars : List Char
  isAsciiBlank : ∀ c ∈ chars, isAsciiBlank c = true

/-- One to eight letters. -/
structure Subtag where
  chars : List Char
  isAlpha : ∀ c ∈ chars, c.isAlpha = true
  ne_nil : chars ≠ []
  length_le : chars.length ≤ 8

/-- A subtag, possibly followed by a hyphen and a second one. -/
structure LanguageTag where
  language : Subtag
  region : Option Subtag

def LanguageTag.chars : LanguageTag → List Char
  | ⟨language, none⟩ => language.chars
  | ⟨language, some region⟩ => language.chars ++ '-' :: region.chars

/-- A semicolon, the letter `q` in one of the two cases, an equals sign and a factor. -/
structure FactorClause where
  beforeSemicolon : Blanks
  beforeLetter : Blanks
  capital : Bool
  beforeEquals : Blanks
  beforeFactor : Blanks
  factor : Factor

def FactorClause.chars (c : FactorClause) : List Char :=
  c.beforeSemicolon.chars ++ ';' :: (c.beforeLetter.chars ++ (if c.capital then 'Q' else 'q') ::
    (c.beforeEquals.chars ++ '=' :: (c.beforeFactor.chars ++ c.factor.chars)))

/-- A tag with or without a factor clause. -/
structure Entry where
  before : Blanks
  tag : LanguageTag
  clause : Option FactorClause
  after : Blanks

namespace Entry

def clauseChars (e : Entry) : List Char :=
  match e.clause with
  | none => []
  | some c => c.chars

def chars (e : Entry) : List Char :=
  e.before.chars ++ (e.tag.chars ++ (e.clauseChars ++ e.after.chars))

/-- The factor of an entry; it is `1` if none is written. -/
def factor (e : Entry) : Factor :=
  match e.clause with
  | none => .one
  | some c => c.factor

/-- What an entry is meant to say. -/
def preference (e : Entry) : Preference := ⟨String.ofList e.tag.chars, e.factor.weight⟩

end Entry

/-- What may stand between two commas. -/
inductive Element where
  | empty (blanks : Blanks)
  | entry (e : Entry)

def Element.chars : Element → List Char
  | empty blanks => blanks.chars
  | entry e => e.chars

def Element.entry? : Element → Option Entry
  | empty _ => none
  | entry e => some e

/-- The header with these elements. -/
def headerText (elements : List Element) : String :=
  String.ofList ([','].intercalate (elements.map Element.chars))

/-! ## Blanks -/

lemma skipBlanks_append_cons (blanks : Blanks) {c : Char} (hc : isAsciiBlank c = false)
    (rest : List Char) : skipBlanks (blanks.chars ++ c :: rest) = c :: rest := by
  rw [skipBlanks, List.dropWhile_append_of_pos blanks.isAsciiBlank,
    List.dropWhile_cons_of_neg (by simp [hc])]

lemma skipBlanks_chars (blanks : Blanks) : skipBlanks blanks.chars = [] :=
  List.dropWhile_eq_nil_iff.2 blanks.isAsciiBlank

/-- Blanks state nothing. -/
lemma statedIn_append_blanks (policy : Policy) (blanks : Blanks) (cs : List Char) :
    statedIn policy (blanks.chars ++ cs) = statedIn policy cs := by
  rw [statedIn, tokens_append_of_blanks blanks.isAsciiBlank, statedIn]

lemma statedIn_blanks (policy : Policy) (blanks : Blanks) : statedIn policy blanks.chars = [] := by
  rw [← List.append_nil blanks.chars, statedIn_append_blanks, statedIn_nil]

/-! ## Tags -/

/-- The text does not begin with anything that could go on a tag. -/
def EndsTag (rest : List Char) : Prop := ∀ c ∈ rest.head?, c.isAlpha = false ∧ c ≠ '-'

lemma endsTag_blanks_append (blanks : Blanks) {rest : List Char} (h : EndsTag rest) :
    EndsTag (blanks.chars ++ rest) := by
  obtain ⟨chars, hblanks⟩ := blanks
  cases chars with
  | nil => exact h
  | cons b chars =>
      intro c hc
      have hb : isAsciiBlank c = true := by
        rw [← Option.some.inj hc]
        exact hblanks b List.mem_cons_self
      refine ⟨isAlpha_of_isAsciiBlank hb, ?_⟩
      rintro rfl
      exact absurd hb (by decide)

/-- Behind the tag of an entry there are blanks, a semicolon, or nothing. -/
lemma Entry.endsTag (e : Entry) : EndsTag (e.clauseChars ++ e.after.chars) := by
  have hnil : EndsTag [] := by simp [EndsTag]
  rw [clauseChars]
  cases e.clause with
  | none =>
      show EndsTag e.after.chars
      rw [← List.append_nil e.after.chars]
      exact endsTag_blanks_append e.after hnil
  | some c =>
      show EndsTag (c.chars ++ e.after.chars)
      rw [FactorClause.chars, List.append_assoc]
      refine endsTag_blanks_append c.beforeSemicolon ?_
      intro d hd
      rw [← Option.some.inj hd]
      decide

/-- A subtag is found again. -/
lemma subtag_append (s : Subtag) {rest : List Char} (h : ∀ c ∈ rest.head?, c.isAlpha = false) :
    subtag (s.chars ++ rest) = s.chars := by
  have hstop : ∀ n, (rest.take n).takeWhile Char.isAlpha = [] := by
    intro n
    cases rest with
    | nil => simp
    | cons c rest => cases n <;> simp [h c rfl]
  rw [subtag, List.take_append, List.take_of_length_le s.length_le,
    List.takeWhile_append_of_pos s.isAlpha, hstop, List.append_nil]

/-- **A tag is found again** at the head of a text that does not go on with it. -/
lemma leadingTag_append (t : LanguageTag) {rest : List Char} (h : EndsTag rest) :
    leadingTag (t.chars ++ rest) = t.chars := by
  have hletters : ∀ c ∈ rest.head?, c.isAlpha = false := fun c hc => (h c hc).1
  obtain ⟨language, region⟩ := t
  cases region with
  | none =>
      have hregion : regionSuffix rest = [] := by
        cases rest with
        | nil => rfl
        | cons c rest =>
            rw [regionSuffix]
            intro rest' heq
            exact (h c rfl).2 (List.cons.inj heq).1
      show leadingTag (language.chars ++ rest) = language.chars
      rw [leadingTag, subtag_append language hletters, if_neg language.ne_nil, List.drop_left,
        hregion, List.append_nil]
  | some region =>
      have hhyphen : ∀ c ∈ ('-' :: (region.chars ++ rest)).head?, c.isAlpha = false := by
        intro c hc
        rw [← Option.some.inj hc]
        decide
      show leadingTag (language.chars ++ '-' :: region.chars ++ rest) = _
      rw [List.append_assoc, List.cons_append, leadingTag, subtag_append language hhyphen,
        if_neg language.ne_nil, List.drop_left, regionSuffix, subtag_append region hletters,
        if_neg region.ne_nil, LanguageTag.chars]

lemma leadingTag_append_ne_nil (t : LanguageTag) {rest : List Char} (h : EndsTag rest) :
    leadingTag (t.chars ++ rest) ≠ [] := by
  rw [leadingTag_append t h]
  obtain ⟨language, region⟩ := t
  cases region with
  | none => exact language.ne_nil
  | some region => exact List.append_ne_nil_of_left_ne_nil language.ne_nil _

lemma drop_leadingTag_append (t : LanguageTag) {rest : List Char} (h : EndsTag rest) :
    (t.chars ++ rest).drop (leadingTag (t.chars ++ rest)).length = rest := by
  rw [leadingTag_append t h, List.drop_left]

/-! ## Factors -/

/-- **A factor clause is found again.** -/
lemma clauseBody?_append (c : FactorClause) (rest : List Char) :
    clauseBody? (c.chars ++ rest) =
      some (c.beforeFactor.chars ++ (c.factor.chars ++ rest)) := by
  have hsemicolon : isAsciiBlank ';' = false := by decide
  have hequals : isAsciiBlank '=' = false := by decide
  have hletter : isAsciiBlank (if c.capital then 'Q' else 'q') = false := by
    cases c.capital <;> decide
  have hafterLetter : ∀ more, after? (fun d => d = 'q' || d = 'Q')
      ((if c.capital then 'Q' else 'q') :: more) = some more := by
    intro more
    cases c.capital <;> rfl
  simp only [FactorClause.chars, List.append_assoc, List.cons_append, clauseBody?,
    Option.bind_eq_bind]
  rw [skipBlanks_append_cons _ hsemicolon, after?_eq_some_iff.2 rfl, Option.bind_some,
    skipBlanks_append_cons _ hletter, hafterLetter, Option.bind_some,
    skipBlanks_append_cons _ hequals, after?_eq_some_iff.2 rfl]

/-- Blanks are no factor clause. -/
lemma clauseBody?_blanks (blanks : Blanks) : clauseBody? blanks.chars = none := by
  rw [clauseBody?, skipBlanks_chars]
  rfl

/-- A factor has digits and a point in it. -/
lemma isDigit_or_eq_of_mem_factor {f : Factor} {c : Char} (h : c ∈ f.chars) :
    c.isDigit = true ∨ c = '.' := by
  cases f with
  | one =>
      rw [List.mem_singleton.1 h]
      exact Or.inl (by decide)
  | fraction digits isDigit ne_nil =>
      rw [Factor.chars, List.mem_cons, List.mem_cons] at h
      rcases h with rfl | rfl | h
      · exact Or.inl (by decide)
      · exact Or.inr rfl
      · exact Or.inl (isDigit c h)

lemma isBlank_eq_false_of_mem_factor {f : Factor} {c : Char} (h : c ∈ f.chars) :
    isBlank c = false := by
  by_contra hblank
  rw [Bool.not_eq_false] at hblank
  rcases isDigit_or_eq_of_mem_factor h with hdigit | rfl
  · rw [isDigit_of_isBlank hblank] at hdigit
    cases hdigit
  · exact absurd hblank (by decide)

/-- There is no comma in a factor between blanks. -/
lemma ne_comma_of_mem (before after : Blanks) (f : Factor) :
    ∀ c ∈ before.chars ++ (f.chars ++ after.chars), decide (c ≠ ',') = true := by
  intro c hc
  rw [decide_eq_true_eq]
  rintro rfl
  rw [List.mem_append, List.mem_append] at hc
  rcases hc with hc | hc | hc
  · exact absurd (before.isAsciiBlank _ hc) (by decide)
  · exact absurd (isDigit_or_eq_of_mem_factor hc) (by decide)
  · exact absurd (after.isAsciiBlank _ hc) (by decide)

/-- **A factor between blanks is read under either policy**, and what is left of the text states
nothing. -/
lemma Policy.exists_factor? (policy : Policy) (before after : Blanks) (f : Factor) :
    ∃ p, policy.factor? (before.chars ++ (f.chars ++ after.chars)) = some p ∧
      (∀ tag, Token.weight? policy ⟨tag, some p.1⟩ = some f.weight) ∧
      statedIn policy p.2 = [] := by
  have hblank : ∀ blanks : Blanks, ∀ c ∈ blanks.chars, isBlank c = true := fun blanks c hc =>
    isBlank_of_isAsciiBlank (blanks.isAsciiBlank c hc)
  cases policy with
  | ignore =>
      have hskip : skipBlanks (before.chars ++ (f.chars ++ after.chars)) =
          f.chars ++ after.chars := by
        cases f <;> exact skipBlanks_append_cons before (by decide) _
      refine ⟨(f.chars, after.chars), ?_, fun tag => ?_, statedIn_blanks .ignore after⟩
      · rw [factor?, hskip]
        exact leadingFactor?_append f (hblank after)
      · show some ((Weight.ofFactor? f.chars).getD .one) = some f.weight
        rw [Weight.ofFactor?_chars, Option.getD_some]
  | drop =>
      have hcomma := ne_comma_of_mem before after f
      refine ⟨(before.chars ++ (f.chars ++ after.chars), []), ?_, fun tag => ?_,
        statedIn_nil .drop⟩
      · rw [factor?, List.takeWhile_eq_self_iff.2 hcomma, List.dropWhile_eq_nil_iff.2 hcomma]
      · show Weight.ofFactor? (trim (before.chars ++ (f.chars ++ after.chars))) = some f.weight
        rw [trim_append (hblank before) (fun c hc => isBlank_eq_false_of_mem_factor hc)
          (hblank after)]
        exact Weight.ofFactor?_chars f

/-! ## Entries -/

/-- A tag that stands alone is read with the full weight. -/
lemma statedIn_tag (policy : Policy) (t : LanguageTag) (after : Blanks)
    (hends : EndsTag after.chars) :
    statedIn policy (t.chars ++ after.chars) = [⟨String.ofList t.chars, .one⟩] := by
  have hdrop := drop_leadingTag_append t hends
  have hclause : clauseBody?
      ((t.chars ++ after.chars).drop (leadingTag (t.chars ++ after.chars)).length) = none := by
    rw [hdrop, clauseBody?_blanks]
  rw [statedIn_of_no_clause (leadingTag_append_ne_nil t hends) hclause, leadingTag_append t hends,
    List.drop_left, skipBlanks_chars, statedIn_nil]

/-- A tag with a factor clause is read with the weight of the factor. -/
lemma statedIn_tag_clause (policy : Policy) (t : LanguageTag) (c : FactorClause) (after : Blanks)
    (hends : EndsTag (c.chars ++ after.chars)) :
    statedIn policy (t.chars ++ (c.chars ++ after.chars)) =
      [⟨String.ofList t.chars, c.factor.weight⟩] := by
  obtain ⟨p, hfactor, hweight, hrest⟩ := policy.exists_factor? c.beforeFactor after c.factor
  have htoken : token? policy (t.chars ++ (c.chars ++ after.chars)) =
      some (⟨t.chars, some p.1⟩, p.2) := by
    rw [token?_of_factor (leadingTag_append_ne_nil t hends), leadingTag_append t hends]
    rw [drop_leadingTag_append t hends, clauseBody?_append, Option.bind_some, hfactor]
  rw [statedIn_of_token? htoken, hrest, Token.preference?, hweight]
  rfl

/-- **An entry is read as it is meant**, under either policy. -/
theorem statedIn_entry (policy : Policy) (e : Entry) :
    statedIn policy e.chars = [e.preference] := by
  have hends := e.endsTag
  rw [Entry.chars, statedIn_append_blanks]
  obtain ⟨before, tag, clause, after⟩ := e
  cases clause with
  | none => exact statedIn_tag policy tag after hends
  | some c => exact statedIn_tag_clause policy tag c after hends

/-- **A header is read as it is meant**, element by element. -/
theorem statedIn_headerText (policy : Policy) (elements : List Element) :
    statedIn policy (headerText elements).toList =
      (elements.filterMap Element.entry?).map Entry.preference := by
  have hnone : ∀ c ∈ ([] : List Char), isAsciiBlank c = true := by simp
  rw [headerText, String.toList_ofList, statedIn_intercalate policy hnone]
  induction elements with
  | nil => rfl
  | cons element rest ih =>
      rw [List.map_cons, List.flatMap_cons, ih, List.filterMap_cons]
      cases element with
      | empty blanks => exact congrArg (· ++ _) (statedIn_blanks policy blanks)
      | entry e => exact congrArg (· ++ _) (statedIn_entry policy e)

/-! ## Tags of any text -/

lemma exists_subtag {cs : List Char} (h : subtag cs ≠ []) : ∃ s : Subtag, s.chars = subtag cs := by
  have hlen : (subtag cs).length ≤ 8 :=
    (List.takeWhile_prefix _).length_le.trans (List.length_take_le 8 cs)
  exact ⟨⟨subtag cs, fun c hc => List.mem_takeWhile_imp hc, h, hlen⟩, rfl⟩

/-- A tag that is found is one of the grammar. -/
lemma exists_languageTag {cs : List Char} (h : leadingTag cs ≠ []) :
    ∃ t : LanguageTag, t.chars = leadingTag cs := by
  unfold leadingTag at h ⊢
  split at h
  · exact absurd rfl h
  · next hlanguage =>
    rw [if_neg hlanguage]
    obtain ⟨language, hchars⟩ := exists_subtag hlanguage
    unfold regionSuffix
    split
    · next rest =>
      split
      · exact ⟨⟨language, none⟩, by rw [List.append_nil]; exact hchars⟩
      · next hregion =>
        obtain ⟨region, hregionChars⟩ := exists_subtag hregion
        exact ⟨⟨language, some region⟩, by rw [LanguageTag.chars, hchars, hregionChars]⟩
    · exact ⟨⟨language, none⟩, by rw [List.append_nil]; exact hchars⟩

lemma tag_of_token? {policy : Policy} {cs rest : List Char} {t : Token}
    (h : token? policy cs = some (t, rest)) : t.tag = leadingTag cs := by
  have htag := leadingTag_ne_nil_of_token? h
  cases hfactor : (clauseBody? (cs.drop (leadingTag cs).length)).bind policy.factor? with
  | none =>
      rw [token?_of_no_factor htag hfactor] at h
      cases h
      rfl
  | some p =>
      rw [token?_of_factor htag hfactor] at h
      cases h
      rfl

/-- **Every tag that a text states is one of the grammar.** -/
theorem exists_languageTag_of_mem_statedIn {policy : Policy} {cs : List Char} {p : Preference}
    (h : p ∈ statedIn policy cs) : ∃ t : LanguageTag, String.ofList t.chars = p.tag := by
  induction cs using tokens.induct policy with
  | case1 cs t rest htoken _ ih =>
      rw [statedIn_of_token? htoken, List.mem_append] at h
      rcases h with h | h
      · obtain ⟨l, hl⟩ := exists_languageTag (leadingTag_ne_nil_of_token? htoken)
        rw [Option.mem_toList, Token.preference?, Option.map_eq_some_iff] at h
        obtain ⟨w, -, rfl⟩ := h
        exact ⟨l, by rw [hl, tag_of_token? htoken]⟩
      · exact ih h
  | case2 => simp at h
  | case3 c cs htoken ih =>
      rw [statedIn_cons_of_leadingTag (leadingTag_eq_nil_of_token? htoken)] at h
      exact ih h

end Signpost.Negotiation
