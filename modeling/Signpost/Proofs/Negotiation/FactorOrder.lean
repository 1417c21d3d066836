import Mathlib.Tactic.Common
import Signpost.Proofs.Negotiation.Choice
import Signpost.Proofs.Negotiation.Token

/-!
# The order of the factors

A factor has any number of digits, and its weight is a double.  Rounding may make the weights of two
factors equal, but it never puts them in the other order (`Weight.IsNearest.le_of_le`).

**Reading.**  Every factor that the search finds is read (`exists_chars_of_mem_tokens`), so the full
weight stands for a missing factor and for nothing else.  A header therefore names tags with factors
(`named`), and what it states is the same with every factor rounded (`stated_eq_map_named`).

**Ranking.**  The sort compares bits.  `totalRank` is the order of all doubles in which a sign bit comes
before everything else; weights have none, and among them it is the order of the values.  So a tag that
is ranked before another has a factor at least as great where it is named last, unless the two factors
have the same weight (`pairwise_ofHeader`).

**`never_misorders`** says all this.
-/

namespace Signpost

namespace Factor

/-- The factor that a text writes. -/
def ofChars? : List Char → Option Factor
  | ['1'] => some .one
  | '0' :: '.' :: digits =>
    if h : digits.all Char.isDigit = true ∧ digits ≠ [] then
      some (.fraction digits (List.all_eq_true.1 h.1) h.2)
    else none
  | _ => none

lemma ofChars?_eq_some_iff {cs : List Char} {f : Factor} :
    ofChars? cs = some f ↔ f.chars = cs := by
  constructor
  · intro h
    unfold ofChars? at h
    split at h
    · cases h
      rfl
    · split at h
      · cases h
        rfl
      · cases h
    · cases h
  · rintro rfl
    cases f with
    | one => rfl
    | fraction digits isDigit ne_nil => exact dif_pos ⟨List.all_eq_true.2 isDigit, ne_nil⟩

lemma ofChars?_chars (f : Factor) : ofChars? f.chars = some f :=
  ofChars?_eq_some_iff.2 rfl

/-- The text is read as the weight of the factor. -/
lemma weight_ofChars? (cs : List Char) : Weight.ofFactor? cs = (ofChars? cs).map weight := by
  cases h : ofChars? cs with
  | none =>
      refine Weight.ofFactor?_eq_none_iff.2 fun f hf => ?_
      rw [ofChars?_eq_some_iff.2 hf.symm] at h
      cases h
  | some f => rw [← ofChars?_eq_some_iff.1 h, Weight.ofFactor?_chars, Option.map_some]

/-- **The weights are in the order of the factors.** -/
lemma weight_le_weight {f g : Factor} (h : f.value ≤ g.value) : f.weight ≤ g.weight :=
  f.isNearest_weight.le_of_le g.isNearest_weight h

/-- It makes no difference how a number is written. -/
lemma weight_eq_weight {f g : Factor} (h : f.value = g.value) : f.weight = g.weight :=
  f.isNearest_weight.unique (h ▸ g.isNearest_weight)

end Factor

namespace Binary64

/-- The place of an encoding in the order of all doubles: those with a sign bit come before zero, the
greater bits first. -/
def totalRank (bits : ℕ) : ℤ := if bits < 2 ^ 63 then bits else 2 ^ 63 - 1 - bits

end Binary64

/-- A weight has no sign bit. -/
lemma Weight.bits_lt (w : Weight) : w.bits < 2 ^ 63 :=
  Nat.lt_of_le_of_lt w.bits_le_one (by decide)

/-- Among weights the order of all doubles is the order of the values. -/
lemma Weight.totalRank_le_totalRank_iff {v w : Weight} :
    Binary64.totalRank v.bits ≤ Binary64.totalRank w.bits ↔ v.value ≤ w.value := by
  rw [Weight.value_le_value_iff, Binary64.totalRank, Binary64.totalRank, if_pos v.bits_lt,
    if_pos w.bits_lt, Int.ofNat_le]
  rfl

namespace Negotiation

open Text

/-! ## Factors that are found -/

/-- **Every factor that is found is one that can be read.** -/
lemma exists_chars_of_mem_tokens {text : List Char} {t : Token} (ht : t ∈ tokens .ignore text)
    {cs : List Char} (hcs : t.factor = some cs) : ∃ f : Factor, f.chars = cs := by
  induction text using tokens.induct .ignore with
  | case1 text t' rest htoken _ ih =>
      rw [tokens_of_token? htoken, List.mem_cons] at ht
      rcases ht with rfl | ht
      · have htag := leadingTag_ne_nil_of_token? htoken
        cases hfactor : (clauseBody? (text.drop (leadingTag text).length)).bind
            Policy.ignore.factor? with
        | none =>
            rw [token?_of_no_factor htag hfactor] at htoken
            cases htoken
            cases hcs
        | some p =>
            rw [token?_of_factor htag hfactor] at htoken
            cases htoken
            cases hcs
            obtain ⟨body, -, hbody⟩ := Option.bind_eq_some_iff.1 hfactor
            exact exists_factor_of_leadingFactor? hbody
      · exact ih ht
  | case2 => simp at ht
  | case3 c text htoken ih =>
      rw [tokens_cons_of_token? htoken] at ht
      exact ih ht

/-- The factor that a token counts with: the full one if it has none.  Nothing if the policy discards
the token. -/
def Token.counted? (policy : Policy) (t : Token) : Option Factor :=
  match policy, t.factor with
  | _, none => some .one
  | .ignore, some cs => Factor.ofChars? cs
  | .drop, some cs => Factor.ofChars? (trim cs)

/-- A token has the weight of the factor that it counts with. -/
lemma weight?_eq_map_counted? {policy : Policy} {text : List Char} {t : Token}
    (ht : t ∈ tokens policy text) : t.weight? policy = (t.counted? policy).map Factor.weight := by
  cases hfactor : t.factor with
  | none => cases policy <;> simp [Token.weight?, Token.counted?, hfactor, Factor.weight]
  | some cs =>
      cases policy with
      | ignore =>
          obtain ⟨f, rfl⟩ := exists_chars_of_mem_tokens ht hfactor
          simp only [Token.weight?, Token.counted?, hfactor, Factor.weight_ofChars?,
            Factor.ofChars?_chars, Option.map_some, Option.getD_some]
      | drop => simp only [Token.weight?, Token.counted?, hfactor, Factor.weight_ofChars?]

/-! ## Tags with their factors -/

/-- The tags that a header names, each with the factor that it counts with there. -/
def named (policy : Policy) (text : String) : List (String × Factor) :=
  (tokens policy text.toList).filterMap fun t =>
    (t.counted? policy).map fun f => (String.ofList t.tag, f)

/-- The factor of a tag where a header names it last. -/
def lastFactor? (policy : Policy) (text : String) (tag : String) : Option Factor :=
  ((named policy text).filter (·.1 = tag)).getLast?.map (·.2)

/-- **What a header states is what it names**, with every factor rounded to its weight. -/
lemma stated_eq_map_named (policy : Policy) (text : String) :
    stated policy (some text) = (named policy text).map fun n => ⟨n.1, n.2.weight⟩ := by
  rw [stated, named, List.map_filterMap]
  refine List.filterMap_congr fun t ht => ?_
  rw [Token.preference?, weight?_eq_map_counted? ht, Option.map_map, Option.map_map]
  rfl

lemma lastWeight?_stated (policy : Policy) (text tag : String) :
    lastWeight? (stated policy (some text)) tag = (lastFactor? policy text tag).map Factor.weight := by
  rw [stated_eq_map_named, lastWeight?, lastFactor?, List.filter_map, List.getLast?_map,
    Option.map_map, Option.map_map]
  rfl

/-- **In the ranked list no tag stands behind one with a lesser factor**, unless the two factors have the
same weight and the other tag is named first. -/
theorem pairwise_ofHeader (policy : Policy) (text : String) :
    (Preference.ofHeader policy text).Pairwise fun p q =>
      ∃ f g, lastFactor? policy text p.tag = some f ∧ lastFactor? policy text q.tag = some g ∧
        p.weight = f.weight ∧ q.weight = g.weight ∧
        (f.value < g.value → f.weight = g.weight ∧
          firstPlace (stated policy (some text)) p.tag <
            firstPlace (stated policy (some text)) q.tag) := by
  have hlast : ∀ p ∈ Preference.ofHeader policy text,
      ∃ f, lastFactor? policy text p.tag = some f ∧ p.weight = f.weight := by
    intro p hp
    have hweight : lastWeight? (stated policy (some text)) p.tag = some p.weight :=
      Ranking.mem_ordered.1 hp
    rw [lastWeight?_stated, Option.map_eq_some_iff] at hweight
    obtain ⟨f, hf, hpf⟩ := hweight
    exact ⟨f, hf, hpf.symm⟩
  refine (Ranking.pairwise_ordered _).imp_of_mem fun {p q} hp hq hprecedes => ?_
  obtain ⟨f, hf, hpf⟩ := hlast p hp
  obtain ⟨g, hg, hqg⟩ := hlast q hq
  refine ⟨f, g, hf, hg, hpf, hqg, fun hless => ?_⟩
  rw [Precedes, hpf, hqg] at hprecedes
  rcases hprecedes with hlt | htie
  · exact absurd (Factor.weight_le_weight hless.le) (Nat.not_le_of_lt hlt)
  · exact htie

/-- **Weights never misorder what a visitor asks for.**

* Under `Policy.ignore` every factor that is found is read, so the full weight never stands for a factor
  that could not be.  Under `Policy.drop` no factor between blanks is lost.
* Every weight is a double from 0 to 1, without a sign.
* A factor has the weight that is nearest to it.  The weights are in the order of the factors, and factors
  with the same value have the same weight, however they are written.  The order of all doubles, by which
  weights are sorted, is the order of their values.
* Of two tags in the ranked list, the second has the greater factor where it is named last only if the
  factors have the same weight and the first tag is named first.  A tag without a factor counts with 1. -/
theorem never_misorders :
    (∀ text, ∀ t ∈ tokens .ignore text, ∀ cs, t.factor = some cs →
      ∃ f : Factor, f.chars = cs ∧ Weight.ofFactor? cs = some f.weight ∧
        t.weight? .ignore = some f.weight) ∧
    (∀ (t : Token) (cs : List Char) (f : Factor), t.factor = some cs → f.chars = trim cs →
      t.weight? .drop = some f.weight) ∧
    (∀ policy text, ∀ p ∈ Preference.ofHeader policy text,
      0 ≤ p.weight.value ∧ p.weight.value ≤ 1 ∧ p.weight.bits < 2 ^ 63) ∧
    (∀ f : Factor, f.weight.IsNearest f.value) ∧
    (∀ f g : Factor, f.value ≤ g.value → f.weight.value ≤ g.weight.value) ∧
    (∀ f g : Factor, f.value = g.value → f.weight = g.weight) ∧
    (∀ v w : Weight, (v ≤ w ↔ Binary64.totalRank v.bits ≤ Binary64.totalRank w.bits) ∧
      (v ≤ w ↔ v.value ≤ w.value)) ∧
    (∀ policy text, (Preference.ofHeader policy text).Pairwise fun p q =>
      ∃ f g, lastFactor? policy text p.tag = some f ∧ lastFactor? policy text q.tag = some g ∧
        p.weight = f.weight ∧ q.weight = g.weight ∧
        (f.value < g.value → f.weight = g.weight ∧
          firstPlace (stated policy (some text)) p.tag <
            firstPlace (stated policy (some text)) q.tag)) := by
  refine ⟨?_, ?_, fun policy text p _ => ⟨p.weight.value_nonneg, p.weight.value_le_one,
    p.weight.bits_lt⟩, Factor.isNearest_weight, ?_, fun f g => Factor.weight_eq_weight, ?_,
    pairwise_ofHeader⟩
  · intro text t ht cs hcs
    obtain ⟨f, rfl⟩ := exists_chars_of_mem_tokens ht hcs
    refine ⟨f, rfl, Weight.ofFactor?_chars f, ?_⟩
    simp only [Token.weight?, hcs, Weight.ofFactor?_chars, Option.getD_some]
  · intro t cs f hcs hf
    simp only [Token.weight?, hcs, ← hf, Weight.ofFactor?_chars]
  · intro f g h
    exact Weight.value_le_value_iff.2 (Factor.weight_le_weight h)
  · intro v w
    exact ⟨Weight.value_le_value_iff.symm.trans Weight.totalRank_le_totalRank_iff.symm,
      Weight.value_le_value_iff.symm⟩

/-- A factor with so many digits that it is rounded to a lesser one, and one that ends in a zero. -/
theorem never_misorders_long_factor :
    let tenth : Factor := .fraction ['1'] (by simp) (by simp)
    let more : Factor := .fraction ('1' :: List.replicate 18 '0' ++ ['1']) (by simp) (by simp)
    let half : Factor := .fraction ['5'] (by simp) (by simp)
    let same : Factor := .fraction ['5', '0'] (by simp) (by simp)
    let text := "it;q=0.1, de;q=0.10000000000000000001, fr;q=0.50"
    tenth.value < more.value ∧ tenth.weight.value ≤ more.weight.value ∧ tenth.weight = more.weight ∧
      half.weight = same.weight ∧
      (lastFactor? .ignore text "de").map Factor.chars = some more.chars ∧
      (∃ f : Factor, f.chars = "0.50".toList ∧
        (⟨"fr".toList, some "0.50".toList⟩ : Token).weight? .ignore = some f.weight) ∧
      (⟨"de".toList, some "\u00a00.5".toList⟩ : Token).weight? .drop = some half.weight := by
  intro tenth more half same text
  have hless : tenth.value < more.value := by
    show (1 : ℚ) / 10 ^ 1 < 10000000000000000001 / 10 ^ 20
    norm_num
  have hsame : half.value = same.value := by
    show (5 : ℚ) / 10 ^ 1 = 50 / 10 ^ 2
    norm_num
  obtain ⟨hignore, hdrop, -, -, hmono, heq, -⟩ := never_misorders
  obtain ⟨f, hf, -, hweight⟩ := hignore text.toList ⟨"fr".toList, some "0.50".toList⟩
    (by decide +kernel) _ rfl
  exact ⟨hless, hmono _ _ hless.le, by decide +kernel, heq _ _ hsame, by decide +kernel,
    ⟨f, hf, hweight⟩, hdrop _ _ half rfl (by decide)⟩

end Negotiation

end Signpost
