import Mathlib.Tactic.Common
import Mathlib.Tactic.IntervalCases
import Signpost.Negotiation.Token
import Signpost.Proofs.Text.Blank
import Signpost.Proofs.Weight

/-!
# How a token lies in its text

The parts that a token is read from are pieces of the text, one after the other: a tag and what
comes after it make up the text, and so do a factor and what comes after it.

**The search.**  `tokens_of_token?` and `tokens_cons_of_token?` are its two steps.  It finds nothing
in blanks (`tokens_append_of_blanks`).
-/

namespace Signpost.Negotiation

open Signpost.Text

/-! ## Signs -/

lemma after?_eq_some_iff {d : Char} {cs rest : List Char} :
    after? (· = d) cs = some rest ↔ cs = d :: rest := by
  cases cs with
  | nil => simp [after?]
  | cons c cs => by_cases hc : c = d <;> simp [after?, hc]

lemma after?_eq_none_iff {d : Char} {cs : List Char} :
    after? (· = d) cs = none ↔ ∀ rest, cs ≠ d :: rest := by
  simp only [Option.eq_none_iff_forall_ne_some, ne_eq, after?_eq_some_iff]

lemma after?_isSuffix {accepts : Char → Bool} {cs rest : List Char}
    (h : after? accepts cs = some rest) : rest <:+ cs := by
  cases cs with
  | nil => cases h
  | cons c cs =>
      rw [after?] at h
      split at h
      · rw [← Option.some.inj h]
        exact List.suffix_cons c cs
      · cases h

lemma skipBlanks_isSuffix (cs : List Char) : skipBlanks cs <:+ cs :=
  List.dropWhile_suffix _

/-- What comes after an equals sign is the end of the text. -/
lemma clauseBody?_isSuffix {cs body : List Char} (h : clauseBody? cs = some body) :
    body <:+ cs := by
  simp only [clauseBody?, Option.bind_eq_bind, Option.bind_eq_some_iff] at h
  obtain ⟨afterSemicolon, hsemicolon, afterLetter, hletter, hequals⟩ := h
  calc body <:+ skipBlanks afterLetter := after?_isSuffix hequals
    _ <:+ afterLetter := skipBlanks_isSuffix _
    _ <:+ skipBlanks afterSemicolon := after?_isSuffix hletter
    _ <:+ afterSemicolon := skipBlanks_isSuffix _
    _ <:+ skipBlanks cs := after?_isSuffix hsemicolon
    _ <:+ cs := skipBlanks_isSuffix _

lemma clauseBody?_drop_subset {cs body : List Char} {n : ℕ}
    (h : clauseBody? (cs.drop n) = some body) : body ⊆ cs :=
  List.Subset.trans (clauseBody?_isSuffix h).subset (List.drop_subset n cs)

/-! ## Tags -/

lemma subtag_isPrefix (cs : List Char) : subtag cs <+: cs :=
  (List.takeWhile_prefix _).trans (List.take_prefix _ _)

lemma regionSuffix_isPrefix (cs : List Char) : regionSuffix cs <+: cs := by
  unfold regionSuffix
  split
  · next rest =>
    split
    · exact List.nil_prefix
    · exact List.cons_prefix_cons.2 ⟨rfl, subtag_isPrefix rest⟩
  · exact List.nil_prefix

/-- The tag is the beginning of the text. -/
lemma leadingTag_isPrefix (cs : List Char) : leadingTag cs <+: cs := by
  unfold leadingTag
  split
  · exact List.nil_prefix
  · have hsplit : subtag cs ++ cs.drop (subtag cs).length = cs :=
      List.prefix_iff_eq_append.1 (subtag_isPrefix cs)
    have hregion := (List.prefix_append_right_inj (subtag cs)).2
      (regionSuffix_isPrefix (cs.drop (subtag cs).length))
    rwa [hsplit] at hregion

/-! ## Factors -/

/-- A well-formed factor and what comes after it make up the text. -/
lemma append_of_leadingFactor? {cs : List Char} {p : List Char × List Char}
    (h : leadingFactor? cs = some p) : p.1 ++ p.2 = cs := by
  unfold leadingFactor? at h
  split at h
  · cases h; rfl
  · next rest =>
    split at h
    · cases h
    · cases h
      exact congrArg ('0' :: '.' :: ·) List.takeWhile_append_dropWhile
  · cases h

/-- What is read at the head of a text is a factor. -/
lemma exists_factor_of_leadingFactor? {cs : List Char} {p : List Char × List Char}
    (h : leadingFactor? cs = some p) : ∃ f : Factor, f.chars = p.1 := by
  unfold leadingFactor? at h
  split at h
  · cases h
    exact ⟨.one, rfl⟩
  · split at h
    · cases h
    · next hdigits =>
      cases h
      exact ⟨.fraction _ (fun _ hc => List.mem_takeWhile_imp hc) hdigits, rfl⟩
  · cases h

/-- **A factor is found at the head of a text** if only blanks come after it. -/
lemma leadingFactor?_append (f : Factor) {blanks : List Char}
    (h : ∀ c ∈ blanks, isBlank c = true) :
    leadingFactor? (f.chars ++ blanks) = some (f.chars, blanks) := by
  cases f with
  | one => rfl
  | fraction digits isDigit ne_nil =>
      have hstop : blanks.takeWhile Char.isDigit = [] ∧ blanks.dropWhile Char.isDigit = blanks := by
        cases blanks with
        | nil => exact ⟨rfl, rfl⟩
        | cons c blanks => simp [isDigit_of_isBlank (h c List.mem_cons_self)]
      have htake : (digits ++ blanks).takeWhile Char.isDigit = digits := by
        rw [List.takeWhile_append_of_pos isDigit, hstop.1, List.append_nil]
      have hdrop : (digits ++ blanks).dropWhile Char.isDigit = blanks := by
        rw [List.dropWhile_append_of_pos isDigit, hstop.2]
      show leadingFactor? ('0' :: '.' :: (digits ++ blanks)) = _
      rw [leadingFactor?, htake, hdrop]
      split
      · exact absurd rfl ne_nil
      · rfl

/-- A factor begins in one of two ways. -/
lemma leadingFactor?_eq_none {cs : List Char} (hone : ∀ rest, cs ≠ '1' :: rest)
    (hzero : ∀ rest, cs ≠ '0' :: '.' :: rest) : leadingFactor? cs = none := by
  unfold leadingFactor?
  split
  · next rest => exact absurd rfl (hone rest)
  · next rest => exact absurd rfl (hzero rest)
  · rfl

/-- No factor begins with a blank. -/
lemma leadingFactor?_of_isAsciiBlank {c : Char} {cs : List Char} (h : isAsciiBlank c = true) :
    leadingFactor? (c :: cs) = none := by
  refine leadingFactor?_eq_none (fun rest heq => ?_) fun rest heq => ?_
  · cases heq
    exact absurd h (by decide)
  · cases heq
    exact absurd h (by decide)

/-! ## The search -/

/-- A token with a factor ends behind the factor. -/
lemma token?_of_factor {policy : Policy} {cs : List Char} {p : List Char × List Char}
    (htag : leadingTag cs ≠ [])
    (hfactor : (clauseBody? (cs.drop (leadingTag cs).length)).bind policy.factor? = some p) :
    token? policy cs = some (⟨leadingTag cs, some p.1⟩, p.2) := by
  rw [token?, if_neg htag]
  dsimp only
  rw [hfactor]

/-- A token without one ends behind the blanks after the tag. -/
lemma token?_of_no_factor {policy : Policy} {cs : List Char} (htag : leadingTag cs ≠ [])
    (hfactor : (clauseBody? (cs.drop (leadingTag cs).length)).bind policy.factor? = none) :
    token? policy cs =
      some (⟨leadingTag cs, none⟩, skipBlanks (cs.drop (leadingTag cs).length)) := by
  rw [token?, if_neg htag]
  dsimp only
  rw [hfactor]

/-- There is a token where there is a tag. -/
lemma leadingTag_ne_nil_of_token? {policy : Policy} {cs rest : List Char} {t : Token}
    (h : token? policy cs = some (t, rest)) : leadingTag cs ≠ [] := by
  intro hnil
  rw [token?, if_pos hnil] at h
  cases h

lemma leadingTag_eq_nil_of_token? {policy : Policy} {cs : List Char}
    (h : token? policy cs = none) : leadingTag cs = [] := by
  by_contra htag
  cases hfactor : (clauseBody? (cs.drop (leadingTag cs).length)).bind policy.factor? with
  | none =>
      rw [token?_of_no_factor htag hfactor] at h
      cases h
  | some p =>
      rw [token?_of_factor htag hfactor] at h
      cases h

/-- Where a token begins, it is found, and the search goes on after it. -/
lemma tokens_of_token? {policy : Policy} {cs rest : List Char} {t : Token}
    (h : token? policy cs = some (t, rest)) : tokens policy cs = t :: tokens policy rest := by
  rw [tokens]
  split
  · next h' =>
    rw [h] at h'
    cases h'
    rfl
  · next h' =>
    rw [h] at h'
    cases h'

/-- Where no token begins, the search goes on one character further. -/
lemma tokens_cons_of_token? {policy : Policy} {c : Char} {cs : List Char}
    (h : token? policy (c :: cs) = none) : tokens policy (c :: cs) = tokens policy cs := by
  rw [tokens]
  split
  · next h' =>
    rw [h] at h'
    cases h'
  · rfl

@[simp] lemma tokens_nil (policy : Policy) : tokens policy [] = [] := by
  rw [tokens]
  rfl

/-- No blank is a letter. -/
lemma isAlpha_of_isAsciiBlank {c : Char} (h : isAsciiBlank c = true) : c.isAlpha = false := by
  simp only [isAsciiBlank, Bool.or_eq_true, decide_eq_true_eq, Bool.and_eq_true] at h
  rcases h with rfl | ⟨h9, h13⟩
  · decide
  · rw [← Char.ofNat_toNat c]
    interval_cases c.toNat <;> decide

/-- A token begins with a letter. -/
lemma token?_cons_of_isAlpha_eq_false (policy : Policy) {c : Char} (h : c.isAlpha = false)
    (cs : List Char) : token? policy (c :: cs) = none := by
  have htag : leadingTag (c :: cs) = [] := by
    simp [leadingTag, subtag, h]
  rw [token?, if_pos htag]

/-- What holds no letter adds no token in front of a text. -/
lemma tokens_append_of_isAlpha_eq_false (policy : Policy) {run : List Char}
    (h : ∀ c ∈ run, c.isAlpha = false) (cs : List Char) :
    tokens policy (run ++ cs) = tokens policy cs := by
  induction run with
  | nil => rfl
  | cons c run ih =>
      rw [List.forall_mem_cons] at h
      rw [List.cons_append,
        tokens_cons_of_token? (token?_cons_of_isAlpha_eq_false policy h.1 _), ih h.2]

/-- Blanks in front of a text add no token. -/
lemma tokens_append_of_blanks {policy : Policy} {blanks : List Char}
    (h : ∀ c ∈ blanks, isAsciiBlank c = true) (cs : List Char) :
    tokens policy (blanks ++ cs) = tokens policy cs :=
  tokens_append_of_isAlpha_eq_false policy (fun c hc => isAlpha_of_isAsciiBlank (h c hc)) cs

end Signpost.Negotiation
