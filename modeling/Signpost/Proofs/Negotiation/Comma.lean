import Mathlib.Tactic.Common
import Signpost.Negotiation.Preference
import Signpost.Proofs.Negotiation.Token

/-!
# Commas end every token

No part of a token reaches across a comma: a tag holds letters and a hyphen, blanks and factor
clauses hold no comma, and a factor that is taken as it stands ends before the next one.  What comes
after a comma therefore changes nothing about the tokens before it, and the search for tokens begins
afresh behind it.

**Inert characters.**  Most of this is true of every character that is no sign of a token, no letter,
digit or blank (`Inert`).  Only a factor that is taken as it stands goes on across such a character,
unless it is a comma.  `Policy.Ends` tells which characters end every token.

**One equation.**  `tokens_append_of_ends` says so for one character, and everything else follows from it:
`tokens_intercalate` for a text that is joined by commas, and `comma_induction` to lead what is said
of any text back to texts without commas.
-/

namespace Signpost.Negotiation

open Signpost.Text

/-! ## Pieces of a text before a character -/

section Lists

variable {α : Type} {p : α → Bool} {c : α}

/-- A run of a class ends before a character outside the class. -/
lemma takeWhile_append_cons_of_neg (hc : p c = false) (a b : List α) :
    (a ++ c :: b).takeWhile p = a.takeWhile p := by
  induction a with
  | nil => simp [hc]
  | cons x a ih => rw [List.cons_append, List.takeWhile_cons, List.takeWhile_cons, ih]

lemma dropWhile_append_cons_of_neg (hc : p c = false) (a b : List α) :
    (a ++ c :: b).dropWhile p = a.dropWhile p ++ c :: b := by
  induction a with
  | nil => simp [hc]
  | cons x a ih =>
      rw [List.cons_append, List.dropWhile_cons, List.dropWhile_cons, ih]
      split <;> rfl

/-- So does a run of no more than `n` characters. -/
lemma takeWhile_take_append_cons_of_neg (hc : p c = false) (n : ℕ) (a b : List α) :
    ((a ++ c :: b).take n).takeWhile p = (a.take n).takeWhile p := by
  induction a generalizing n with
  | nil => cases n <;> simp [hc]
  | cons x a ih =>
      cases n with
      | zero => rfl
      | succ n =>
          rw [List.cons_append, List.take_succ_cons, List.take_succ_cons, List.takeWhile_cons,
            List.takeWhile_cons, ih]

/-- What is read at the head of a text with another character in it lies before this character. -/
lemma exists_of_append_cons_eq_cons {a b rest : List α} {d : α} (hne : d ≠ c)
    (h : a ++ c :: b = d :: rest) : ∃ a', a = d :: a' ∧ a' ++ c :: b = rest := by
  rcases List.append_eq_cons_iff.1 h with ⟨-, heq⟩ | ⟨a', ha, hrest⟩
  · exact absurd (List.cons.inj heq).1 hne.symm
  · exact ⟨a', ha, hrest.symm⟩

end Lists

/-! ## Inert characters -/

/-- A character that is no part of a token, unless a factor is taken as it stands. -/
structure Inert (c : Char) : Prop where
  isAlpha : c.isAlpha = false
  isDigit : c.isDigit = false
  isAsciiBlank : isAsciiBlank c = false
  not_sign : c ∉ ['-', ';', '=', '.']

/-- A character that ends every token.  A factor that is taken as it stands is ended by a comma only. -/
structure Policy.Ends (policy : Policy) (c : Char) : Prop where
  inert : Inert c
  comma : policy = .drop → c = ','

lemma Inert.ne {c d : Char} (h : Inert c) (hd : d ∈ ['-', ';', '=', '.']) : c ≠ d := by
  rintro rfl
  exact h.not_sign hd

lemma inert_comma : Inert ',' := by
  constructor <;> decide

lemma Policy.ends_comma (policy : Policy) : policy.Ends ',' :=
  ⟨inert_comma, fun _ => rfl⟩

lemma Inert.ends {c : Char} (h : Inert c) : Policy.ignore.Ends c :=
  ⟨h, nofun⟩

/-! ## The parts of a token before an inert character -/

section Parts

variable {c : Char} (hc : Inert c) (a b : List Char)
include hc

lemma subtag_append_inert : subtag (a ++ c :: b) = subtag a :=
  takeWhile_take_append_cons_of_neg hc.isAlpha 8 a b

lemma regionSuffix_append_inert : regionSuffix (a ++ c :: b) = regionSuffix a := by
  have hne : ∀ d : Char, d ≠ '-' → ∀ rest, regionSuffix (d :: rest) = [] := by
    intro d hd rest
    rw [regionSuffix]
    rintro rest heq
    exact hd (List.cons.inj heq).1
  cases a with
  | nil => exact hne c (hc.ne (by simp)) b
  | cons d a =>
      by_cases hd : d = '-'
      · rw [hd, List.cons_append, regionSuffix, subtag_append_inert hc, regionSuffix]
      · rw [List.cons_append, hne d hd, hne d hd]

lemma leadingTag_append_inert : leadingTag (a ++ c :: b) = leadingTag a := by
  have hlen : (subtag a).length ≤ a.length := (subtag_isPrefix a).length_le
  rw [leadingTag, subtag_append_inert hc, List.drop_append_of_le_length hlen,
    regionSuffix_append_inert hc, leadingTag]

lemma drop_leadingTag_append_inert : (a ++ c :: b).drop (leadingTag (a ++ c :: b)).length =
    a.drop (leadingTag a).length ++ c :: b := by
  rw [leadingTag_append_inert hc, List.drop_append_of_le_length (leadingTag_isPrefix a).length_le]

lemma skipBlanks_append_inert : skipBlanks (a ++ c :: b) = skipBlanks a ++ c :: b :=
  dropWhile_append_cons_of_neg hc.isAsciiBlank a b

omit hc in
lemma after?_append_inert {accepts : Char → Bool} (h : accepts c = false) :
    after? accepts (a ++ c :: b) = (after? accepts a).map (· ++ c :: b) := by
  cases a with
  | nil => simp [after?, h]
  | cons d a =>
      rw [List.cons_append, after?, after?]
      split <;> rfl

lemma clauseBody?_append_inert :
    clauseBody? (a ++ c :: b) = (clauseBody? a).map (· ++ c :: b) := by
  have hletter : (decide (c = 'q') || decide (c = 'Q')) = false := by
    have hne : c ≠ 'q' ∧ c ≠ 'Q' := by
      constructor <;> rintro rfl <;> exact absurd hc.isAlpha (by decide)
    simpa using hne
  simp only [clauseBody?, skipBlanks_append_inert hc, Option.bind_eq_bind]
  rw [after?_append_inert _ _ (decide_eq_false (hc.ne (by simp))), Option.bind_map, Option.map_bind]
  congr 1
  funext afterSemicolon
  rw [Function.comp_apply, Function.comp_apply, skipBlanks_append_inert hc,
    after?_append_inert _ _ hletter, Option.bind_map, Option.map_bind]
  congr 1
  funext afterLetter
  rw [Function.comp_apply, Function.comp_apply, skipBlanks_append_inert hc,
    after?_append_inert _ _ (decide_eq_false (hc.ne (by simp)))]

/-- More text behind what has been read. -/
def withMore {α : Type} (more : List Char) (p : α × List Char) : α × List Char :=
  (p.1, p.2 ++ more)

lemma leadingFactor?_append_inert :
    leadingFactor? (a ++ c :: b) = (leadingFactor? a).map (withMore (c :: b)) := by
  have hdigit : ∀ d : Char, d.isDigit = true → d ≠ c := by
    rintro d hd rfl
    exact absurd hd (by simp [hc.isDigit])
  fun_cases leadingFactor? a with
  | case1 rest => rfl
  | case2 rest hdigits =>
      have hmore : (rest ++ c :: b).takeWhile Char.isDigit = [] := by
        rw [takeWhile_append_cons_of_neg hc.isDigit, hdigits]
      rw [List.cons_append, List.cons_append, leadingFactor?, hmore]
      rfl
  | case3 rest hdigits =>
      rw [List.cons_append, List.cons_append, leadingFactor?,
        takeWhile_append_cons_of_neg hc.isDigit, dropWhile_append_cons_of_neg hc.isDigit]
      split
      · contradiction
      · rfl
  | case4 _ hone hzero =>
      refine leadingFactor?_eq_none (fun rest heq => ?_) fun rest heq => ?_
      · obtain ⟨a', ha, -⟩ := exists_of_append_cons_eq_cons (hdigit '1' (by decide)) heq
        exact hone a' ha
      · obtain ⟨a', ha, hrest⟩ := exists_of_append_cons_eq_cons (hdigit '0' (by decide)) heq
        obtain ⟨a'', ha', -⟩ := exists_of_append_cons_eq_cons (hc.ne (by simp)).symm hrest
        exact hzero a'' (by rw [ha, ha'])

end Parts

/-! ## Tokens -/

section Tokens

variable {policy : Policy} {c : Char} (hc : policy.Ends c) (a b : List Char)
include hc

lemma Policy.factor?_append_of_ends :
    policy.factor? (a ++ c :: b) = (policy.factor? a).map (withMore (c :: b)) := by
  cases policy with
  | ignore =>
      rw [factor?, skipBlanks_append_inert hc.inert, leadingFactor?_append_inert hc.inert, factor?]
  | drop =>
      obtain rfl : c = ',' := hc.comma rfl
      rw [factor?, takeWhile_append_cons_of_neg (by decide),
        dropWhile_append_cons_of_neg (by decide)]
      rfl

/-- The token at the head of a text is not changed by what comes after a character that ends it. -/
lemma token?_append_of_ends :
    token? policy (a ++ c :: b) = (token? policy a).map (withMore (c :: b)) := by
  rw [token?, drop_leadingTag_append_inert hc.inert, leadingTag_append_inert hc.inert, token?]
  split
  · rfl
  · dsimp only
    rw [clauseBody?_append_inert hc.inert, Option.bind_map]
    cases clauseBody? (a.drop (leadingTag a).length) with
    | none => simp [withMore, skipBlanks_append_inert hc.inert]
    | some body =>
        rw [Option.bind_some, Option.bind_some, Function.comp_apply, Policy.factor?_append_of_ends hc]
        cases policy.factor? body with
        | none => simp [withMore, skipBlanks_append_inert hc.inert]
        | some p => rfl

/-- **What ends every token separates.**  The tokens of a text with such a character in it are those
before the character and those after it. -/
theorem tokens_append_of_ends : tokens policy (a ++ c :: b) = tokens policy a ++ tokens policy b := by
  induction a using tokens.induct policy with
  | case1 cs t rest htoken hlt ih =>
      have hmore : token? policy (cs ++ c :: b) = some (t, rest ++ c :: b) := by
        rw [token?_append_of_ends hc, htoken]
        rfl
      rw [tokens_of_token? hmore, tokens_of_token? htoken, ih, List.cons_append]
  | case2 htoken =>
      rw [List.nil_append, tokens_nil, List.nil_append]
      exact tokens_cons_of_token? (token?_cons_of_isAlpha_eq_false policy hc.inert.isAlpha b)
  | case3 d cs htoken ih =>
      have hmore : token? policy (d :: cs ++ c :: b) = none := by
        rw [token?_append_of_ends hc, htoken]
        rfl
      rw [List.cons_append] at hmore ⊢
      rw [tokens_cons_of_token? hmore, tokens_cons_of_token? htoken, ih]

end Tokens

/-- **Commas separate.**  The tokens of a text with a comma in it are those before the comma and
those after it. -/
theorem tokens_append_comma (policy : Policy) (a b : List Char) :
    tokens policy (a ++ ',' :: b) = tokens policy a ++ tokens policy b :=
  tokens_append_of_ends policy.ends_comma a b

/-- The tokens of texts that are joined by commas, with or without blanks behind the commas. -/
lemma tokens_intercalate (policy : Policy) {blanks : List Char}
    (hblanks : ∀ c ∈ blanks, isAsciiBlank c = true) (pieces : List (List Char)) :
    tokens policy ((',' :: blanks).intercalate pieces) = pieces.flatMap (tokens policy) := by
  induction pieces with
  | nil => simp
  | cons piece rest ih =>
      cases rest with
      | nil => simp
      | cons next more =>
          rw [List.intercalate_cons_cons, List.flatMap_cons, ← ih, List.append_assoc,
            List.cons_append, tokens_append_comma, tokens_append_of_blanks hblanks]

/-- A property of texts holds of every text if it holds of those without a comma, and passes from the
text after the first comma to the whole text. -/
theorem comma_induction {P : List Char → Prop} (piece : ∀ cs, ',' ∉ cs → P cs)
    (append : ∀ a b, ',' ∉ a → P b → P (a ++ ',' :: b)) (cs : List Char) : P cs := by
  induction hlen : cs.length using Nat.strong_induction_on generalizing cs with
  | _ n ih =>
      by_cases hcomma : ',' ∈ cs
      · obtain ⟨a, b, rfl, ha⟩ := List.eq_append_cons_of_mem hcomma
        have hlt : b.length < n := by
          rw [← hlen, List.length_append, List.length_cons]
          omega
        exact append a b ha (ih b.length hlt b rfl)
      · exact piece cs hcomma

/-! ## Preferences -/

/-- The preferences that the tokens of a text state. -/
def statedIn (policy : Policy) (cs : List Char) : List Preference :=
  (tokens policy cs).filterMap (·.preference? policy)

/-- A token states its preference, unless the policy discards it. -/
lemma statedIn_of_token? {policy : Policy} {cs rest : List Char} {t : Token}
    (h : token? policy cs = some (t, rest)) :
    statedIn policy cs = (t.preference? policy).toList ++ statedIn policy rest := by
  rw [statedIn, tokens_of_token? h, List.filterMap_cons]
  cases t.preference? policy <;> rfl

/-- Where no tag begins, nothing is stated. -/
lemma statedIn_cons_of_leadingTag {c : Char} {cs : List Char} (h : leadingTag (c :: cs) = [])
    (policy : Policy) : statedIn policy (c :: cs) = statedIn policy cs := by
  rw [statedIn, tokens_cons_of_token? (if_pos h), statedIn]

/-- A tag without a factor clause has the full weight, and the search goes on after the blanks. -/
lemma statedIn_of_no_clause {cs : List Char} (htag : leadingTag cs ≠ [])
    (hclause : clauseBody? (cs.drop (leadingTag cs).length) = none) (policy : Policy) :
    statedIn policy cs = ⟨String.ofList (leadingTag cs), .one⟩ ::
      statedIn policy (skipBlanks (cs.drop (leadingTag cs).length)) := by
  rw [statedIn_of_token? (token?_of_no_factor htag (by rw [hclause, Option.bind_none]))]
  cases policy <;> rfl

@[simp] lemma statedIn_nil (policy : Policy) : statedIn policy [] = [] := by
  rw [statedIn, tokens_nil, List.filterMap_nil]

lemma statedIn_append_of_ends {policy : Policy} {c : Char} (hc : policy.Ends c) (a b : List Char) :
    statedIn policy (a ++ c :: b) = statedIn policy a ++ statedIn policy b := by
  rw [statedIn, tokens_append_of_ends hc, List.filterMap_append]
  rfl

lemma statedIn_append_comma (policy : Policy) (a b : List Char) :
    statedIn policy (a ++ ',' :: b) = statedIn policy a ++ statedIn policy b :=
  statedIn_append_of_ends policy.ends_comma a b

lemma statedIn_intercalate (policy : Policy) {blanks : List Char}
    (hblanks : ∀ c ∈ blanks, isAsciiBlank c = true) (pieces : List (List Char)) :
    statedIn policy ((',' :: blanks).intercalate pieces) = pieces.flatMap (statedIn policy) := by
  rw [statedIn, tokens_intercalate policy hblanks, List.filterMap_flatMap]
  rfl

end Signpost.Negotiation
