import Mathlib
import Signpost.Proofs.Negotiation.Token
import Signpost.Proofs.Pattern

/-!
# The pattern of a token

A token is what the following pattern matches, letters in either case:

* under `Policy.ignore`, `([a-z]{1,8}(-[a-z]{1,8})?)\s*(;\s*q\s*=\s*(1|0\.[0-9]+))?`;
* under `Policy.drop`, the same up to the equals sign, and then `([^,]*)` for the factor.

The search for tokens knows nothing of patterns: it takes letters, blanks and digits as far as they
go and never turns back.  **`map_scan_tokenPattern`** is the point of this module: on every text it
finds what backtracking finds, tag and factor, token by token.  The reason is that no greedy choice
of the pattern is ever undone.  What follows a tag can always be matched by nothing, and what follows
blanks inside a factor clause cannot begin with a blank.
-/

namespace Signpost

open Signpost.Text

/-! ## Classes -/

namespace CharClass

lemma covers_only (d c : Char) : (only d).covers c = decide (c = d) := by
  simp only [covers, only, List.any_cons, List.any_nil, Bool.or_false, ← Bool.decide_and]
  exact decide_eq_decide.mpr ⟨fun h => Char.le_antisymm h.2 h.1, fun h => by simp [h]⟩

/-- The ASCII letters come after `@`. -/
lemma le_of_isAlpha {c : Char} (h : c.isAlpha = true) : 'A' ≤ c := by
  simp only [Char.isAlpha, Char.isUpper, Char.isLower, Bool.or_eq_true, Bool.and_eq_true,
    decide_eq_true_eq, ge_iff_le] at h
  rcases h with h | h
  · exact h.1
  · exact Char.le_trans (by decide) h.1

/-- Case makes no difference for a class whose ranges end before the letters begin. -/
lemma accepts_of_lt {k : CharClass} (hk : ∀ r ∈ k.ranges, r.2 < 'A') (c : Char) :
    k.accepts c = (k.covers c != k.negated) := by
  have hletter : ∀ x : Char, x.isAlpha = true → k.covers x = false := by
    intro x hx
    rw [covers, List.any_eq_false]
    intro r hr hle
    rw [Bool.and_eq_true, decide_eq_true_eq, decide_eq_true_eq] at hle
    exact Char.not_le.2 (hk r hr) (Char.le_trans (le_of_isAlpha hx) hle.2)
  have hfold : (k.covers c || k.covers c.toLower || k.covers c.toUpper) = k.covers c := by
    by_cases hc : c.isAlpha = true
    · rw [hletter c hc, hletter c.toLower (by simpa using hc), hletter c.toUpper (by simpa using hc)]
      rfl
    · have hc' : ¬ c.isUpper = true ∧ ¬ c.isLower = true := by simpa [Char.isAlpha] using hc
      rw [Char.toLower_eq_of_not_isUpper hc'.1, Char.toUpper_eq_of_not_isLower hc'.2,
        Bool.or_self, Bool.or_self]
  rw [accepts, hfold]

/-- A sign before the letters stands for itself alone. -/
lemma accepts_only {d : Char} (hd : d < 'A') (c : Char) : (only d).accepts c = decide (c = d) := by
  rw [accepts_of_lt (by simpa [only] using hd), covers_only]
  exact Bool.bne_false _

/-- The letter `q` stands for itself in either case. -/
lemma accepts_only_q (c : Char) :
    (only 'q').accepts c = (decide (c = 'q') || decide (c = 'Q')) := by
  have hupper : c.toUpper ≠ 'q' := fun h => by simpa [h] using Char.isLower_toUpper_eq_false c
  have hlower : c.toLower = 'q' ↔ c = 'q' ∨ c = 'Q' := by
    refine ⟨fun h => ?_, fun h => by rcases h with rfl | rfl <;> rfl⟩
    by_cases hc : c.isUpper = true
    · right
      have hQ : c.toLower.toUpper = 'Q' := by rw [h]; rfl
      rwa [Char.toUpper_toLower_eq_toUpper,
        Char.toUpper_eq_of_not_isLower (Char.not_isLower_of_isUpper hc)] at hQ
    · left
      rwa [Char.toLower_eq_of_not_isUpper hc] at h
  have hpositive : (only 'q').negated = false := rfl
  rw [accepts, covers_only, covers_only, covers_only, hpositive, Bool.bne_false]
  by_cases hc : c = 'q' <;> simp [hc, hupper, hlower]

end CharClass

namespace Negotiation

open Pattern

/-- `[a-z]` -/
def letters : CharClass := { ranges := [('a', 'z')] }

/-- `[0-9]` -/
def decimals : CharClass := { ranges := [('0', '9')] }

/-- `\s` -/
def blanks : CharClass := { ranges := [('\t', '\r'), (' ', ' ')] }

/-- `[^,]` -/
def noComma : CharClass := { ranges := [(',', ',')], negated := true }

/-- The letters in either case. -/
lemma accepts_letters (c : Char) : letters.accepts c = c.isAlpha := by
  have hcovers : ∀ x, letters.covers x = x.isLower := fun x => by
    simp [letters, CharClass.covers, Char.isLower, Char.le_def]
  have hpositive : letters.negated = false := rfl
  rw [CharClass.accepts, hcovers, hcovers, hcovers, hpositive, Bool.bne_false,
    Char.isLower_toLower_eq_isAlpha, Char.isLower_toUpper_eq_false, Bool.or_false]
  cases hc : c.isLower <;> simp [Char.isAlpha, hc]

lemma accepts_decimals (c : Char) : decimals.accepts c = c.isDigit := by
  rw [CharClass.accepts_of_lt (by decide)]
  simp [decimals, CharClass.covers, Char.isDigit, Char.le_def]

lemma accepts_blanks (c : Char) : blanks.accepts c = isAsciiBlank c := by
  have hcontrol : (decide ('\t' ≤ c) && decide (c ≤ '\r'))
      = (decide (9 ≤ c.toNat) && decide (c.toNat ≤ 13)) := by
    simp [Char.le_def, UInt32.le_iff_toNat_le]
  have hcovers : blanks.covers c
      = ((decide ('\t' ≤ c) && decide (c ≤ '\r')) || (CharClass.only ' ').covers c) := rfl
  rw [CharClass.accepts_of_lt (by decide), hcovers, CharClass.covers_only, hcontrol, isAsciiBlank,
    Bool.or_comm]
  exact Bool.bne_false _

lemma accepts_noComma (c : Char) : noComma.accepts c = decide (c ≠ ',') := by
  have hcomma : noComma.covers c = decide (c = ',') := CharClass.covers_only ',' c
  rw [CharClass.accepts_of_lt (by decide), hcomma]
  by_cases hc : c = ',' <;> simp [hc, noComma]

/-! ## The pattern -/

/-- `[a-z]{1,8}` -/
def subtagPattern : Pattern := onceAndAtMost 7 (oneOf letters)

/-- `[a-z]{1,8}(-[a-z]{1,8})?` -/
def tagPattern : Pattern := subtagPattern ++ maybe (group 2 (char '-' ++ subtagPattern))

/-- `\s*` -/
def blanksPattern : Pattern := star (oneOf blanks)

/-- `1|0\.[0-9]+` -/
def numberPattern : Pattern := either (char '1') (char '0' ++ char '.' ++ plus (oneOf decimals))

/-- `\s*(1|0\.[0-9]+)` or `([^,]*)` -/
def factorPattern : Policy → Pattern
  | .ignore => blanksPattern ++ group 4 numberPattern
  | .drop => group 4 (star (oneOf noComma))

/-- `;\s*q\s*=` and a factor -/
def clausePattern (policy : Policy) : Pattern :=
  char ';' ++ (blanksPattern ++ (char 'q' ++ (blanksPattern ++ (char '=' ++ factorPattern policy))))

/-- A tag as group 1, blanks, and possibly a factor clause as group 3 with the factor as group 4. -/
def tokenPattern (policy : Policy) : Pattern :=
  group 1 tagPattern ++ blanksPattern ++ maybe (group 3 (clausePattern policy))

/-! ## Backtracking through the pattern -/

section Run

variable {β : Type} {k : Match → Option β} {g : List (Nat × List Char)}

/-- One character of a class. -/
lemma run_oneOf (c : CharClass) (cs : List Char) :
    run (oneOf c) ⟨cs, g⟩ k = (after? c.accepts cs).bind fun rest => k ⟨rest, g⟩ := by
  cases cs with
  | nil => rw [run_oneOf_nil]; rfl
  | cons x xs =>
      rw [run_oneOf_cons, after?]
      split <;> rfl

lemma run_char {d : Char} (hd : d < 'A') (cs : List Char) :
    run (char d) ⟨cs, g⟩ k = (after? (· = d) cs).bind fun rest => k ⟨rest, g⟩ := by
  rw [char, run_oneOf, funext (CharClass.accepts_only hd)]

/-- Blanks before something that always succeeds, or cannot begin with a blank. -/
lemma run_blanksPattern {cs : List Char}
    (hk : (k ⟨skipBlanks cs, g⟩).isSome ∨ ∀ x xs, isAsciiBlank x = true → k ⟨x :: xs, g⟩ = none) :
    run blanksPattern ⟨cs, g⟩ k = k ⟨skipBlanks cs, g⟩ := by
  rw [skipBlanks, ← funext accepts_blanks] at hk ⊢
  exact run_star_oneOf hk

/-- Blanks before a character that is no blank itself, and what comes after it. -/
lemma run_blanksPattern_oneOf {c : CharClass} (hc : ∀ x, isAsciiBlank x = true → c.accepts x = false)
    (p : Pattern) (cs : List Char) :
    run (blanksPattern ++ (oneOf c ++ p)) ⟨cs, g⟩ k
      = (after? c.accepts (skipBlanks cs)).bind fun rest => run p ⟨rest, g⟩ k := by
  rw [run_append, run_blanksPattern]
  · rw [run_append, run_oneOf]
  · right
    intro x xs hx
    rw [run_append, run_oneOf_cons, hc x hx]
    rfl

/-- Letters before something that always succeeds. -/
lemma run_subtagPattern (hk : ∀ m, (k m).isSome) (cs : List Char) :
    run subtagPattern ⟨cs, g⟩ k
      = if subtag cs = [] then none else k ⟨cs.drop (subtag cs).length, g⟩ := by
  rw [subtagPattern, run_onceAndAtMost_oneOf hk, funext accepts_letters]
  rfl

/-- The group of a region, if there is one. -/
def regionGroup (region : List Char) : List (Nat × List Char) :=
  if region = [] then [] else [(2, region)]

lemma group?_regionGroup (rest region : List Char) :
    (Match.mk rest (regionGroup region)).group? 4 = none := by
  unfold regionGroup
  split <;> rfl

/-- The region behind the hyphen is taken whenever it can be, since what follows never fails. -/
lemma run_regionPattern (hk : ∀ m, (k m).isSome) (cs : List Char) :
    run (maybe (group 2 (char '-' ++ subtagPattern))) ⟨cs, g⟩ k
      = k ⟨cs.drop (regionSuffix cs).length, regionGroup (regionSuffix cs) ++ g⟩ := by
  rw [run_maybe, run_group, run_append, run_char (by decide)]
  by_cases hcs : ∃ rest, cs = '-' :: rest
  · obtain ⟨rest, rfl⟩ := hcs
    have hafter : after? (· = '-') ('-' :: rest) = some rest := rfl
    rw [hafter, Option.bind_some, run_subtagPattern fun m => hk _, regionSuffix]
    split
    · rfl
    · have hlen : ((rest.length + 1) - (rest.drop (subtag rest).length).length)
          = (subtag rest).length + 1 := by
        have := (subtag_isPrefix rest).length_le
        rw [List.length_drop]
        omega
      have htake : rest.take (subtag rest).length = subtag rest :=
        (List.prefix_iff_eq_take.1 (subtag_isPrefix rest)).symm
      rw [Option.or_of_isSome (hk _), List.length_cons, hlen, List.take_succ_cons, htake]
      rfl
  · have hafter : after? (· = '-') cs = none := after?_eq_none_iff.2 fun rest h => hcs ⟨rest, h⟩
    have hregion : regionSuffix cs = [] := by
      unfold regionSuffix
      split
      · next rest => exact absurd ⟨rest, rfl⟩ hcs
      · rfl
    rw [hafter, hregion]
    rfl

/-- A tag before something that always succeeds. -/
lemma run_tagPattern (hk : ∀ m, (k m).isSome) (cs : List Char) :
    run tagPattern ⟨cs, g⟩ k
      = if leadingTag cs = [] then none
        else k ⟨cs.drop (leadingTag cs).length,
          regionGroup (regionSuffix (cs.drop (subtag cs).length)) ++ g⟩ := by
  rw [tagPattern, run_append, run_subtagPattern fun m => isSome_run_maybe m k hk _]
  by_cases hs : subtag cs = []
  · simp [leadingTag, hs]
  · rw [if_neg hs, leadingTag, if_neg hs, if_neg (by simp [hs]), run_regionPattern hk,
      List.drop_drop, List.length_append]

/-- Digits are taken as far as they go. -/
lemma run_plus_decimals (hk : ∀ m, (k m).isSome) (cs : List Char) :
    run (plus (oneOf decimals)) ⟨cs, g⟩ k
      = if cs.takeWhile Char.isDigit = [] then none else k ⟨cs.dropWhile Char.isDigit, g⟩ := by
  rw [plus, run_append]
  cases cs with
  | nil => rw [run_oneOf_nil]; rfl
  | cons c cs =>
      rw [run_oneOf_cons, accepts_decimals]
      by_cases hc : c.isDigit = true
      · rw [if_pos hc, run_star_oneOf (.inl (hk _)), funext accepts_decimals,
          List.takeWhile_cons_of_pos hc, List.dropWhile_cons_of_pos hc, if_neg (by simp)]
      · rw [if_neg hc, List.takeWhile_cons_of_neg hc, if_pos rfl]

lemma run_numberPattern (hk : ∀ m, (k m).isSome) (cs : List Char) :
    run numberPattern ⟨cs, g⟩ k = (leadingFactor? cs).bind fun p => k ⟨p.2, g⟩ := by
  simp (disch := decide) only [numberPattern, run_either, run_append, run_char,
    run_plus_decimals hk]
  unfold leadingFactor?
  split
  · next rest =>
    exact Option.or_of_isSome (hk _)
  · next rest =>
    split <;> simp_all [after?]
  · next hone hzero =>
    rw [after?_eq_none_iff.2 hone, Option.bind_none, Option.none_or, Option.bind_none]
    cases hcs : after? (· = '0') cs with
    | none => rfl
    | some rest =>
        have hpoint : after? (· = '.') rest = none := after?_eq_none_iff.2 fun rest' h =>
          hzero rest' (by rw [after?_eq_some_iff.1 hcs, h])
        rw [Option.bind_some, hpoint, Option.bind_none]

/-- What is remembered in a group is the piece of the text that was taken. -/
lemma take_of_append {cs taken rest : List Char} (h : taken ++ rest = cs) :
    cs.take (cs.length - rest.length) = taken := by
  rw [← h, List.length_append, Nat.add_sub_cancel, List.take_left]

/-- The factor that a policy reads is the one that backtracking finds. -/
lemma run_factorPattern (policy : Policy) (hk : ∀ m, (k m).isSome) (cs : List Char) :
    run (factorPattern policy) ⟨cs, g⟩ k
      = (policy.factor? cs).bind fun p => k ⟨p.2, (4, p.1) :: g⟩ := by
  cases policy with
  | ignore =>
      have hblank : ∀ x xs, isAsciiBlank x = true →
          run (group 4 numberPattern) ⟨x :: xs, g⟩ k = none := by
        intro x xs hx
        rw [run_group, run_numberPattern fun m => hk _, leadingFactor?_of_isAsciiBlank hx]
        rfl
      rw [factorPattern, run_append, run_blanksPattern (.inr hblank), run_group,
        run_numberPattern fun m => hk _, Policy.factor?]
      cases h : leadingFactor? (skipBlanks cs) with
      | none => rfl
      | some p => rw [Option.bind_some, Option.bind_some, take_of_append (append_of_leadingFactor? h)]
  | drop =>
      rw [factorPattern, run_group, run_star_oneOf (.inl (by exact hk _)), funext accepts_noComma,
        take_of_append List.takeWhile_append_dropWhile]
      rfl

/-- Inside a factor clause no blank is ever given back: what follows blanks begins with none. -/
lemma run_clausePattern (policy : Policy) (hk : ∀ m, (k m).isSome) (cs : List Char) :
    run (clausePattern policy) ⟨skipBlanks cs, g⟩ k
      = ((clauseBody? cs).bind policy.factor?).bind fun p => k ⟨p.2, (4, p.1) :: g⟩ := by
  have hsemicolon : (CharClass.only ';').accepts = (· = ';') :=
    funext (CharClass.accepts_only (by decide))
  have hequals : (CharClass.only '=').accepts = (· = '=') :=
    funext (CharClass.accepts_only (by decide))
  have hletter : (CharClass.only 'q').accepts = fun c => c = 'q' || c = 'Q' :=
    funext CharClass.accepts_only_q
  have hblank₁ : ∀ x, isAsciiBlank x = true → (CharClass.only 'q').accepts x = false := by
    intro x hx
    rw [hletter, Bool.or_eq_false_iff, decide_eq_false_iff_not, decide_eq_false_iff_not]
    constructor <;> rintro rfl <;> exact absurd hx (by decide)
  have hblank₂ : ∀ x, isAsciiBlank x = true → (CharClass.only '=').accepts x = false := by
    intro x hx
    rw [hequals, decide_eq_false_iff_not]
    rintro rfl
    exact absurd hx (by decide)
  simp only [clausePattern, char, clauseBody?, run_append (p := oneOf (.only ';')), run_oneOf,
    run_blanksPattern_oneOf hblank₁, run_blanksPattern_oneOf hblank₂, run_factorPattern policy hk,
    hsemicolon, hletter, hequals, Option.bind_eq_bind, Option.bind_assoc]

end Run

/-! ## Tokens -/

/-- **At every place of a text, a token is what the pattern matches there.** -/
lemma match?_tokenPattern (policy : Policy) (cs : List Char) :
    ((tokenPattern policy).match? cs).map (fun m => (m.rest, m.group? 1, m.group? 4))
      = (token? policy cs).map fun p => (p.2, some p.1.tag, p.1.factor) := by
  -- after the tag everything may be left out, so the rest of the pattern never fails
  have hclause : ∀ m, (run (maybe (group 3 (clausePattern policy))) m some).isSome :=
    fun m => isSome_run_maybe m some (fun _ => rfl) _
  have hrest : ∀ m, (run blanksPattern m fun m' =>
      run (maybe (group 3 (clausePattern policy))) m' some).isSome :=
    fun m => isSome_run_star m _ hclause _
  rw [match?, tokenPattern, run_append, run_append, run_group, run_tagPattern fun m => hrest _,
    token?]
  split
  · rfl
  · have htag : cs.take (cs.length - (cs.drop (leadingTag cs).length).length) = leadingTag cs :=
      take_of_append (List.prefix_iff_eq_append.1 (leadingTag_isPrefix cs))
    dsimp only
    rw [htag, run_blanksPattern (.inl (hclause _)), run_maybe, run_group,
      run_clausePattern policy (by exact fun _ => rfl)]
    cases (clauseBody? (cs.drop (leadingTag cs).length)).bind policy.factor? with
    | none => simp [group?_regionGroup]
    | some p => simp

/-- A token holds at least one letter. -/
lemma length_lt_of_match?_tokenPattern {policy : Policy} {cs : List Char} {m : Match}
    (h : (tokenPattern policy).match? cs = some m) : m.rest.length < cs.length := by
  have hlen := length_add_minLength_le_of_match? h
  have hmin : (tokenPattern policy).minLength = 1 := by cases policy <;> rfl
  omega

/-- **The search for tokens finds what backtracking through their pattern finds.**  The tags are the
first groups of the matches from left to right, the factors their fourth groups; and every match
takes at least one character, so that the search comes to the end of every text. -/
theorem map_scan_tokenPattern (policy : Policy) (header : String) :
    ((tokenPattern policy).scan header.toList).map (fun m => (m.group? 1, m.group? 4))
        = (tokens policy header.toList).map (fun t => (some t.tag, t.factor)) ∧
      ∀ cs m, (tokenPattern policy).match? cs = some m → m.rest.length < cs.length := by
  refine ⟨?_, fun _ _ => length_lt_of_match?_tokenPattern⟩
  generalize header.toList = cs
  -- the induction is the one of the search: on the text after a token, or after a skipped character
  induction cs using tokens.induct policy with
  | case1 cs t rest htoken hlt ih =>
      have hmatch := match?_tokenPattern policy cs
      rw [htoken, Option.map_some, Option.map_eq_some_iff] at hmatch
      obtain ⟨m, hm, heq⟩ := hmatch
      simp only [Prod.mk.injEq] at heq
      obtain ⟨hrest, htag, hfactor⟩ := heq
      rw [tokens_of_token? htoken, scan_of_match? hm (length_lt_of_match?_tokenPattern hm),
        List.map_cons, List.map_cons, hrest, htag, hfactor, ih]
  | case2 htoken =>
      have hmatch := match?_tokenPattern policy []
      rw [htoken, Option.map_none, Option.map_eq_none_iff] at hmatch
      rw [scan_nil_of_match? hmatch, tokens_nil]
      rfl
  | case3 c cs htoken ih =>
      have hmatch := match?_tokenPattern policy (c :: cs)
      rw [htoken, Option.map_none, Option.map_eq_none_iff] at hmatch
      rw [scan_cons_of_match? hmatch, tokens_cons_of_token? htoken, ih]

end Negotiation

end Signpost
