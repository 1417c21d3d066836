import Mathlib.Tactic.Common
import Signpost.Proofs.Negotiation.Code
import Signpost.Proofs.Negotiation.Grammar
import Signpost.Proofs.Negotiation.HeaderLines
import Signpost.Proofs.Negotiation.TokenPattern

/-!
# Bytes beyond ASCII in language headers

A language header may hold any bytes.  Those beyond ASCII are decoded, some to characters and some to
replacement characters, and none of these is part of a tag, of a blank or of a number.

**Inert characters.**  Under `Policy.ignore` inert characters separate, so that all that matters is where
they stand (`statedIn_ignore_congr`).  Under `Policy.drop` they do so too, except in a factor, which goes on
up to the next comma (`tokens_append_inert`).  There they spoil the factor, if they are no blanks, and the
tag is discarded whichever they are (`statedIn_drop_congr`).

**Other runs.**  `EqUpToRuns` relates two lists that differ only in runs of certain elements.  A decoded
value is so related to the value with a mark for every byte beyond ASCII (`eqUpToRuns_marked`), and this
leads every question about bytes back to the marks.

**`bytes_beyond_ascii_inert`** draws the consequences.
-/

namespace Signpost

open Text

/-! ## Lists with other runs in them -/

/-- Two lists that are equal up to runs of elements: where the first has one or more elements with the
property `p`, the second has one or more with the property `q`. -/
inductive EqUpToRuns {α : Type} (p q : α → Prop) : List α → List α → Prop where
  | nil : EqUpToRuns p q [] []
  | keep (a : α) {as bs : List α} : EqUpToRuns p q as bs → EqUpToRuns p q (a :: as) (a :: bs)
  | swap {a b : α} {run run' as bs : List α} : (∀ x ∈ a :: run, p x) → (∀ x ∈ b :: run', q x) →
      EqUpToRuns p q as bs → EqUpToRuns p q (a :: run ++ as) (b :: run' ++ bs)

namespace EqUpToRuns

variable {α β : Type} {p q : α → Prop} {as bs : List α}

/-- A property of the elements may be replaced by any that those in the list have. -/
lemma imp {p' q' : α → Prop} (h : EqUpToRuns p q as bs) (hp : ∀ x ∈ as, p x → p' x)
    (hq : ∀ x, q x → q' x) : EqUpToRuns p' q' as bs := by
  induction h with
  | nil => exact .nil
  | keep a _ ih =>
      rw [List.forall_mem_cons] at hp
      exact .keep a (ih hp.2)
  | swap hrun hrun' _ ih =>
      rw [List.forall_mem_append] at hp
      exact .swap (fun x hx => hp.1 x hx (hrun x hx)) (fun x hx => hq x (hrun' x hx)) (ih hp.2)

lemma append_left (h : EqUpToRuns p q as bs) (cs : List α) :
    EqUpToRuns p q (cs ++ as) (cs ++ bs) := by
  induction cs with
  | nil => exact h
  | cons c cs ih => exact .keep c ih

lemma refl (as : List α) : EqUpToRuns p q as as := by
  simpa using append_left .nil as

lemma map {p' q' : β → Prop} {f : α → β} (h : EqUpToRuns p q as bs) (hp : ∀ x, p x → p' (f x))
    (hq : ∀ x, q x → q' (f x)) : EqUpToRuns p' q' (as.map f) (bs.map f) := by
  induction h with
  | nil => exact .nil
  | keep a _ ih => exact .keep (f a) ih
  | swap hrun hrun' _ ih =>
      rw [List.map_append, List.map_append]
      refine .swap ?_ ?_ ih
      · simpa using fun x hx => hp x (hrun x hx)
      · simpa using fun x hx => hq x (hrun' x hx)

end EqUpToRuns

namespace Negotiation

/-! ## Inert characters in factors -/

/-- An inert character that spoils the factor in which it stands. -/
structure Spoils (c : Char) : Prop where
  inert : Inert c
  ne_comma : c ≠ ','
  not_blank : isBlank c = false

/-- The rest of a text, from the next comma on. -/
def fromComma (cs : List Char) : List Char := cs.dropWhile (· ≠ ',')

lemma forall_ne_comma {cs : List Char} (h : ',' ∉ cs) : ∀ c ∈ cs, decide (c ≠ ',') = true := by
  intro c hc
  rw [decide_eq_true_eq]
  rintro rfl
  exact h hc

lemma fromComma_of_not_mem {cs : List Char} (h : ',' ∉ cs) : fromComma cs = [] :=
  List.dropWhile_eq_nil_iff.2 (forall_ne_comma h)

section Drop

variable {a rest : List Char} {t : Token}

/-- A token whose factor is taken as it stands: without a factor clause it ends behind the blanks after the
tag, and with one at the next comma. -/
lemma cases_of_token? (h : token? .drop a = some (t, rest)) :
    (clauseBody? (a.drop (leadingTag a).length) = none ∧ t = ⟨leadingTag a, none⟩ ∧
      rest = skipBlanks (a.drop (leadingTag a).length)) ∨
    ∃ body, clauseBody? (a.drop (leadingTag a).length) = some body ∧
      t = ⟨leadingTag a, some (body.takeWhile (· ≠ ','))⟩ ∧ rest = fromComma body := by
  have htag := leadingTag_ne_nil_of_token? h
  cases hclause : clauseBody? (a.drop (leadingTag a).length) with
  | none =>
      rw [token?_of_no_factor htag (congrArg (Option.bind · Policy.drop.factor?) hclause)] at h
      cases h
      exact .inl ⟨rfl, rfl, rfl⟩
  | some body =>
      rw [token?_of_factor htag (congrArg (Option.bind · Policy.drop.factor?) hclause)] at h
      cases h
      exact .inr ⟨body, rfl, rfl, rfl⟩

variable {c : Char} (b : List Char)

/-- Before an inert character a tag without a factor clause ends as before. -/
lemma token?_append_of_no_factor (h : token? .drop a = some (t, rest)) (ht : t.factor = none)
    (hc : Inert c) : token? .drop (a ++ c :: b) = some (t, rest ++ c :: b) := by
  have htag : leadingTag (a ++ c :: b) ≠ [] := by
    rw [leadingTag_append_inert hc]
    exact leadingTag_ne_nil_of_token? h
  have hdrop := drop_leadingTag_append_inert hc a b
  obtain ⟨hclause, rfl, rfl⟩ | ⟨body, -, rfl, -⟩ := cases_of_token? h
  · rw [token?_of_no_factor htag, hdrop, skipBlanks_append_inert hc, leadingTag_append_inert hc]
    rw [hdrop, clauseBody?_append_inert hc, hclause]
    rfl
  · cases ht

/-- A factor goes on across an inert character, up to the next comma. -/
lemma token?_append_of_factor {factor : List Char} (h : token? .drop a = some (t, rest))
    (ht : t.factor = some factor) (hcomma : ',' ∉ a) (hc : Inert c) (hne : c ≠ ',') :
    token? .drop (a ++ c :: b) =
      some (⟨t.tag, some (factor ++ c :: b.takeWhile (· ≠ ','))⟩, fromComma b) := by
  have htag : leadingTag (a ++ c :: b) ≠ [] := by
    rw [leadingTag_append_inert hc]
    exact leadingTag_ne_nil_of_token? h
  have hdrop := drop_leadingTag_append_inert hc a b
  obtain ⟨-, rfl, -⟩ | ⟨body, hclause, rfl, -⟩ := cases_of_token? h
  · cases ht
  · have hbody := forall_ne_comma (fun hmem => hcomma (clauseBody?_drop_subset hclause hmem))
    have hmore : (clauseBody? ((a ++ c :: b).drop (leadingTag (a ++ c :: b)).length)).bind
        Policy.drop.factor? = some (body ++ c :: b.takeWhile (· ≠ ','), fromComma b) := by
      rw [hdrop, clauseBody?_append_inert hc, hclause, Option.map_some, Option.bind_some, Policy.factor?,
        List.takeWhile_append_of_pos hbody, List.dropWhile_append_of_pos hbody,
        List.takeWhile_cons_of_pos (by simpa using hne),
        List.dropWhile_cons_of_pos (by simpa using hne), fromComma]
    cases ht
    rw [token?_of_factor htag hmore, leadingTag_append_inert hc, List.takeWhile_eq_self_iff.2 hbody]

/-- A factor in a text without a comma is the end of the text. -/
lemma eq_nil_of_factor {factor : List Char} (h : token? .drop a = some (t, rest))
    (ht : t.factor = some factor) (hcomma : ',' ∉ a) : rest = [] := by
  obtain ⟨-, rfl, -⟩ | ⟨body, hclause, -, rfl⟩ := cases_of_token? h
  · cases ht
  · exact fromComma_of_not_mem fun hmem => hcomma (clauseBody?_drop_subset hclause hmem)

/-- The text after a tag without a factor clause has no comma either. -/
lemma not_mem_of_no_factor (h : token? .drop a = some (t, rest)) (ht : t.factor = none)
    (hcomma : ',' ∉ a) : ',' ∉ rest := by
  obtain ⟨-, -, rfl⟩ | ⟨body, -, rfl, -⟩ := cases_of_token? h
  · exact fun hmem => hcomma (List.drop_subset _ _ ((skipBlanks_isSuffix _).subset hmem))
  · cases ht

end Drop

/-- **An inert character in a text without commas.**  If the text has no factor, its tokens are followed by
those after the character.  If it has one, the factor goes on up to the next comma. -/
lemma tokens_append_inert {a : List Char} (hcomma : ',' ∉ a) :
    ((∀ t ∈ tokens .drop a, t.factor = none) ∧ ∀ c b, Inert c →
      tokens .drop (a ++ c :: b) = tokens .drop a ++ tokens .drop b) ∨
    ∃ ts tag factor, (∀ t ∈ ts, t.factor = none) ∧ tokens .drop a = ts ++ [⟨tag, some factor⟩] ∧
      ∀ c b, Inert c → c ≠ ',' → tokens .drop (a ++ c :: b) =
        ts ++ ⟨tag, some (factor ++ c :: b.takeWhile (· ≠ ','))⟩ :: tokens .drop (fromComma b) := by
  induction a using tokens.induct .drop with
  | case1 a t rest htoken hlt ih =>
      rw [tokens_of_token? htoken]
      cases ht : t.factor with
      | none =>
          have hmore : ∀ c b, Inert c →
              tokens .drop (a ++ c :: b) = t :: tokens .drop (rest ++ c :: b) := fun c b hc =>
            tokens_of_token? (token?_append_of_no_factor b htoken ht hc)
          rcases ih (not_mem_of_no_factor htoken ht hcomma) with
            ⟨hnone, happend⟩ | ⟨ts, tag, factor, hnone, htokens, happend⟩
          · refine .inl ⟨List.forall_mem_cons.2 ⟨ht, hnone⟩, fun c b hc => ?_⟩
            rw [hmore c b hc, happend c b hc, List.cons_append]
          · refine .inr ⟨t :: ts, tag, factor, List.forall_mem_cons.2 ⟨ht, hnone⟩, ?_,
              fun c b hc hne => ?_⟩
            · rw [htokens, List.cons_append]
            · rw [hmore c b hc, happend c b hc hne, List.cons_append]
      | some factor =>
          refine .inr ⟨[], t.tag, factor, List.forall_mem_nil _, ?_, fun c b hc hne => ?_⟩
          · rw [eq_nil_of_factor htoken ht hcomma, tokens_nil, ← ht]
            rfl
          · exact tokens_of_token? (token?_append_of_factor b htoken ht hcomma hc hne)
  | case2 htoken =>
      refine .inl ⟨by simp, fun c b hc => ?_⟩
      rw [tokens_nil, List.nil_append, List.nil_append]
      exact tokens_cons_of_token? (token?_cons_of_isAlpha_eq_false .drop hc.isAlpha b)
  | case3 d a htoken ih =>
      have hmore : ∀ c b, Inert c →
          tokens .drop (d :: a ++ c :: b) = tokens .drop (a ++ c :: b) := fun c b hc => by
        have htag : leadingTag (d :: a ++ c :: b) = [] := by
          rw [leadingTag_append_inert hc, leadingTag_eq_nil_of_token? htoken]
        exact tokens_cons_of_token? (if_pos htag)
      rw [tokens_cons_of_token? htoken]
      rcases ih fun hmem => hcomma (List.mem_cons_of_mem d hmem) with
        ⟨hnone, happend⟩ | ⟨ts, tag, factor, hnone, htokens, happend⟩
      · exact .inl ⟨hnone, fun c b hc => (hmore c b hc).trans (happend c b hc)⟩
      · exact .inr ⟨ts, tag, factor, hnone, htokens, fun c b hc hne =>
          (hmore c b hc).trans (happend c b hc hne)⟩

/-! ## What is stated between inert characters -/

lemma Spoils.not_mem_factor {c : Char} (hc : Spoils c) (f : Factor) : c ∉ f.chars := by
  intro hmem
  rcases isDigit_or_eq_of_mem_factor hmem with hdigit | rfl
  · rw [hc.inert.isDigit] at hdigit
    cases hdigit
  · exact hc.inert.ne (by simp) rfl

/-- A spoiled factor is no factor, so that the token is discarded. -/
lemma Spoils.preference?_eq_none {c : Char} (hc : Spoils c) (tag before after : List Char) :
    (Token.mk tag (some (before ++ c :: after))).preference? .drop = none := by
  have hnone : Weight.ofFactor? (trim (before ++ c :: after)) = none := by
    refine Weight.ofFactor?_eq_none_iff.2 fun f hf => hc.not_mem_factor f ?_
    rw [← hf]
    exact mem_trim (List.mem_append_right _ List.mem_cons_self) hc.not_blank
  exact congrArg (Option.map _) hnone

/-- Inert characters in front of a text add no token. -/
lemma tokens_append_of_inert (policy : Policy) {run : List Char} (h : ∀ c ∈ run, Inert c)
    (cs : List Char) : tokens policy (run ++ cs) = tokens policy cs :=
  tokens_append_of_isAlpha_eq_false policy (fun c hc => (h c hc).isAlpha) cs

lemma statedIn_append_of_inert (policy : Policy) {run : List Char} (h : ∀ c ∈ run, Inert c)
    (cs : List Char) : statedIn policy (run ++ cs) = statedIn policy cs := by
  rw [statedIn, tokens_append_of_inert policy h, statedIn]

/-- A run of characters that end every token separates what is stated before it and after it. -/
lemma statedIn_append_run {policy : Policy} {c : Char} {run : List Char}
    (h : ∀ x ∈ c :: run, policy.Ends x) (a b : List Char) :
    statedIn policy (a ++ (c :: run ++ b)) = statedIn policy a ++ statedIn policy b := by
  rw [List.forall_mem_cons] at h
  rw [List.cons_append, statedIn_append_of_ends h.1,
    statedIn_append_of_inert policy fun x hx => (h.2 x hx).inert]

lemma fromComma_append_run {run : List Char} (h : ∀ c ∈ run, Spoils c) (b : List Char) :
    fromComma (run ++ b) = fromComma b :=
  List.dropWhile_append_of_pos fun c hc => decide_eq_true (h c hc).ne_comma

/-- **A run of characters that spoil factors.**  Behind a text without commas it either separates, or spoils
a factor together with what comes before the next comma. -/
lemma statedIn_append_spoils {a : List Char} (hcomma : ',' ∉ a) :
    (∀ c run b, (∀ x ∈ c :: run, Spoils x) →
      statedIn .drop (a ++ (c :: run ++ b)) = statedIn .drop a ++ statedIn .drop b) ∨
    ∃ ps, ps.Sublist (statedIn .drop a) ∧ ∀ c run b, (∀ x ∈ c :: run, Spoils x) →
      statedIn .drop (a ++ (c :: run ++ b)) = ps ++ statedIn .drop (fromComma b) := by
  rcases tokens_append_inert hcomma with ⟨-, happend⟩ | ⟨ts, tag, factor, -, htokens, happend⟩
  · refine .inl fun c run b hrun => ?_
    rw [List.forall_mem_cons] at hrun
    rw [List.cons_append, statedIn, happend c _ hrun.1.inert, List.filterMap_append, ← statedIn,
      ← statedIn, statedIn_append_of_inert .drop fun x hx => (hrun.2 x hx).inert]
  · refine .inr ⟨ts.filterMap (·.preference? .drop), ?_, fun c run b hrun => ?_⟩
    · rw [statedIn, htokens, List.filterMap_append]
      exact List.sublist_append_left _ _
    · rw [List.forall_mem_cons] at hrun
      rw [List.cons_append, statedIn, happend c _ hrun.1.inert hrun.1.ne_comma,
        List.filterMap_append, List.filterMap_cons_none (hrun.1.preference?_eq_none _ _ _), ← statedIn,
        fromComma_append_run hrun.2]

/-! ## Other runs -/

/-- **Under `Policy.ignore` inert characters may be exchanged** for any others. -/
lemma statedIn_ignore_congr {cs cs' : List Char} (h : EqUpToRuns Inert Inert cs cs') (a : List Char) :
    statedIn .ignore (a ++ cs) = statedIn .ignore (a ++ cs') := by
  -- the text before is what has been read already of a piece without inert characters
  induction h generalizing a with
  | nil => rfl
  | keep c _ ih => simpa using ih (a ++ [c])
  | swap hrun hrun' _ ih =>
      have hrest := ih []
      rw [List.nil_append, List.nil_append] at hrest
      rw [statedIn_append_run fun x hx => (hrun x hx).ends,
        statedIn_append_run fun x hx => (hrun' x hx).ends, hrest]

lemma not_mem_concat {a : List Char} {c : Char} (ha : ',' ∉ a) (hc : ',' ≠ c) : ',' ∉ a ++ [c] := by
  simpa [hc] using ha

lemma fromComma_cons_of_ne {c : Char} (hc : ',' ≠ c) (cs : List Char) :
    fromComma (c :: cs) = fromComma cs :=
  List.dropWhile_cons_of_pos (by simpa using hc.symm)

lemma fromComma_cons_comma (cs : List Char) : fromComma (',' :: cs) = ',' :: cs := rfl

lemma statedIn_cons_comma (policy : Policy) (cs : List Char) :
    statedIn policy (',' :: cs) = statedIn policy cs :=
  statedIn_append_of_inert policy (List.forall_mem_singleton.2 inert_comma) cs

/-- **Under `Policy.drop` characters that spoil factors may be exchanged** for any others that do. -/
lemma statedIn_drop_congr {cs cs' : List Char} (h : EqUpToRuns Spoils Spoils cs cs') :
    (∀ a, ',' ∉ a → statedIn .drop (a ++ cs) = statedIn .drop (a ++ cs')) ∧
      statedIn .drop (fromComma cs) = statedIn .drop (fromComma cs') := by
  -- the second part is what is left where a factor has been spoiled
  induction h with
  | nil => exact ⟨fun _ _ => rfl, rfl⟩
  | @keep c cs cs' _ ih =>
      by_cases hc : ',' = c
      · subst hc
        have hrest : statedIn .drop cs = statedIn .drop cs' := ih.1 [] (by simp)
        refine ⟨fun a _ => ?_, ?_⟩
        · rw [statedIn_append_comma, statedIn_append_comma, hrest]
        · rw [fromComma_cons_comma, fromComma_cons_comma, statedIn_cons_comma, statedIn_cons_comma,
            hrest]
      · refine ⟨fun a ha => ?_, ?_⟩
        · simpa using ih.1 (a ++ [c]) (not_mem_concat ha hc)
        · rw [fromComma_cons_of_ne hc, fromComma_cons_of_ne hc, ih.2]
  | swap hrun hrun' _ ih =>
      refine ⟨fun a ha => ?_, ?_⟩
      · rcases statedIn_append_spoils ha with happend | ⟨ps, -, happend⟩
        · rw [happend _ _ _ hrun, happend _ _ _ hrun']
          exact congrArg _ (ih.1 [] (by simp))
        · rw [happend _ _ _ hrun, happend _ _ _ hrun', ih.2]
      · rw [fromComma_append_run hrun, fromComma_append_run hrun', ih.2]

/-- **Commas in their place state no less**, and with the same weights. -/
lemma statedIn_drop_sublist {cs cs' : List Char} (h : EqUpToRuns Spoils (· = ',') cs cs') :
    ∀ a, ',' ∉ a → (statedIn .drop (a ++ cs)).Sublist (statedIn .drop (a ++ cs')) ∧
      (statedIn .drop (fromComma cs)).Sublist (statedIn .drop (a ++ cs')) := by
  induction h with
  | nil =>
      intro a _
      rw [fromComma_of_not_mem List.not_mem_nil, statedIn_nil]
      exact ⟨.refl _, List.nil_sublist _⟩
  | @keep c cs cs' _ ih =>
      intro a ha
      by_cases hc : ',' = c
      · subst hc
        have hrest : (statedIn .drop cs).Sublist (statedIn .drop cs') := (ih [] (by simp)).1
        rw [fromComma_cons_comma, statedIn_cons_comma, statedIn_append_comma, statedIn_append_comma]
        exact ⟨hrest.append_left _, hrest.trans (List.sublist_append_right _ _)⟩
      · have hmore := ih (a ++ [c]) (not_mem_concat ha hc)
        rw [fromComma_cons_of_ne hc]
        simpa using hmore
  | @swap c c' run run' cs cs' hrun hrun' _ ih =>
      intro a ha
      obtain ⟨hrest, hleft⟩ := ih [] (by simp)
      have hcommas : ∀ x ∈ c' :: run', Policy.drop.Ends x := fun x hx =>
        hrun' x hx ▸ Policy.drop.ends_comma
      rw [statedIn_append_run hcommas, fromComma_append_run hrun]
      refine ⟨?_, hleft.trans (List.sublist_append_right _ _)⟩
      rcases statedIn_append_spoils ha with happend | ⟨ps, hps, happend⟩
      · rw [happend _ _ _ hrun]
        exact hrest.append_left _
      · rw [happend _ _ _ hrun]
        exact hps.append hleft

/-- Where no factor is spoiled, commas in their place state the same. -/
lemma statedIn_drop_eq_of_unspoiled {p : Char → Prop} (hp : ∀ c, p c → Spoils c)
    {cs cs' : List Char} (h : EqUpToRuns p (· = ',') cs cs') :
    ∀ a, ',' ∉ a →
      (∀ t ∈ tokens .drop (a ++ cs), ∀ factor, t.factor = some factor → ∀ c ∈ factor, ¬ p c) →
      statedIn .drop (a ++ cs) = statedIn .drop (a ++ cs') := by
  induction h with
  | nil => exact fun _ _ _ => rfl
  | @keep c cs cs' _ ih =>
      intro a ha hclean
      by_cases hc : ',' = c
      · subst hc
        rw [tokens_append_comma, List.forall_mem_append] at hclean
        rw [statedIn_append_comma, statedIn_append_comma]
        exact congrArg _ (ih [] (by simp) hclean.2)
      · simpa using ih (a ++ [c]) (not_mem_concat ha hc) (by simpa using hclean)
  | @swap c c' run run' cs cs' hrun hrun' _ ih =>
      intro a ha hclean
      have hcommas : ∀ x ∈ c' :: run', Policy.drop.Ends x := fun x hx =>
        hrun' x hx ▸ Policy.drop.ends_comma
      have hinert : ∀ x ∈ c :: run, Inert x := fun x hx => (hp x (hrun x hx)).inert
      rw [List.forall_mem_cons] at hinert
      rw [List.cons_append] at hclean ⊢
      rcases tokens_append_inert ha with ⟨-, happend⟩ | ⟨ts, tag, factor, -, -, happend⟩
      · rw [happend c _ hinert.1, tokens_append_of_inert .drop hinert.2,
          List.forall_mem_append] at hclean
        rw [statedIn_append_run hcommas, statedIn, happend c _ hinert.1,
          tokens_append_of_inert .drop hinert.2, List.filterMap_append]
        exact congrArg _ (ih [] (by simp) hclean.2)
      · have hc := hrun c List.mem_cons_self
        rw [happend c _ hinert.1 (hp c hc).ne_comma] at hclean
        exact absurd hc (hclean _ (List.mem_append_right _ List.mem_cons_self) _ rfl c
          (List.mem_append_right _ List.mem_cons_self))

/-! ## Values with bytes beyond ASCII -/

/-- Bytes as characters, with a mark for every byte beyond ASCII. -/
def marked (mark : Char) (value : List UInt8) : List Char :=
  value.map fun b => if b.toNat < 0x80 then Char.ofNat b.toNat else mark

/-- No character beyond ASCII is a blank. -/
def HasAsciiBlanks (value : List UInt8) : Prop :=
  ∀ c ∈ Utf8.decodeLossy value, isBlank c = true → c.toNat < 0x80

instance (value : List UInt8) : Decidable (HasAsciiBlanks value) :=
  decidable_of_iff ((Utf8.decodeLossy value).all fun c => !isBlank c || decide (c.toNat < 0x80))
    (by simp [HasAsciiBlanks, Bool.or_eq_true, imp_iff_not_or])

lemma marked_append (mark : Char) (a b : List UInt8) :
    marked mark (a ++ b) = marked mark a ++ marked mark b :=
  List.map_append

lemma eq_of_mem_marked {mark : Char} {bytes : List UInt8} (h : ∀ b ∈ bytes, 0x80 ≤ b.toNat) :
    ∀ c ∈ marked mark bytes, c = mark := by
  intro c hc
  obtain ⟨b, hb, rfl⟩ := List.mem_map.1 hc
  exact if_neg (Nat.not_lt.2 (h b hb))

/-- A property of values holds of every value if it passes from the rest of a value to the whole, where the
whole has one ASCII byte more, or one more run of bytes beyond ASCII. -/
lemma run_induction {P : List UInt8 → Prop} (nil : P [])
    (ascii : ∀ b rest, b.toNat < 0x80 → P rest → P (b :: rest))
    (run : ∀ b run rest, (∀ x ∈ b :: run, 0x80 ≤ x.toNat) → (∀ x ∈ rest.head?, x.toNat < 0x80) →
      P rest → P (b :: run ++ rest))
    (value : List UInt8) : P value := by
  induction hlen : value.length using Nat.strong_induction_on generalizing value with
  | _ n ih =>
      cases value with
      | nil => exact nil
      | cons b rest =>
          rw [List.length_cons] at hlen
          by_cases hb : b.toNat < 0x80
          · exact ascii b rest hb (ih rest.length (by omega) rest rfl)
          · let wide : UInt8 → Bool := fun x => 0x80 ≤ x.toNat
            have hrun : ∀ x ∈ b :: rest.takeWhile wide, 0x80 ≤ x.toNat := by
              refine List.forall_mem_cons.2 ⟨by omega, fun x hx => ?_⟩
              simpa [wide] using List.mem_takeWhile_imp hx
            have hhead : ∀ x ∈ (rest.dropWhile wide).head?, x.toNat < 0x80 := by
              intro x hx
              have hnot := List.head?_dropWhile_not wide rest
              rw [hx] at hnot
              simpa [wide] using hnot
            have hlt : (rest.dropWhile wide).length < n := by
              have := rest.length_dropWhile_le wide
              omega
            have hwhole := run b _ _ hrun hhead (ih _ hlt _ rfl)
            rwa [List.cons_append, List.takeWhile_append_dropWhile] at hwhole

/-- **A decoded value is the marked one with other runs in it.** -/
lemma eqUpToRuns_marked (mark : Char) (value : List UInt8) :
    EqUpToRuns (0x80 ≤ ·.toNat) (· = mark) (Utf8.decodeLossy value) (marked mark value) := by
  induction value using run_induction with
  | nil => exact .nil
  | ascii b rest hb ih =>
      have hdecoded : Utf8.decodeLossy (b :: rest) = Char.ofNat b.toNat :: Utf8.decodeLossy rest :=
        Utf8.decodeLossy_append_cons hb [] rest
      rw [hdecoded, marked, List.map_cons, if_pos hb]
      exact .keep _ ih
  | run b run rest hrun hhead ih =>
      obtain ⟨c, decoded, hdecoded⟩ := List.exists_cons_of_ne_nil
        (Utf8.decodeLossy_ne_nil (hrun b List.mem_cons_self) run)
      have hwide := Utf8.le_of_mem_decodeLossy hrun
      rw [Utf8.decodeLossy_append hhead, marked_append, hdecoded]
      rw [hdecoded] at hwide
      exact .swap hwide (eq_of_mem_marked hrun) ih

/-! ## What values state -/

/-- A character beyond ASCII is inert. -/
lemma inert_of_le {c : Char} (h : 0x80 ≤ c.toNat) : Inert c := by
  refine ⟨?_, ?_, ?_, ?_⟩
  · by_contra halpha
    have := toNat_lt_of_isAlpha (Bool.not_eq_false _ ▸ halpha)
    omega
  · by_contra hdigit
    simp only [Bool.not_eq_false, Char.isDigit, Bool.and_eq_true, decide_eq_true_eq, ge_iff_le,
      UInt32.le_iff_toNat_le] at hdigit
    have h57 : c.toNat ≤ 57 := hdigit.2
    omega
  · by_contra hblank
    simp only [Bool.not_eq_false, isAsciiBlank, Bool.or_eq_true, Bool.and_eq_true,
      decide_eq_true_eq] at hblank
    rcases hblank with rfl | hblank
    · exact absurd h (by decide)
    · omega
  · intro hsign
    fin_cases hsign <;> exact absurd h (by decide)

/-- A character of which no part of the pattern may consist is inert. -/
lemma inert_of_classes {c : Char} (h : ∀ k ∈ (tokenPattern .ignore).classes, k.accepts c = false) :
    Inert c := by
  have hsign : ∀ d : Char, d < 'A' → CharClass.only d ∈ (tokenPattern .ignore).classes → c ≠ d := by
    intro d hd hmem
    simpa [CharClass.accepts_only hd] using h _ hmem
  refine ⟨?_, ?_, ?_, ?_⟩
  · rw [← accepts_letters]
    exact h letters (by decide)
  · rw [← accepts_decimals]
    exact h decimals (by decide)
  · rw [← accepts_blanks]
    exact h blanks (by decide)
  · simp only [List.mem_cons, List.not_mem_nil, or_false, not_or]
    exact ⟨hsign '-' (by decide) (by decide), hsign ';' (by decide) (by decide),
      hsign '=' (by decide) (by decide), hsign '.' (by decide) (by decide)⟩

lemma statedByValue_ignore_eq_marked {mark : Char} (hmark : Inert mark) (value : List UInt8) :
    statedByValue .ignore value = statedIn .ignore (marked mark value) :=
  statedIn_ignore_congr ((eqUpToRuns_marked mark value).imp (fun _ _ => inert_of_le)
    fun _ hc => hc ▸ hmark) []

lemma spoils_of_le {value : List UInt8} (hvalue : HasAsciiBlanks value) {c : Char}
    (hmem : c ∈ Utf8.decodeLossy value) (hc : 0x80 ≤ c.toNat) : Spoils c := by
  refine ⟨inert_of_le hc, ?_, ?_⟩
  · rintro rfl
    exact absurd hc (by decide)
  · by_contra hblank
    rw [Bool.not_eq_false] at hblank
    exact absurd (hvalue c hmem hblank) (by omega)

lemma statedByValue_drop_eq_marked {mark : Char} (hmark : Spoils mark) {value : List UInt8}
    (hvalue : HasAsciiBlanks value) :
    statedByValue .drop value = statedIn .drop (marked mark value) :=
  (statedIn_drop_congr ((eqUpToRuns_marked mark value).imp
    (fun _ hmem hc => spoils_of_le hvalue hmem hc) fun _ hc => hc ▸ hmark)).1 [] List.not_mem_nil

lemma ofHeader_ofList (policy : Policy) (cs : List Char) :
    Preference.ofHeader policy (String.ofList cs) = (Ranking.ofList (statedIn policy cs)).ordered := by
  rw [Preference.ofHeader, String.toList_ofList, statedIn]

/-- Values that state the same are resolved alike. -/
lemma resolve_decodeLossy_congr {policy : Policy} {value value' : List UInt8}
    (h : statedByValue policy value = statedByValue policy value') (sites : SiteMap) :
    resolve policy (some (String.ofList (Utf8.decodeLossy value))) sites =
      resolve policy (some (String.ofList (Utf8.decodeLossy value'))) sites := by
  refine resolve_congr ?_ sites
  rw [stated, stated, String.toList_ofList, String.toList_ofList]
  exact h

/-- An exclamation mark is no sign, and no blank. -/
lemma spoils_exclamation : Spoils '!' :=
  ⟨by constructor <;> decide, by decide, by decide⟩

/-! ## Main statement -/

/-- **Bytes beyond ASCII are inert in language headers.**  Under `Policy.drop` this is said of values that
are decoded without blanks beyond ASCII.

* Decoding gives the same preferences as any mark in place of every byte beyond ASCII, if no part of the
  pattern of tokens can match the mark.  Under `Policy.drop` factors take in every character but a comma,
  so there the mark is no comma, and it is no blank.
* Under `Policy.ignore` a value states what the parts before and after such bytes state.
* Under `Policy.drop` it states nothing that its ASCII parts do not state, with the same weights; and it
  states all of this, unless such a byte stands in a factor.
* Values that differ only in such bytes, and in how many stand together, are resolved alike. -/
theorem bytes_beyond_ascii_inert :
    (∀ mark : Char, (∀ k ∈ (tokenPattern .ignore).classes, k.accepts mark = false) →
      (∀ value, Preference.ofHeader .ignore (String.ofList (Utf8.decodeLossy value)) =
        Preference.ofHeader .ignore (String.ofList (marked mark value))) ∧
      (mark ≠ ',' → isBlank mark = false → ∀ value, HasAsciiBlanks value →
        Preference.ofHeader .drop (String.ofList (Utf8.decodeLossy value)) =
          Preference.ofHeader .drop (String.ofList (marked mark value)))) ∧
    (∀ before wide after : List UInt8, wide ≠ [] → (∀ b ∈ wide, 0x80 ≤ b.toNat) →
      statedByValue .ignore (before ++ (wide ++ after)) =
        statedByValue .ignore before ++ statedByValue .ignore after) ∧
    (∀ value, HasAsciiBlanks value →
      (statedByValue .drop value).Sublist (statedIn .drop (marked ',' value)) ∧
      ((∀ t ∈ tokens .drop (Utf8.decodeLossy value), ∀ factor, t.factor = some factor →
          ∀ c ∈ factor, c.toNat < 0x80) →
        statedByValue .drop value = statedIn .drop (marked ',' value))) ∧
    (∀ value value' : List UInt8, EqUpToRuns (0x80 ≤ ·.toNat) (0x80 ≤ ·.toNat) value value' →
      ∀ sites,
        resolve .ignore (some (String.ofList (Utf8.decodeLossy value))) sites =
          resolve .ignore (some (String.ofList (Utf8.decodeLossy value'))) sites ∧
        (HasAsciiBlanks value → HasAsciiBlanks value' →
          resolve .drop (some (String.ofList (Utf8.decodeLossy value))) sites =
            resolve .drop (some (String.ofList (Utf8.decodeLossy value'))) sites)) := by
  refine ⟨fun mark hmark => ?_, fun before wide after hne hwide => ?_, fun value hvalue => ?_,
    fun value value' hvalues sites => ?_⟩
  · have hinert := inert_of_classes hmark
    refine ⟨fun value => ?_, fun hcomma hblank value hvalue => ?_⟩
    · rw [ofHeader_ofList, ofHeader_ofList, ← statedByValue_ignore_eq_marked hinert, statedByValue]
    · rw [ofHeader_ofList, ofHeader_ofList,
        ← statedByValue_drop_eq_marked ⟨hinert, hcomma, hblank⟩ hvalue, statedByValue]
  · -- a comma in the place of the bytes separates
    obtain ⟨b, run, rfl⟩ := List.exists_cons_of_ne_nil hne
    have hends : ∀ c ∈ marked ',' (b :: run), Policy.ignore.Ends c := fun c hc =>
      eq_of_mem_marked hwide c hc ▸ Policy.ends_comma .ignore
    simp only [statedByValue_ignore_eq_marked inert_comma, marked_append]
    exact statedIn_append_run hends _ _
  · have hruns := (eqUpToRuns_marked ',' value).imp
      (fun c hmem hc => (⟨spoils_of_le hvalue hmem hc, hc⟩ : Spoils c ∧ 0x80 ≤ c.toNat))
      fun _ hc => hc
    refine ⟨?_, fun hfactors => ?_⟩
    · exact (statedIn_drop_sublist (hruns.imp (fun _ _ hc => hc.1) fun _ hc => hc) []
        List.not_mem_nil).1
    · exact statedIn_drop_eq_of_unspoiled (fun _ hc => hc.1) hruns [] List.not_mem_nil
        fun t ht factor hfactor c hc hwide =>
          Nat.not_lt.2 hwide.2 (hfactors t ht factor hfactor c hc)
  · have hmarked : EqUpToRuns (· = '!') (· = '!') (marked '!' value) (marked '!' value') :=
      hvalues.map (fun b hb => if_neg (Nat.not_lt.2 hb)) fun b hb => if_neg (Nat.not_lt.2 hb)
    have hspoils : ∀ c, c = '!' → Spoils c := fun c hc => hc ▸ spoils_exclamation
    have hinert : ∀ c, c = '!' → Inert c := fun c hc => (hspoils c hc).inert
    refine ⟨resolve_decodeLossy_congr ?_ sites,
      fun hvalue hvalue' => resolve_decodeLossy_congr ?_ sites⟩
    · rw [statedByValue_ignore_eq_marked spoils_exclamation.inert,
        statedByValue_ignore_eq_marked spoils_exclamation.inert]
      exact statedIn_ignore_congr (hmarked.imp (fun c _ => hinert c) hinert) []
    · rw [statedByValue_drop_eq_marked spoils_exclamation hvalue,
        statedByValue_drop_eq_marked spoils_exclamation hvalue']
      exact (statedIn_drop_congr (hmarked.imp (fun c _ => hspoils c) hspoils)).1 [] List.not_mem_nil

/-- A byte inside a tag, two behind a tag, and the rest of a character in a factor; and the same value with
other bytes. -/
theorem bytes_beyond_ascii_inert_truncated :
    let sites : SiteMap := ⟨.ofList [("de", "/de/"), ("en", "/en/"), ("fr", "/fr/")], by decide⟩
    let bytes (text : String) : List UInt8 := Utf8.encode text.toList
    let before := bytes "d" ++ ([0xC3] ++ (bytes "e, fr" ++ ([0xE2, 0x82] ++ bytes ";q=0.2, de;q=0.9")))
    let before' := bytes "d" ++ ([0xFF, 0x80] ++ (bytes "e, fr" ++ ([0xC5] ++ bytes ";q=0.2, de;q=0.9")))
    let value := before ++ ([0xA9] ++ bytes " it")
    let value' := before' ++ ([0xF0, 0xC3] ++ bytes " it")
    let text := String.ofList (Utf8.decodeLossy value)
    let text' := String.ofList (Utf8.decodeLossy value')
    Preference.ofHeader .ignore text = Preference.ofHeader .ignore "d!e, fr!!;q=0.2, de;q=0.9! it" ∧
      Preference.ofHeader .drop text = Preference.ofHeader .drop "d!e, fr!!;q=0.2, de;q=0.9! it" ∧
      statedByValue .ignore value = statedByValue .ignore before ++ statedByValue .ignore (bytes " it") ∧
      statedByValue .drop before = statedIn .drop "d,e, fr,,;q=0.2, de;q=0.9".toList ∧
      resolve .ignore (some text) sites = resolve .ignore (some text') sites ∧
      resolve .drop (some text) sites = resolve .drop (some text') sites := by
  intro sites bytes before before' value value' text text'
  obtain ⟨hmark, hsplit, hcommas, halike⟩ := bytes_beyond_ascii_inert
  obtain ⟨hignore, hdrop⟩ := hmark '!' (by decide)
  have hblanks : HasAsciiBlanks value := by decide +kernel
  have hmarked : String.ofList (marked '!' value) = "d!e, fr!!;q=0.2, de;q=0.9! it" := by decide +kernel
  have htokens : tokens .drop (Utf8.decodeLossy before) = [⟨['d'], none⟩, ⟨['e'], none⟩,
      ⟨['f', 'r'], none⟩, ⟨['q'], none⟩, ⟨['d', 'e'], some ['0', '.', '9']⟩] := by decide +kernel
  have hvalues : EqUpToRuns (0x80 ≤ ·.toNat) (0x80 ≤ ·.toNat) value value' := by
    simp only [value, value', before, before', List.append_assoc]
    exact .append_left (.swap (by simp) (by simp) (.append_left (.swap (by simp) (by simp)
      (.append_left (.swap (by simp) (by simp) (.refl _)) _)) _)) _
  obtain ⟨hresolve, hresolve'⟩ := halike value value' hvalues sites
  refine ⟨hmarked ▸ hignore value, hmarked ▸ hdrop (by decide) (by decide) value hblanks,
    hsplit before [0xA9] (bytes " it") (List.cons_ne_nil _ _) (by simp), ?_,
    hresolve, hresolve' hblanks (by decide +kernel)⟩
  have hcommas' := (hcommas before (by decide +kernel)).2 (by simp [htokens])
  have hmarked' : marked ',' before = "d,e, fr,,;q=0.2, de;q=0.9".toList := by decide +kernel
  rw [hcommas', hmarked']

/-- A byte in a factor makes the factor malformed.  Were it a character that no part of the pattern matches,
the factor would end before it. -/
theorem not_drop_eq_unmatched :
    ¬ ∀ (mark : Char) (value : List UInt8),
      (∀ policy, ∀ k ∈ (tokenPattern policy).classes, k.accepts mark = false) →
      HasAsciiBlanks value →
      Preference.ofHeader .drop (String.ofList (Utf8.decodeLossy value)) =
        Preference.ofHeader .drop (String.ofList (marked mark value)) := by
  intro h
  have hclasses : ∀ policy, ∀ k ∈ (tokenPattern policy).classes, k.accepts ',' = false := by
    intro policy
    cases policy <;> decide
  exact absurd (h ',' (Utf8.encode "de;q=0.5é".toList) hclasses (by decide +kernel))
    (by decide +kernel)

end Negotiation

end Signpost
