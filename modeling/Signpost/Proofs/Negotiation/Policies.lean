import Mathlib
import Signpost.Proofs.Negotiation.Choice
import Signpost.Proofs.Negotiation.Comma

/-!
# The two policies compared

The policies search a text in the same way until they come to a factor clause.  There they part.
Under `Policy.drop` the clause reaches to the next comma, and the tag before it may be discarded with
it.  Under `Policy.ignore` the tag is kept, and what is left of the clause is searched for more tags.
At the comma they are together again.

**In step.**  `map_statedIn_sublist` is the induction: from comma to comma, and between commas along
the search under `Policy.drop`.  What is stated under this policy is stated under the other policy as
well, as far as a view of the preferences does not tell their weights apart.

**`drop_only_removes`** uses it for two views, the tag alone and the whole preference.  The weights
are the same (`weight_of_clause`) unless a blank beyond ASCII stands next to a factor, for
`Policy.drop` cuts it off and `Policy.ignore` does not read past it.
-/

namespace Signpost.Negotiation

open Signpost.Text

/-! ## What a token states -/

/-- The weight of a tag under `Policy.ignore` if this text comes after its equals sign. -/
def clauseWeight (body : List Char) : Weight :=
  ((Policy.ignore.factor? body).bind fun p => Weight.ofFactor? p.1).getD .one

/-- Under `Policy.ignore` a tag with a factor clause is kept, and the search goes on somewhere. -/
lemma statedIn_ignore_of_clause {cs body : List Char} (htag : leadingTag cs ≠ [])
    (hclause : clauseBody? (cs.drop (leadingTag cs).length) = some body) :
    ∃ rest, statedIn .ignore cs =
      ⟨String.ofList (leadingTag cs), clauseWeight body⟩ :: statedIn .ignore rest := by
  cases hfactor : Policy.ignore.factor? body with
  | none =>
      refine ⟨skipBlanks (cs.drop (leadingTag cs).length), ?_⟩
      rw [statedIn_of_token? (token?_of_no_factor htag (by rw [hclause, Option.bind_some, hfactor])),
        clauseWeight, hfactor]
      rfl
  | some p =>
      refine ⟨p.2, ?_⟩
      rw [statedIn_of_token? (token?_of_factor htag (by rw [hclause, Option.bind_some, hfactor])),
        clauseWeight, hfactor]
      rfl

/-- Under `Policy.drop` a factor clause takes the rest of a text without commas, and its tag is kept
if the clause has a well-formed factor. -/
lemma statedIn_drop_of_clause {cs body : List Char} (hcomma : ',' ∉ cs) (htag : leadingTag cs ≠ [])
    (hclause : clauseBody? (cs.drop (leadingTag cs).length) = some body) :
    statedIn .drop cs = ((Weight.ofFactor? (trim body)).map
      (Preference.mk (String.ofList (leadingTag cs)))).toList := by
  have hnone : ∀ c ∈ body, decide (c ≠ ',') = true := by
    intro c hc
    have hmem := clauseBody?_drop_subset hclause hc
    exact decide_eq_true fun heq => hcomma (heq ▸ hmem)
  have hfactor : Policy.drop.factor? body = some (body, []) := by
    rw [Policy.factor?, List.takeWhile_eq_self_iff.2 hnone, List.dropWhile_eq_nil_iff.2 hnone]
  rw [statedIn_of_token? (token?_of_factor htag (by rw [hclause, Option.bind_some, hfactor])),
    statedIn_nil, List.append_nil]
  rfl

/-- A factor that is read between blanks is also read as the beginning of what follows the equals
sign, if all blanks are ASCII blanks. -/
lemma weight_of_clause {body : List Char} {w : Weight}
    (hblanks : ∀ c ∈ body, isBlank c = true → isAsciiBlank c = true)
    (h : Weight.ofFactor? (trim body) = some w) : clauseWeight body = w := by
  obtain ⟨f, hchars, rfl⟩ := Weight.ofFactor?_eq_some_iff.1 h
  obtain ⟨after, hafter, happend⟩ := exists_trimEnd_append (trimStart body)
  have hfactor : Policy.ignore.factor? body = some (f.chars, after) := by
    rw [Policy.factor?, skipBlanks, dropWhile_isAsciiBlank hblanks, ← happend, ← trim, ← hchars]
    exact leadingFactor?_append f hafter
  rw [clauseWeight, hfactor, Option.bind_some, Weight.ofFactor?_chars, Option.getD_some]

-- before a factor, a no-break space is cut off by one policy and stops the other
example : Weight.ofFactor? (trim "\u00A00.5".toList) = some ⟨0x3FE0000000000000, by decide⟩ ∧
    clauseWeight "\u00A00.5".toList = .one := by
  decide

/-! ## In step -/

/-- Between two commas: what is stated under `Policy.drop` is stated under `Policy.ignore`, in a view
in which the weights of the clauses make no difference. -/
lemma map_statedIn_sublist_of_piece {β : Type} (view : Preference → β) {cs : List Char}
    (hcomma : ',' ∉ cs)
    (hview : ∀ body ⊆ cs, ∀ tag w, Weight.ofFactor? (trim body) = some w →
      view ⟨tag, w⟩ = view ⟨tag, clauseWeight body⟩) :
    ((statedIn .drop cs).map view).Sublist ((statedIn .ignore cs).map view) := by
  induction cs using tokens.induct .drop with
  | case1 cs t rest htoken _ ih =>
      have htag := leadingTag_ne_nil_of_token? htoken
      cases hclause : clauseBody? (cs.drop (leadingTag cs).length) with
      | none =>
          -- no clause: both policies find the same token and go on at the same place
          rw [token?_of_no_factor htag (by rw [hclause, Option.bind_none])] at htoken
          obtain ⟨-, rfl⟩ := Prod.mk.inj (Option.some.inj htoken)
          have hsub := List.Subset.trans (skipBlanks_isSuffix (cs.drop (leadingTag cs).length)).subset
            (List.drop_subset _ cs)
          rw [statedIn_of_no_clause htag hclause, statedIn_of_no_clause htag hclause, List.map_cons,
            List.map_cons]
          refine (ih (fun hmem => hcomma (hsub hmem)) fun body hbody => ?_).cons_cons _
          exact hview body (List.Subset.trans hbody hsub)
      | some body =>
          have hbody := clauseBody?_drop_subset hclause
          obtain ⟨rest', hignore⟩ := statedIn_ignore_of_clause htag hclause
          rw [statedIn_drop_of_clause hcomma htag hclause, hignore, List.map_cons]
          cases hweight : Weight.ofFactor? (trim body) with
          | none => exact List.nil_sublist _
          | some w =>
              rw [Option.map_some, Option.toList_some, List.map_singleton,
                hview body hbody _ w hweight]
              exact (List.nil_sublist _).cons_cons _
  | case2 => simp
  | case3 c cs htoken ih =>
      have htag := leadingTag_eq_nil_of_token? htoken
      rw [statedIn_cons_of_leadingTag htag, statedIn_cons_of_leadingTag htag]
      refine ih (fun hmem => hcomma (List.mem_cons_of_mem c hmem)) fun body hbody => ?_
      exact hview body (List.Subset.trans hbody (List.subset_cons_self c cs))

/-- **In step**: the same for every text. -/
lemma map_statedIn_sublist {β : Type} (view : Preference → β) (cs : List Char)
    (hview : ∀ body ⊆ cs, ∀ tag w, Weight.ofFactor? (trim body) = some w →
      view ⟨tag, w⟩ = view ⟨tag, clauseWeight body⟩) :
    ((statedIn .drop cs).map view).Sublist ((statedIn .ignore cs).map view) := by
  induction cs using comma_induction with
  | piece cs hcomma => exact map_statedIn_sublist_of_piece view hcomma hview
  | append a b ha ih =>
      have hleft : a ⊆ a ++ ',' :: b := List.subset_append_left a _
      have hright : b ⊆ a ++ ',' :: b :=
        List.subset_append_of_subset_right a (List.subset_cons_self ',' b)
      rw [statedIn_append_comma, statedIn_append_comma, List.map_append, List.map_append]
      refine List.Sublist.append ?_ ?_
      · refine map_statedIn_sublist_of_piece view ha fun body hbody => ?_
        exact hview body (List.Subset.trans hbody hleft)
      · exact ih fun body hbody => hview body (List.Subset.trans hbody hright)

/-- The tags alone. -/
lemma map_tag_stated_sublist (header : Option String) :
    ((stated .drop header).map (·.tag)).Sublist ((stated .ignore header).map (·.tag)) := by
  cases header with
  | none => exact List.Sublist.refl _
  | some text => exact map_statedIn_sublist (·.tag) text.toList fun _ _ _ _ _ => rfl

/-- Under `Policy.ignore` no token is discarded. -/
lemma map_tag_stated_ignore (text : String) :
    (stated .ignore (some text)).map (·.tag) =
      (tokens .ignore text.toList).map fun t => String.ofList t.tag := by
  have hkept : ∀ t : Token, ∃ w, t.preference? .ignore = some ⟨String.ofList t.tag, w⟩ := by
    rintro ⟨tag, _ | factor⟩
    · exact ⟨_, rfl⟩
    · exact ⟨_, rfl⟩
  rw [stated]
  induction tokens .ignore text.toList with
  | nil => rfl
  | cons t ts ih =>
      obtain ⟨w, hw⟩ := hkept t
      rw [List.filterMap_cons, hw, List.map_cons, List.map_cons, ih]

/-! ## Pages -/

/-- A tag that is named and whose code has a page is supported with some weight. -/
lemma exists_supported {sites : SiteMap} {ps : List Preference} {p : Preference}
    (htag : p.tag ∈ ps.map (·.tag)) (hpage : (sites.get? p.code).isSome) :
    ∃ q, Supported sites ps q := by
  obtain ⟨w, hw⟩ := Option.isSome_iff_exists.1 (isSome_lastWeight?_iff.2 htag)
  -- the code of a preference does not depend on its weight
  exact ⟨⟨p.tag, w⟩, hw, hpage⟩

/-- **`Policy.drop` only removes.**

* The tags that it keeps are among those that are found under `Policy.ignore`, in the same order.
* In a header without blanks beyond ASCII they have the same weights.
* So a visitor who has to fall back under `Policy.ignore` has to fall back under `Policy.drop`. -/
theorem drop_only_removes :
    (∀ text : String, ((stated .drop (some text)).map (·.tag)).Sublist
      ((tokens .ignore text.toList).map fun t => String.ofList t.tag)) ∧
    (∀ text : String, (∀ c ∈ text.toList, isBlank c = true → isAsciiBlank c = true) →
      (stated .drop (some text)).Sublist (stated .ignore (some text))) ∧
    (∀ (header : Option String) (sites : SiteMap),
      (resolve .ignore header sites).fallback = true →
      (resolve .drop header sites).fallback = true) := by
  refine ⟨fun text => ?_, fun text hblanks => ?_, fun header sites hfallback => ?_⟩
  · rw [← map_tag_stated_ignore]
    exact map_tag_stated_sublist (some text)
  · have hsub := map_statedIn_sublist id text.toList fun body hbody tag w hweight => by
      rw [weight_of_clause (fun c hc => hblanks c (hbody hc)) hweight]
    rwa [List.map_id, List.map_id] at hsub
  · refine congrArg Resolution.fallback (resolve_of_forall_not_supported fun p hp => ?_)
    have htag : p.tag ∈ (stated .drop header).map (·.tag) :=
      isSome_lastWeight?_iff.1 (Option.isSome_of_eq_some hp.1)
    obtain ⟨q, hq⟩ := exists_supported ((map_tag_stated_sublist header).subset htag) hp.2
    obtain ⟨best, url, -, -, hresolve⟩ := resolve_of_supported hq
    rw [hresolve] at hfallback
    cases hfallback

/-- A clause with letters in it, whose tag is dropped, and a factor between blanks. -/
theorem drop_only_removes_letters :
    let sites : SiteMap := ⟨.ofList [("de", "/de/"), ("en", "/en/")], by decide⟩
    (stated .drop (some "fr ; q= 0.5 ,it;q=x")).Sublist
        (stated .ignore (some "fr ; q= 0.5 ,it;q=x")) ∧
      (resolve .drop (some "fr ; q= 0.5 ,it;q=x") sites).fallback = true := by
  intro sites
  obtain ⟨-, hstated, hfallback⟩ := drop_only_removes
  refine ⟨hstated _ (by simp [isBlank, isAsciiBlank]), hfallback _ _ ?_⟩
  cbv

end Signpost.Negotiation
