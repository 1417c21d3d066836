import Mathlib.Tactic.Common
import Signpost.Proofs.Negotiation.Choice
import Signpost.Proofs.Negotiation.Comma
import Signpost.Proofs.Text.Utf8
import Signpost.Server.Answer

/-!
# Language headers in several lines

A visitor may send a list of languages in one language header, or spread it over several.  What is
chosen depends only on what the headers state, and they state what their values state, one after the
other (`stated_acceptLanguage?`): no token, and no character that is not well formed, reaches from
one value into the next.

**`redirect_of_joined_values`** draws the consequences.  Several values mean what they mean in one
value, joined by a comma and a space, and a value may be split into two at any comma.
-/

namespace Signpost

open Http Negotiation Text

namespace Negotiation

/-! ## What values state -/

/-- The preferences that the value of one language header states. -/
def statedByValue (policy : Policy) (value : List UInt8) : List Preference :=
  statedIn policy (Utf8.decodeLossy value)

/-- A value with a comma in it states what the parts before and after the comma state. -/
lemma statedByValue_append_comma (policy : Policy) (before after : List UInt8) :
    statedByValue policy (before ++ 0x2C :: after) =
      statedByValue policy before ++ statedByValue policy after := by
  rw [statedByValue, Utf8.decodeLossy_append_cons (by decide)]
  exact statedIn_append_comma policy (Utf8.decodeLossy before) (Utf8.decodeLossy after)

/-- Joined values state what they state one after the other. -/
lemma statedByValue_intercalate (policy : Policy) (values : List (List UInt8)) :
    statedByValue policy ((Utf8.encode ", ".toList).intercalate values) =
      values.flatMap (statedByValue policy) := by
  have hcomma : ", ".toList = ',' :: [' '] := by decide
  have hspace : ∀ c ∈ [' '], isAsciiBlank c = true := by simp [isAsciiBlank]
  rw [statedByValue, Utf8.decodeLossy_intercalate, hcomma, statedIn_intercalate policy hspace,
    List.flatMap_map]
  rfl

/-- **Language headers state what their values state**, one after the other. -/
theorem stated_acceptLanguage? (policy : Policy) (fields : List Field) :
    stated policy (Fields.acceptLanguage? fields) =
      (Fields.values "accept-language" fields).flatMap (statedByValue policy) := by
  unfold Fields.acceptLanguage?
  split
  · next hnone =>
    rw [hnone]
    rfl
  · have htexts : String.toList ∘ (fun v => String.ofList (Utf8.decodeLossy v)) =
        Utf8.decodeLossy := by
      funext v
      exact String.toList_ofList
    rw [← statedByValue_intercalate, statedByValue, Utf8.decodeLossy_intercalate, stated,
      String.toList_intercalate, List.map_map, htexts, statedIn]

/-- What is chosen depends only on what the header states. -/
lemma resolve_congr {policy : Policy} {header header' : Option String}
    (h : stated policy header = stated policy header') (sites : SiteMap) :
    resolve policy header sites = resolve policy header' sites := by
  rw [resolve, resolve, preferences_eq_ordered, preferences_eq_ordered, h]

end Negotiation

/-! ## Redirects -/

/-- Requests whose language headers state the same are redirected alike. -/
lemma Answer.redirect_congr {policy : Policy} {r r' : Request}
    (h : (Fields.values "accept-language" r.fields).flatMap (statedByValue policy) =
      (Fields.values "accept-language" r'.fields).flatMap (statedByValue policy))
    (sites : SiteMap) : redirect policy sites r = redirect policy sites r' := by
  have hresolve : resolveRequest policy sites r = resolveRequest policy sites r' := by
    refine resolve_congr ?_ sites
    rw [stated_acceptLanguage?, stated_acceptLanguage?, h]
  rw [redirect, redirect, hresolve]

/-- Several values in one, joined by a comma and a space; where there is no value, there is none
afterwards. -/
def joinedValues : List (List UInt8) → List (List UInt8)
  | [] => []
  | values => [(Utf8.encode ", ".toList).intercalate values]

lemma flatMap_statedByValue_joinedValues (policy : Policy) (values : List (List UInt8)) :
    (joinedValues values).flatMap (statedByValue policy) =
      values.flatMap (statedByValue policy) := by
  unfold joinedValues
  split
  · rfl
  · rw [List.flatMap_singleton, statedByValue_intercalate]

/-- **Several language headers mean what they mean in one.**

* A request whose language header joins the values of another request is redirected like that one.
* It makes no difference whether bytes are decoded before or after they are joined.
* The tokens of a text with a comma in it are those before the comma and those after it.
* A request is redirected as before if one of its values is split at any comma. -/
theorem redirect_of_joined_values (policy : Policy) (sites : SiteMap) :
    (∀ r joined : Request, Fields.values "accept-language" joined.fields =
        joinedValues (Fields.values "accept-language" r.fields) →
      Answer.redirect policy sites r = Answer.redirect policy sites joined) ∧
    (∀ values : List (List UInt8),
      Utf8.decodeLossy ((Utf8.encode ", ".toList).intercalate values) =
        ", ".toList.intercalate (values.map Utf8.decodeLossy)) ∧
    (∀ before after : List Char,
      tokens policy (before ++ ',' :: after) = tokens policy before ++ tokens policy after) ∧
    (∀ (r split : Request) (values values' : List (List UInt8)) (before after : List UInt8),
      Fields.values "accept-language" r.fields =
        values ++ (before ++ 0x2C :: after) :: values' →
      Fields.values "accept-language" split.fields = values ++ before :: after :: values' →
      Answer.redirect policy sites r = Answer.redirect policy sites split) := by
  refine ⟨fun r joined hjoined => ?_, Utf8.decodeLossy_intercalate, tokens_append_comma policy, ?_⟩
  · refine Answer.redirect_congr ?_ sites
    rw [hjoined, flatMap_statedByValue_joinedValues]
  · intro r split values values' before after hr hsplit
    refine Answer.redirect_congr ?_ sites
    rw [hr, hsplit]
    simp only [List.flatMap_append, List.flatMap_cons, statedByValue_append_comma,
      List.append_assoc]

/-- A value that ends inside a character, one that ends with an equals sign, and a factor, sent one by
one and in one header; and a value that is split behind its first factor. -/
theorem redirect_of_joined_values_truncated :
    let sites : SiteMap := ⟨.ofList [("de", "/de/"), ("en", "/en/"), ("fr", "/fr/")], by decide⟩
    let request (values : List (List UInt8)) : Request :=
      ⟨"GET", "/", values.map (⟨"accept-language", ·⟩), []⟩
    let bytes (text : String) : List UInt8 := Utf8.encode text.toList
    let values := [bytes "fr;q=0.2" ++ [0xC3], bytes "de;q=", bytes "0.1"]
    Answer.redirect .drop sites (request values) =
        Answer.redirect .drop sites (request (joinedValues values)) ∧
      Answer.redirect .drop sites (request [bytes "fr;q=0.2,de;q=0.1"]) =
        Answer.redirect .drop sites (request [bytes "fr;q=0.2", bytes "de;q=0.1"]) := by
  intro sites request bytes values
  obtain ⟨hjoined, -, -, hsplit⟩ := redirect_of_joined_values .drop sites
  have hcomma : bytes "fr;q=0.2,de;q=0.1" = bytes "fr;q=0.2" ++ 0x2C :: bytes "de;q=0.1" := by
    decide
  refine ⟨hjoined _ _ rfl, ?_⟩
  rw [hcomma]
  exact hsplit _ _ [] [] _ _ rfl rfl

end Signpost
