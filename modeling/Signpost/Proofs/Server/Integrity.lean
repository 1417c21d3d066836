import Mathlib.Tactic.Common
import Signpost.Proofs.Negotiation.Choice
import Signpost.Proofs.Server.Answer
import Signpost.Proofs.Server.Run
import Signpost.Proofs.Text.Json

/-!
# Where visitors are sent

Landing pages that were never checked may hold anything, and may come at any time while a server runs.
What a visitor is sent is still one page of the pages in force, as it stands, or an error.

* **Redirects** (`Http.Response.SendsTo`): the page is the only location of the response, byte for byte,
  unless a header field cannot carry it.
* **Health reports** (`Answer.Lists`): the report lists the languages that have a page.  It is read back
  as JSON, so no code can break out of it.

**`Server.redirect_integrity`** says both of the state that any actions lead to.
-/

namespace Signpost

open Http Negotiation Text

namespace Http

/-- The text holds a control character other than the tab, in one of its bytes. -/
def HasControlByte (s : String) : Prop :=
  ∃ b ∈ Utf8.encode s.toList, b < 0x20 ∧ b ≠ 0x09 ∨ b = 0x7F

instance (s : String) : Decidable (HasControlByte s) :=
  inferInstanceAs (Decidable (∃ b ∈ Utf8.encode s.toList, b < 0x20 ∧ b ≠ 0x09 ∨ b = 0x7F))

lemma isFieldByte_iff {b : UInt8} :
    isFieldByte b = true ↔ ¬ (b < 0x20 ∧ b ≠ 0x09 ∨ b = 0x7F) := by
  simp only [isFieldByte, Bool.or_eq_true, Bool.and_eq_true, decide_eq_true_eq, ne_eq,
    UInt8.le_iff_toNat_le, UInt8.lt_iff_toNat_lt, ← UInt8.toNat_inj]
  show (32 ≤ b.toNat ∧ ¬ b.toNat = 127) ∨ b.toNat = 9 ↔
    ¬ (b.toNat < 32 ∧ ¬ b.toNat = 9 ∨ b.toNat = 127)
  omega

/-- A field can carry the texts without control characters, and no others. -/
lemma isFieldText_iff {s : String} : isFieldText s = true ↔ ¬ HasControlByte s := by
  simp only [isFieldText, List.all_eq_true, isFieldByte_iff, HasControlByte, not_exists, not_and]

/-- The response is a redirect that names the location once, as it stands.  If a field cannot carry the
location, it is an error that names none. -/
def Response.SendsTo (response : Response) (location : String) : Prop :=
  ¬ HasControlByte location ∧ response.status = 302 ∧
      Fields.values "location" response.fields = [Utf8.encode location.toList] ∨
    HasControlByte location ∧ response.status = 500 ∧ Fields.values "location" response.fields = []

lemma Response.sendsTo_redirect (location : String) : (redirect location).SendsTo location := by
  unfold redirect
  split
  · next htext => exact Or.inl ⟨isFieldText_iff.1 htext, rfl, rfl⟩
  · next htext => exact Or.inr ⟨not_not.1 (mt isFieldText_iff.2 htext), rfl, rfl⟩

end Http

namespace Answer

/-- The text is the JSON object with the list of the languages as its first entry, and with nothing
after the list but the status and the version. -/
def Lists (text : String) (languages : List String) : Prop :=
  ∃ array, text.toList = "\x7b\"languages\":".toList ++ array ∧
    readJsonArray? array =
      some (languages, ",\"status\":\"ok\",\"version\":\"0.1.0\"\x7d".toList)

/-- **The health report lists the languages that have a page.** -/
lemma lists_healthReport (sites : SiteMap) : Lists (healthReport sites) sites.languages := by
  have hrest : (",\"status\":\"ok\",\"version\":" ++ quoteJson version ++ "\x7d").toList =
      ",\"status\":\"ok\",\"version\":\"0.1.0\"\x7d".toList := by
    decide
  refine ⟨_, ?_, readJsonArray?_append sites.languages _⟩
  rw [← hrest]
  unfold healthReport
  simp only [String.toList_append, List.append_assoc]
  rfl

lemma exists_redirect_of_admits {settings : Settings} {r : Request} (h : settings.Admits r)
    (hpath : r.path ≠ healthPath) (sites : SiteMap) (freshId : String) :
    ∃ answer, toRequest? settings sites freshId r = some answer ∧
      answer.resolution =
        some (resolveRequest settings.negotiation.invalidWeight sites r) ∧
      answer.response.SendsTo
        (resolveRequest settings.negotiation.invalidWeight sites r).location := by
  obtain ⟨answer, hanswer, hleaves⟩ := exists_toRequest?_of_admits h sites freshId
  rw [route, if_neg hpath] at hleaves
  refine ⟨answer, hanswer, hleaves.resolution, ?_⟩
  rw [Response.SendsTo, hleaves.status, hleaves.values "location" (by decide)]
  exact Response.sendsTo_redirect _

lemma exists_healthReport_of_admits {settings : Settings} {r : Request} (h : settings.Admits r)
    (hpath : r.path = healthPath) (hmethod : r.method = "GET") (sites : SiteMap)
    (freshId : String) :
    ∃ answer, toRequest? settings sites freshId r = some answer ∧ answer.response.status = 200 ∧
      Lists answer.response.body sites.languages := by
  obtain ⟨answer, hanswer, hleaves⟩ := exists_toRequest?_of_admits h sites freshId
  have hreading : isReading r.method = true := by
    rw [hmethod]
    decide
  have hhead : r.method ≠ "HEAD" := by
    rw [hmethod]
    decide
  rw [route, if_pos hpath, health, if_pos hreading] at hleaves
  refine ⟨answer, hanswer, hleaves.status, ?_⟩
  rw [hleaves.body, if_neg hhead]
  exact lists_healthReport sites

end Answer

namespace Server

/-- **Redirects are honest in every run.**  After any actions, whether or not the new settings among
them are valid:

* The landing pages are those in force, and there is one for the fallback language.
* The languages ascend, so none is listed twice, and they are those that have a page.
* A request that is let through to the redirecting route is sent to the page of one of these languages:
  by a redirect that names the page and nothing else, or, if the page has a control character in it, by
  an error that names nothing.
* No other request is redirected.
* A request that is let through and reads the health report is told these languages, in this order. -/
theorem redirect_integrity {start : Settings} {server : Server} (h : start? start = .ok server)
    (actions : List Action) :
    let now := (server.run actions).2
    now.sites.table = pagesInForce start.sites actions ∧ (now.sites.get? "en").isSome ∧
    now.sites.languages.Pairwise (· < ·) ∧
    (∀ code, code ∈ now.sites.languages ↔ (now.sites.get? code).isSome) ∧
    (∀ freshId r, start.Admits r → r.path ≠ "/health" →
      ∃ answer resolution, (now.handle freshId r).1 = some answer ∧
        answer.resolution = some resolution ∧ resolution.language ∈ now.sites.languages ∧
        now.sites.get? resolution.language = some resolution.location ∧
        answer.response.SendsTo resolution.location) ∧
    (∀ freshId r answer, (now.handle freshId r).1 = some answer → answer.resolution.isSome →
      start.Admits r ∧ r.path ≠ "/health") ∧
    (∀ freshId r, start.Admits r → r.path = "/health" → r.method = "GET" →
      ∃ answer, (now.handle freshId r).1 = some answer ∧ answer.response.status = 200 ∧
        Answer.Lists answer.response.body now.sites.languages) := by
  intro now
  have hfollows : Follows start actions now := follows_run h actions
  have hanswer : ∀ freshId r, (now.handle freshId r).1 =
      Answer.toRequest? start now.sites freshId r := by
    intro freshId r
    rw [handle_answer, hfollows.settings]
  refine ⟨SiteMap.table_of_ofTable? hfollows.sites, now.sites.has_fallback,
    now.sites.table.pairwise_languages, fun code => PageTable.mem_languages_iff, ?_, ?_, ?_⟩
  · intro freshId r hadmits hpath
    obtain ⟨answer, htoRequest, hresolution, hsends⟩ :=
      Answer.exists_redirect_of_admits hadmits hpath now.sites freshId
    have hpage := get?_resolve start.negotiation.invalidWeight (Fields.acceptLanguage? r.fields)
      now.sites
    refine ⟨answer, _, (hanswer freshId r).trans htoRequest, hresolution, ?_, hpage, hsends⟩
    exact PageTable.mem_languages_iff.2 (Option.isSome_of_eq_some hpage)
  · intro freshId r answer hhandle hsome
    rw [hanswer] at hhandle
    rcases Answer.cases_of_toRequest? hhandle with ⟨hreaches, -⟩ | ⟨-, hnone, -⟩
    · exact hreaches
    · rw [hnone] at hsome
      cases hsome
  · intro freshId r hadmits hpath hmethod
    rw [hanswer]
    exact Answer.exists_healthReport_of_admits hadmits hpath hmethod now.sites freshId

/-- A page with a line break in it replaces the only page: visitors are sent to no page at all, and
settings without pages change nothing about it. -/
theorem redirect_integrity_line_break :
    ∃ server answer, start? { sites := .ofList [("en", "/en/")] } = .ok server ∧
      ((server.run [.update { sites := .ofList [("en", "/en/\r\nset-cookie: a=b")] },
        .update {}]).2.handle "1" ⟨"GET", "/", [], []⟩).1 = some answer ∧
      answer.response.status = 500 ∧ Fields.values "location" answer.response.fields = [] := by
  obtain ⟨server, h⟩ : ∃ server, start? { sites := .ofList [("en", "/en/")] } = .ok server :=
    ⟨_, rfl⟩
  obtain ⟨htable, -, -, -, hredirects, -⟩ := redirect_integrity h
    [.update { sites := .ofList [("en", "/en/\r\nset-cookie: a=b")] }, .update {}]
  obtain ⟨answer, resolution, hanswer, -, -, hpage, hsends⟩ :=
    hredirects "1" ⟨"GET", "/", [], []⟩ ⟨by decide, (fun n hn => by cases hn), by decide⟩ (by decide)
  refine ⟨server, answer, h, hanswer, ?_⟩
  -- there is only one page that the visitor could have been sent to
  have hlocation : resolution.location = "/en/\r\nset-cookie: a=b" := by
    have hmem := PageTable.get?_eq_some_iff.1 hpage
    rw [htable] at hmem
    exact congrArg Prod.snd (List.mem_singleton.1 hmem)
  rw [hlocation] at hsends
  rcases hsends with ⟨hclean, -⟩ | ⟨-, hstatus, hvalues⟩
  · exact absurd (by decide) hclean
  · exact ⟨hstatus, hvalues⟩

end Server

end Signpost
