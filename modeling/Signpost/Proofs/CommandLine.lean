import Mathlib.Tactic.Common
import Signpost.CommandLine
import Signpost.Proofs.Negotiation.Code
import Signpost.Proofs.Server.Integrity
import Signpost.Proofs.Server.ValidSettings
import Signpost.Proofs.Text.Utf8

/-!
# The commands and the server

What the commands print about a settings file is what a server that has just been started with it
does.

* `CommandLine.exists_loadSites`, `CommandLine.loadSites_of_error` — settings that load have a site map,
  so that the commands fail only where loading fails.
* `Http.Fields.acceptLanguage?_of_values` — a text comes out of a request as it was put in.
* `Server.exists_redirect_of_start?` — a server with valid settings redirects.

**`CommandLine.agrees_with_server`** compares the two.
-/

namespace Signpost

open Http Negotiation Text Server

/-- A request that carries a text as its only language header is one with this text, and a request that
carries none is one without. -/
lemma Http.Fields.acceptLanguage?_of_values {fields : List Field} {header : Option String}
    (h : Fields.values "accept-language" fields = header.toList.map fun text => Utf8.encode text.toList) :
    Fields.acceptLanguage? fields = header := by
  unfold Fields.acceptLanguage?
  cases header with
  | none => rw [h, Option.toList_none, List.map_nil]
  | some text =>
      rw [h, Option.toList_some, List.map_singleton]
      dsimp only
      rw [List.map_singleton, String.intercalate_singleton, Utf8.decodeLossy_encode,
        String.ofList_toList]

/-! ## The server -/

/-- A server that has just been started with valid settings sends every request that keeps the size
limit to a landing page, unless it is one for the health report. -/
lemma Server.exists_redirect_of_start? {settings : Settings} {server : Server}
    (hvalid : settings.Valid) (h : start? settings = .ok server) {r : Request}
    (hpath : r.path ≠ "/health") (hsize : settings.AllowsSize r) (freshId : String) :
    ∃ answer resolution, (server.handle freshId r).1 = some answer ∧
      resolution = Negotiation.resolve settings.negotiation.invalidWeight
        (Fields.acceptLanguage? r.fields) server.sites ∧
      answer.resolution = some resolution ∧ answer.response.status = 302 ∧
      Fields.values "location" answer.response.fields = [Utf8.encode resolution.location.toList] := by
  have hfollows := follows_of_start? h
  obtain ⟨answer, hanswer, hresolution, hsends⟩ :=
    Answer.exists_redirect_of_admits (hvalid.admits hsize) hpath server.sites freshId
  have htext := hfollows.isFieldText_location hvalid (fun next hnext => absurd hnext List.not_mem_nil)
    settings.negotiation.invalidWeight (Fields.acceptLanguage? r.fields)
  rw [handle_answer, hfollows.settings]
  rcases hsends with ⟨-, hstatus, hvalues⟩ | ⟨hcontrol, -⟩
  · exact ⟨answer, _, hanswer, rfl, hresolution, hstatus, hvalues⟩
  · exact absurd hcontrol (isFieldText_iff.1 htext)

namespace CommandLine

/-! ## The commands -/

lemma loadSites_of_error {file : FileState} {error : SettingsError}
    (h : Settings.load? file = .error error) : loadSites file = .error error := by
  rw [loadSites, h]
  rfl

lemma exists_loadSites {file : FileState} {settings : Settings}
    (h : Settings.load? file = .ok settings) :
    ∃ sites, SiteMap.ofTable? settings.sites = some sites ∧ loadSites file = .ok (settings, sites) := by
  obtain ⟨sites, hsites⟩ := (Settings.valid_of_load? h).exists_sites
  refine ⟨sites, hsites, ?_⟩
  rw [loadSites, h]
  show (settings.siteMap? >>= fun sites => pure (settings, sites)) = _
  rw [Settings.siteMap?_eq_ok_iff.2 hsites]
  rfl

/-- Loading finds fault with the file or with the settings, and not with the site map. -/
lemma load?_ne_noFallback (file : FileState) : Settings.load? file ≠ .error .noFallback := by
  intro h
  unfold Settings.load? at h
  split at h
  · unfold Settings.ofString? at h
    split at h
    · unfold Settings.validate at h
      split at h <;> cases h
    · cases h
  · cases h

lemma check_of_error {file : FileState} {error : SettingsError}
    (h : Settings.load? file = .error error) (path : String) (detail : Option String) :
    check path file detail = complain (error.message detail) := by
  rw [check, loadSites_of_error h]

lemma resolve_of_error {file : FileState} {error : SettingsError}
    (h : Settings.load? file = .error error) (header detail : Option String) :
    resolve header file detail = complain (error.message detail) := by
  rw [resolve, loadSites_of_error h]

lemma unlines_singleton (line : String) : unlines [line] = line ++ "\n" := by
  rw [unlines, List.map_singleton, String.join_cons, String.join_nil, String.append_empty]

/-- What is printed about a file that loads: the pages that a server with these settings starts with, and
the page that a header leads to among them. -/
lemma printed_of_start? {file : FileState} {settings : Settings} {server : Server}
    (h : Settings.load? file = .ok settings) (hstart : start? settings = .ok server)
    (detail : Option String) :
    (∀ path, check path file detail = ⟨0, unlines ((path ++ ": ok") ::
      server.sites.table.pages.map fun p => "  " ++ p.1 ++ " -> " ++ p.2), ""⟩) ∧
    ∀ header, resolve header file detail =
      let resolution := Negotiation.resolve settings.negotiation.invalidWeight header server.sites
      ⟨0, resolution.location ++ "\n",
        if resolution.fallback then "(fallback: no supported language matched)\n" else ""⟩ := by
  obtain ⟨sites, hsites, hload⟩ := exists_loadSites h
  obtain ⟨sites', hsites', -, rfl⟩ := start?_eq_ok_iff.1 hstart
  obtain rfl : sites = sites' := Option.some.inj (hsites.symm.trans hsites')
  refine ⟨fun path => ?_, fun header => ?_⟩
  · rw [check, hload]
  · have hremark : unlines ["(fallback: no supported language matched)"] =
        "(fallback: no supported language matched)\n" := by
      decide
    rw [resolve, hload]
    dsimp only
    rw [unlines_singleton, hremark]

/-- **The commands and the server agree.**

* If a file does not load, `check` and `resolve` print why, and nothing else; it is never for the lack of
  a site map.  Whatever the reader of documents says of a malformed file, both repeat.  If the file loads,
  they do not fail.
* Let a server be started with settings that load.  A request that carries a text as its only language
  header, or none, is redirected, unless it is one for the health report or announces too much.  For this
  header `resolve` prints the location of the answer, byte for byte and with the end of a line, and the
  remark on the fallback exactly if the visitor was sent to the fallback.
* What `check` lists are the languages of the health report, in the same order, each with its page.
  A visitor who asks for such a language is sent to this page, and so is everybody else who is sent to a
  page of this language. -/
theorem agrees_with_server (file : FileState) (detail : Option String) :
    (∀ error, Settings.load? file = .error error → error ≠ .noFallback ∧
      (∀ path, check path file detail = ⟨1, "", "error: " ++ error.message detail ++ "\n"⟩) ∧
      ∀ header, resolve header file detail = ⟨1, "", "error: " ++ error.message detail ++ "\n"⟩) ∧
    (∀ settings, Settings.load? file = .ok settings →
      (∀ path, (check path file detail).exitCode = 0) ∧
      ∀ header, (resolve header file detail).exitCode = 0) ∧
    ∀ settings server, Settings.load? file = .ok settings → start? settings = .ok server →
      (∀ header freshId r, Fields.values "accept-language" r.fields =
          header.toList.map (fun text : String => Utf8.encode text.toList) →
        r.path ≠ "/health" → settings.AllowsSize r →
        ∃ answer resolution location, (server.handle freshId r).1 = some answer ∧
          answer.resolution = some resolution ∧ answer.response.status = 302 ∧
          Fields.values "location" answer.response.fields = [location] ∧
          Utf8.encode (resolve header file detail).output.toList = location ++ [0x0A] ∧
          (resolve header file detail).remarks =
            if resolution.fallback then "(fallback: no supported language matched)\n" else "") ∧
      ∃ pages : List (String × String),
        (∀ path, (check path file detail).output = unlines ((path ++ ": ok") ::
          pages.map fun p => "  " ++ p.1 ++ " -> " ++ p.2)) ∧
        (∀ freshId r, r.path = "/health" → r.method = "GET" → settings.AllowsSize r →
          ∃ answer, (server.handle freshId r).1 = some answer ∧ answer.response.status = 200 ∧
            Answer.Lists answer.response.body (pages.map (·.1))) ∧
        (∀ p ∈ pages, ∀ freshId r, Fields.values "accept-language" r.fields = [Utf8.encode p.1.toList] →
          r.path ≠ "/health" → settings.AllowsSize r →
          ∃ answer, (server.handle freshId r).1 = some answer ∧ answer.response.status = 302 ∧
            Fields.values "location" answer.response.fields = [Utf8.encode p.2.toList]) ∧
        ∀ freshId r, r.path ≠ "/health" → settings.AllowsSize r →
          ∃ answer resolution, (server.handle freshId r).1 = some answer ∧
            answer.resolution = some resolution ∧ answer.response.status = 302 ∧
            Fields.values "location" answer.response.fields =
              [Utf8.encode resolution.location.toList] ∧
            (resolution.language, resolution.location) ∈ pages := by
  refine ⟨fun error h => ⟨fun hno => load?_ne_noFallback file (hno ▸ h),
    fun path => check_of_error h path detail, fun header => resolve_of_error h header detail⟩,
    fun settings h => ?_, fun settings server h hstart => ?_⟩
  · obtain ⟨sites, -, hload⟩ := exists_loadSites h
    exact ⟨fun path => by rw [check, hload], fun header => by rw [resolve, hload]⟩
  · have hvalid := Settings.valid_of_load? h
    have hfollows := follows_of_start? hstart
    obtain ⟨hcheck, hresolve⟩ := printed_of_start? h hstart detail
    have htable : server.sites.table = settings.sites := SiteMap.table_of_ofTable? hfollows.sites
    refine ⟨fun header freshId r hheader hpath hsize => ?_, server.sites.table.pages,
      fun path => ?_, fun freshId r hpath hmethod hsize => ?_,
      fun p hp freshId r hheader hpath hsize => ?_, fun freshId r hpath hsize => ?_⟩
    · obtain ⟨answer, resolution, hanswer, rfl, hresolution, hstatus, hlocation⟩ :=
        exists_redirect_of_start? hvalid hstart hpath hsize freshId
      rw [Fields.acceptLanguage?_of_values hheader] at hresolution hlocation
      refine ⟨answer, _, _, hanswer, hresolution, hstatus, hlocation, ?_, ?_⟩
      · rw [hresolve, String.toList_append, Utf8.encode, List.flatMap_append]
        rfl
      · rw [hresolve]
    · rw [hcheck]
    · rw [handle_answer, hfollows.settings]
      exact Answer.exists_healthReport_of_admits (hvalid.admits hsize) hpath hmethod _ _
    · obtain ⟨answer, resolution, hanswer, rfl, -, hstatus, hlocation⟩ :=
        exists_redirect_of_start? hvalid hstart hpath hsize freshId
      -- the codes of valid settings are tags themselves, so asking for one leads to its page
      have hcode : isLanguageCode p.1 = true := hvalid.languageCodes p (htable ▸ hp)
      have hpage : server.sites.get? p.1 = some p.2 := PageTable.get?_eq_some_iff.2 hp
      have hacceptLanguage : Fields.acceptLanguage? r.fields = some p.1 :=
        Fields.acceptLanguage?_of_values hheader
      rw [hacceptLanguage, resolve_languageCode _ hcode hpage] at hlocation
      exact ⟨answer, hanswer, hstatus, hlocation⟩
    · obtain ⟨answer, resolution, hanswer, rfl, hresolution, hstatus, hlocation⟩ :=
        exists_redirect_of_start? hvalid hstart hpath hsize freshId
      exact ⟨answer, _, hanswer, hresolution, hstatus, hlocation,
        PageTable.get?_eq_some_iff.1 (get?_resolve _ _ _)⟩

/-- What `resolve` prints for a header is where a server sends a request with this header. -/
theorem agrees_with_server_on_two_pages :
    let file := FileState.content (Utf8.encode "[sites]\nen = \"/en/\"\nde = \"/de/\"".toList)
    (resolve (some "de-AT") file).output = "/de/\n" ∧
      ∃ settings server answer, Settings.load? file = .ok settings ∧
        start? settings = .ok server ∧
        (server.handle "1" ⟨"HEAD", "/about", [.ofText "accept-language" "de-AT"], []⟩).1 =
          some answer ∧
        answer.response.status = 302 ∧
        Fields.values "location" answer.response.fields = [Utf8.encode "/de/".toList] := by
  intro file
  have hload : Settings.load? file = .ok { sites := .ofList [("de", "/de/"), ("en", "/en/")] } := by
    decide +kernel
  have hstart : start? { sites := .ofList [("de", "/de/"), ("en", "/en/")] } =
      .ok ⟨{ sites := .ofList [("de", "/de/"), ("en", "/en/")] },
        ⟨.ofList [("de", "/de/"), ("en", "/en/")], by decide⟩, {}, false⟩ := rfl
  have houtput : (resolve (some "de-AT") file).output = "/de/\n" := by
    rw [(printed_of_start? hload hstart none).2]
    decide +kernel
  obtain ⟨-, -, hagrees⟩ := agrees_with_server file none
  obtain ⟨hredirect, -⟩ := hagrees _ _ hload hstart
  obtain ⟨answer, -, location, hanswer, -, hstatus, hlocation, hbytes, -⟩ :=
    hredirect (some "de-AT") "1"
      ⟨"HEAD", "/about", [.ofText "accept-language" "de-AT"], []⟩ rfl (by decide)
      (fun n hn => by cases hn)
  rw [houtput] at hbytes
  have hend : Utf8.encode "/de/\n".toList = Utf8.encode "/de/".toList ++ [0x0A] := by decide
  rw [← List.append_cancel_right (hend.symm.trans hbytes)] at hlocation
  exact ⟨houtput, _, _, answer, hload, hstart, hanswer, hstatus, hlocation⟩

end CommandLine

end Signpost
