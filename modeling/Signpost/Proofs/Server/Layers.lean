import Mathlib.Tactic.Common
import Signpost.Proofs.Http.AnnouncedSize
import Signpost.Proofs.Server.Answer
import Signpost.Proofs.Server.Run

/-!
# The layers around the routes

**One by one.**  A layer makes a handler of the handler inside it: it answers in its place, or changes
the request on the way in, or the response on the way out.  `Handler.layered` puts the layers around the
routes, and `Answer.toRequest?_eq_layered` says that this is how requests are answered.

**Which layer answers.**  A place for the request comes first, then the size of its body, then its time,
and only then its path and its method.

**What is added.**  `Answer.values_limited` are the security fields of an answer, and no answer has an id
before it is identified (`Answer.values_limited_of_not_mem`).

**`Server.layers_take_precedence`** says so of a server that was started with any settings.
-/

namespace Signpost

open Http Negotiation Text

/-- What does not exceed the limit is allowed. -/
lemma Settings.allowsSize_of_not_exceeds {settings : Settings} {r : Request}
    (h : ¬ r.Exceeds settings.security.maxBodySize) : settings.AllowsSize r := by
  intro n hn
  rw [← Nat.not_lt]
  intro hmost
  rw [← Request.any_announcedSize?_iff, hn] at h
  exact h (decide_eq_true hmost)

/-! ## Requests with an id -/

namespace Answer

lemma values_addId {name : String} (h : requestIdName ≠ name) (freshId : String) (r : Request) :
    Fields.values name (r.addId freshId).fields = Fields.values name r.fields :=
  Fields.values_addIfAbsent h r.fields

lemma announcedSize?_addId (freshId : String) (r : Request) :
    (r.addId freshId).announcedSize? = r.announcedSize? := by
  rw [Request.announcedSize?, Request.announcedSize?, Fields.first?, Fields.first?,
    values_addId (by decide)]

lemma route_addId (policy : Policy) (sites : SiteMap) (freshId : String) (r : Request) :
    route policy sites (r.addId freshId) = route policy sites r := by
  have hlanguage : Fields.acceptLanguage? (r.addId freshId).fields =
      Fields.acceptLanguage? r.fields := by
    rw [Fields.acceptLanguage?, Fields.acceptLanguage?, values_addId (by decide)]
  rw [route, route, redirect, redirect, resolveRequest, resolveRequest, hlanguage]
  rfl

end Answer

/-! ## One by one -/

/-- What answers requests; some it may never answer. -/
abbrev Handler := Request → Option Answer

namespace Handler

/-- The routes. -/
def routes (policy : Policy) (sites : SiteMap) : Handler := fun r =>
  some (Answer.route policy sites r)

/-- Each answer gets a field that it does not have. -/
def withField (inner : Handler) (field : Field) : Handler := fun r =>
  (inner r).map (·.mapResponse (·.withDefault field))

/-- Each answer gets the security fields that it does not have, if they are wanted. -/
def withSecurity (inner : Handler) (wanted : Bool) : Handler :=
  if wanted then Response.securityFields.foldl withField inner else inner

/-- With no seconds the time is over before there is an answer. -/
def withTime (inner : Handler) (secs : Nat) : Handler := fun r =>
  if secs = 0 then some Answer.timedOut else inner r

/-- Too large a body is refused. -/
def withSize (inner : Handler) (most : Nat) : Handler := fun r =>
  if r.announcedSize?.any (most < ·) then some Answer.tooLarge else inner r

/-- A request waits for a place, and there may be none. -/
def withPlaces (inner : Handler) (places : Nat) : Handler := fun r =>
  if places = 0 then none else inner r

/-- The log is told, and the answer stays as it is. -/
def traced (inner : Handler) : Handler := inner

/-- An answer without an id gets that of its request, if it has one. -/
def keepingId (inner : Handler) : Handler := fun r =>
  match Fields.first? requestIdName r.fields with
  | some id => withField inner ⟨requestIdName, id⟩ r
  | none => inner r

/-- A request without an id gets the fresh one. -/
def givingId (inner : Handler) (freshId : String) : Handler := fun r =>
  inner (r.addId freshId)

/-- An answer is made ready to leave. -/
def finishing (inner : Handler) : Handler := fun r =>
  (inner r).map (·.mapResponse (Answer.finished r))

/-- The routes with the layers around them, from the inside out. -/
def layered (settings : Settings) (sites : SiteMap) (freshId : String) : Handler :=
  routes settings.negotiation.invalidWeight sites
    |>.withSecurity settings.security.enableHeaders
    |>.withTime settings.timeouts.requestSecs
    |>.withSize settings.security.maxBodySize
    |>.withPlaces settings.listener.maxConcurrentRequests
    |>.traced
    |>.keepingId
    |>.givingId freshId
    |>.finishing

lemma foldl_withField (inner : Handler) (fields : List Field) (r : Request) :
    fields.foldl withField inner r =
      (inner r).map (·.mapResponse fun response => fields.foldl Response.withDefault response) := by
  induction fields generalizing inner with
  | nil => simp [Answer.mapResponse]
  | cons field rest ih =>
      rw [List.foldl_cons, ih, withField, Option.map_map]
      rfl

lemma withSecurity_routes (policy : Policy) (sites : SiteMap) (wanted : Bool) (r : Request) :
    (routes policy sites).withSecurity wanted r =
      let routed := Answer.route policy sites r
      some (if wanted then routed.mapResponse Response.secure else routed) := by
  cases wanted with
  | false => rfl
  | true => exact foldl_withField (routes policy sites) Response.securityFields r

end Handler

namespace Answer

/-- **The answer to a request is that of the layers.** -/
theorem toRequest?_eq_layered (settings : Settings) (sites : SiteMap) (freshId : String)
    (r : Request) :
    toRequest? settings sites freshId r = Handler.layered settings sites freshId r := by
  have hlimited : (((Handler.routes settings.negotiation.invalidWeight sites).withSecurity
      settings.security.enableHeaders).withTime settings.timeouts.requestSecs).withSize
      settings.security.maxBodySize (r.addId freshId) = some (limited settings sites r) := by
    simp only [Handler.withSize, Handler.withTime, Handler.withSecurity_routes,
      announcedSize?_addId, route_addId, limited]
    split
    · rfl
    · split <;> rfl
  -- the request has an id by then, its own or the fresh one, so there is always one to keep
  have hkept : ∀ inner : Handler, inner.keepingId (r.addId freshId) =
      inner.withField ⟨requestIdName, (Fields.first? requestIdName r.fields).getD
        (Utf8.encode freshId.toList)⟩ (r.addId freshId) := by
    intro inner
    have hid : Fields.first? requestIdName (r.addId freshId).fields = _ :=
      Fields.first?_addIfAbsent (.ofText requestIdName freshId) r.fields
    rw [Handler.keepingId, hid]
    rfl
  rw [Handler.layered, Handler.finishing, Handler.givingId, hkept, Handler.withField,
    Handler.traced, Handler.withPlaces, toRequest?, hlimited]
  split <;> rfl

/-! ## What is added -/

/-- The names of the fields that routes and refusals set. -/
def ownNames : List String := ["content-type", "location", "vary"]

lemma mem_ownNames_of_mem_route {policy : Policy} {sites : SiteMap} {r : Request} {field : Field}
    (h : field ∈ (route policy sites r).response.fields) : field.name ∈ ownNames := by
  unfold route health redirect Response.redirect at h
  split at h
  · split at h
    · cases List.mem_singleton.1 h
      decide
    · cases h
  · dsimp only at h
    split at h
    · simp only [List.mem_cons, List.not_mem_nil, or_false] at h
      rcases h with rfl | rfl <;> simp [ownNames, Field.ofText]
    · cases h

/-- The health route serves those who read. -/
lemma status_health (sites : SiteMap) (r : Request) :
    (health sites r).response.status = if r.method = "GET" ∨ r.method = "HEAD" then 200 else 405 := by
  simp only [health, isReading, Bool.or_eq_true, decide_eq_true_eq]
  split <;> rfl

/-- No route answers as the refusals do. -/
lemma status_route (policy : Policy) (sites : SiteMap) (r : Request) :
    (route policy sites r).response.status ∉ [413, 408] := by
  unfold route
  split
  · rcases (health_status sites r).2 with h | h <;> simp [h]
  · rcases redirect_status policy sites r with h | h <;> simp [h]

lemma values_eq_nil_of_ownNames {name : String} (h : name ∉ ownNames) {fields : List Field}
    (hfields : ∀ field ∈ fields, field.name ∈ ownNames) : Fields.values name fields = [] :=
  Fields.values_eq_nil_iff.2 fun field hfield heq => h (heq ▸ hfields field hfield)

lemma values_route {name : String} (h : name ∉ ownNames) (policy : Policy) (sites : SiteMap)
    (r : Request) : Fields.values name (route policy sites r).response.fields = [] :=
  values_eq_nil_of_ownNames h fun _ hfield => mem_ownNames_of_mem_route hfield

/-- An answer is a refusal, or what the route gives, with the security fields if they are wanted. -/
lemma limited_cases (settings : Settings) (sites : SiteMap) (r : Request) :
    limited settings sites r ∈ [tooLarge, timedOut] ∨
      limited settings sites r =
        let routed := route settings.negotiation.invalidWeight sites r
        if settings.security.enableHeaders then routed.mapResponse Response.secure else routed := by
  unfold limited
  split
  · exact Or.inl (by simp)
  · split
    · exact Or.inl (by simp)
    · exact Or.inr rfl

/-- Only the security fields are added before an answer is identified. -/
lemma values_limited_of_not_mem {name : String} (hown : name ∉ ownNames)
    (hsecurity : name ∉ Response.securityFields.map (·.name)) (settings : Settings)
    (sites : SiteMap) (r : Request) :
    Fields.values name (limited settings sites r).response.fields = [] := by
  have hroute := values_route hown settings.negotiation.invalidWeight sites r
  rcases limited_cases settings sites r with hrefused | hrouted
  · simp only [List.mem_cons, List.not_mem_nil, or_false] at hrefused
    rcases hrefused with heq | heq <;> rw [heq] <;>
      exact values_eq_nil_of_ownNames hown (by decide)
  · rw [hrouted]
    dsimp only
    split
    · exact (Response.values_secure hsecurity _).trans hroute
    · exact hroute

/-- **The security fields are on the answers of the routes**, if they are wanted. -/
lemma values_limited {field : Field} (h : field ∈ Response.securityFields) (settings : Settings)
    (sites : SiteMap) (r : Request) :
    Fields.values field.name (limited settings sites r).response.fields =
      if settings.security.enableHeaders = true ∧
        (limited settings sites r).response.status ∉ [413, 408] then [field.value] else [] := by
  have hown : field.name ∉ ownNames := by
    revert field
    decide
  rcases limited_cases settings sites r with hrefused | hrouted
  · simp only [List.mem_cons, List.not_mem_nil, or_false] at hrefused
    rcases hrefused with heq | heq <;> rw [heq, if_neg (by simp [tooLarge, timedOut, Response.empty])] <;>
      exact values_eq_nil_of_ownNames hown (by decide)
  · have hroute := values_route hown settings.negotiation.invalidWeight sites r
    have hstatus := status_route settings.negotiation.invalidWeight sites r
    rw [hrouted]
    cases settings.security.enableHeaders with
    | false => exact hroute
    | true => exact (Response.values_secure_of_mem h hroute).trans (if_pos ⟨rfl, hstatus⟩).symm

end Answer

namespace Server

open Answer

/-- **Which layer has the say.**  A server was started with any settings, and anything has happened since.
A request is answered as the layers answer it, one inside the other:

* If there are no places it is never answered, and otherwise it is.
* An announced size above the limit is refused, on whatever path and after whatever time.
* Else a time limit of zero has passed.
* Else the path `/health` reports to those who read and refuses other methods, and every other path
  redirects, whatever the method.

An answer has one id, that of the request if it has one.  It has the three security fields, each once and
with its fixed value, if they are wanted and no limit was broken, and else it has none of them. -/
theorem layers_take_precedence {start : Settings} {server : Server} (h : start? start = .ok server)
    (actions : List Action) (freshId : String) (r : Request) :
    let now := (server.run actions).2
    let answer? := (now.handle freshId r).1
    answer? = Handler.layered start now.sites freshId r ∧
    (start.listener.maxConcurrentRequests = 0 → answer? = none) ∧
    (start.listener.maxConcurrentRequests ≠ 0 → ∃ answer, answer? = some answer ∧
      (r.Exceeds start.security.maxBodySize →
        LeavesAs r tooLarge answer ∧ answer.response.status = 413) ∧
      (¬ r.Exceeds start.security.maxBodySize → start.timeouts.requestSecs = 0 →
        LeavesAs r timedOut answer ∧ answer.response.status = 408) ∧
      (¬ r.Exceeds start.security.maxBodySize → start.timeouts.requestSecs ≠ 0 →
        (r.path = "/health" → LeavesAs r (health now.sites r) answer ∧
          answer.response.status = if r.method = "GET" ∨ r.method = "HEAD" then 200 else 405) ∧
        (r.path ≠ "/health" →
          LeavesAs r (redirect start.negotiation.invalidWeight now.sites r) answer ∧
          answer.resolution =
            some (resolveRequest start.negotiation.invalidWeight now.sites r))) ∧
      Fields.values "x-request-id" answer.response.fields =
        [(Fields.first? "x-request-id" r.fields).getD (Utf8.encode freshId.toList)] ∧
      ∀ name value, (name, value) ∈ [("x-content-type-options", "nosniff"),
          ("x-frame-options", "DENY"), ("referrer-policy", "no-referrer")] →
        Fields.values name answer.response.fields =
          if start.security.enableHeaders = true ∧ answer.response.status ∉ [413, 408] then
            [Utf8.encode value.toList]
          else []) := by
  intro now answer?
  have hanswer : answer? = toRequest? start now.sites freshId r := by
    rw [← (follows_run h actions).settings]
    exact now.handle_answer freshId r
  refine ⟨hanswer.trans (toRequest?_eq_layered start now.sites freshId r), fun hplaces => ?_,
    fun hplaces => ?_⟩
  · rw [hanswer, toRequest?, if_pos hplaces]
  rw [toRequest?, if_neg hplaces] at hanswer
  -- what is said of the answer is said of `limited`, which then leaves
  have hleaves := leavesAs_finished_identified freshId r (limited start now.sites r)
  refine ⟨_, hanswer, ?_, ?_, ?_, ?_, ?_⟩
  · intro hsize
    have hlimited : limited start now.sites r = tooLarge :=
      if_pos (Request.any_announcedSize?_iff.2 hsize)
    rw [hlimited] at hleaves ⊢
    exact ⟨hleaves, hleaves.status⟩
  · intro hsize htime
    have hlimited : limited start now.sites r = timedOut := by
      rw [limited, if_neg (mt Request.any_announcedSize?_iff.1 hsize), if_pos htime]
    rw [hlimited] at hleaves ⊢
    exact ⟨hleaves, hleaves.status⟩
  · intro hsize htime
    obtain ⟨answer, htoRequest, hrouted⟩ := exists_toRequest?_of_admits
      ⟨hplaces, Settings.allowsSize_of_not_exceeds hsize, htime⟩ now.sites freshId
    rw [toRequest?, if_neg hplaces] at htoRequest
    cases htoRequest
    refine ⟨fun hpath => ?_, fun hpath => ?_⟩
    · rw [route, healthPath, if_pos hpath] at hrouted
      exact ⟨hrouted, hrouted.status.trans (status_health now.sites r)⟩
    · rw [route, healthPath, if_neg hpath] at hrouted
      exact ⟨hrouted, hrouted.resolution⟩
  · refine values_requestIdName_finished_identified freshId r ?_
    exact values_limited_of_not_mem (by decide) (by decide) start now.sites r
  · intro name value hpair
    have hfield : Field.ofText name value ∈ Response.securityFields :=
      List.mem_map_of_mem (f := fun p : String × String => Field.ofText p.1 p.2) hpair
    have hlate : ∀ field ∈ Response.securityFields, field.name ∉ lateNames := by decide
    have hvalues := values_limited hfield start now.sites r
    rw [← hleaves.status] at hvalues
    exact (values_finished_identified (hlate _ hfield) freshId r _).trans hvalues

/-- A server with a limit of ten bytes and no time.  Eleven bytes are too many even for the health route,
and the first of two ids is kept; without an announcement the time is over.  Neither answer has a
security field.  A server without such limits redirects, and its answer has all three. -/
theorem layers_take_precedence_eleven_bytes :
    let strict : Settings := {
      sites := .ofList [("en", "/en/")]
      timeouts := { requestSecs := 0 }
      security := { maxBodySize := 10 } }
    let usual : Settings := { sites := .ofList [("en", "/en/")] }
    let large : Request := ⟨"POST", "/health", [.ofText "content-length" "+0011",
      .ofText "x-request-id" "a", .ofText "x-request-id" "b"], []⟩
    (∃ server, start? strict = .ok server ∧
      (∃ answer, ((server.run [.stop]).2.handle "1" large).1 = some answer ∧
        answer.response.status = 413 ∧
        Fields.values "x-request-id" answer.response.fields = [Utf8.encode ['a']] ∧
        Fields.values "x-frame-options" answer.response.fields = []) ∧
      ∃ answer, ((server.run [.stop]).2.handle "1" ⟨"GET", "/health", [], []⟩).1 = some answer ∧
        answer.response.status = 408 ∧
        Fields.values "x-request-id" answer.response.fields = [Utf8.encode ['1']]) ∧
    ∃ server answer, start? usual = .ok server ∧
      ((server.run []).2.handle "1" ⟨"GET", "/", [], []⟩).1 = some answer ∧
      answer.response.status = 302 ∧
      Fields.values "x-content-type-options" answer.response.fields =
        [Utf8.encode "nosniff".toList] ∧
      Fields.values "x-frame-options" answer.response.fields = [Utf8.encode "DENY".toList] ∧
      Fields.values "referrer-policy" answer.response.fields =
        [Utf8.encode "no-referrer".toList] := by
  intro strict usual large
  have hsmall : ∀ path limit, ¬ Request.Exceeds ⟨"GET", path, [], []⟩ limit := by
    rintro path limit ⟨n, -, -, value, hvalue, -⟩
    cases hvalue
  refine ⟨?_, ?_⟩
  · obtain ⟨server, h⟩ : ∃ server, start? strict = .ok server := ⟨_, rfl⟩
    have hlarge : large.Exceeds strict.security.maxBodySize :=
      ⟨11, by decide, by decide, _, rfl, ['0', '0', '1', '1'], by simp, by simp, by decide,
        Or.inr rfl⟩
    refine ⟨server, h, ?_, ?_⟩
    · obtain ⟨answer, hanswer, hrefused, -, -, hid, hsecurity⟩ :=
        (layers_take_precedence h [.stop] "1" large).2.2 (by decide)
      have hstatus := (hrefused hlarge).2
      refine ⟨answer, hanswer, hstatus, hid, ?_⟩
      have hframe := hsecurity "x-frame-options" "DENY" (by decide)
      rwa [if_neg (by simp [hstatus])] at hframe
    · obtain ⟨answer, hanswer, -, htime, -, hid, -⟩ :=
        (layers_take_precedence h [.stop] "1" ⟨"GET", "/health", [], []⟩).2.2 (by decide)
      exact ⟨answer, hanswer, (htime (hsmall _ _) rfl).2, hid⟩
  · have h : start? usual = .ok ⟨usual, ⟨.ofList [("en", "/en/")], by decide⟩, {}, false⟩ := rfl
    obtain ⟨answer, hanswer, -, -, hroutes, -, hsecurity⟩ :=
      (layers_take_precedence h [] "1" ⟨"GET", "/", [], []⟩).2.2 (by decide)
    have hstatus : answer.response.status = 302 :=
      ((hroutes (hsmall _ _) (by decide)).2 (by decide)).1.status.trans (by decide)
    simp only [hstatus] at hsecurity
    exact ⟨_, answer, h, hanswer, hstatus, hsecurity "x-content-type-options" "nosniff" (by decide),
      hsecurity "x-frame-options" "DENY" (by decide),
      hsecurity "referrer-policy" "no-referrer" (by decide)⟩

end Server

end Signpost
