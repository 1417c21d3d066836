import Mathlib.Tactic.Common
import Signpost.Server.Answer

/-!
# What an answer is made of

* **Settings.**  Four sections of the settings have a say in an answer (`Answer.toRequest?_congr`).
* **Fields.**  On its way out a response only gains fields.  The values of a name that is none of
  theirs stay as they are (`Response.values_secure`, `Answer.values_finished_identified`), and a field
  that was missing is there once (`Fields.values_addIfAbsent_self`).
* **Limits.**  What the settings admit is answered by its route (`Answer.exists_toRequest?_of_admits`),
  and what they do not admit reaches no route (`Answer.of_toRequest?_of_not_admits`).
* **Redirects.**  Within the limits, every path but that of the health report is redirected
  (`Answer.toRequest?_of_redirected`).  The status of an answer tells whether it was
  (`Answer.cases_of_toRequest?`).
-/

namespace Signpost

/-! ## Responses on their way out -/

namespace Http

/-- A field more does not change the values of another name. -/
lemma Fields.values_addIfAbsent {name : String} {field : Field} (h : field.name ≠ name)
    (fields : List Field) : values name (addIfAbsent field fields) = values name fields := by
  unfold addIfAbsent
  split
  · rfl
  · simp [values, List.filter_append, h]

lemma Fields.values_eq_nil_iff {name : String} {fields : List Field} :
    values name fields = [] ↔ ∀ field ∈ fields, field.name ≠ name := by
  simp [values, List.filter_eq_nil_iff]

/-- A field that was missing is there once. -/
lemma Fields.values_addIfAbsent_self {field : Field} {fields : List Field}
    (h : values field.name fields = []) :
    values field.name (addIfAbsent field fields) = [field.value] := by
  have hnone : has field.name fields = false := by
    simpa [has] using values_eq_nil_iff.1 h
  have hfilter : fields.filter (·.name = field.name) = [] := List.map_eq_nil_iff.1 h
  simp [addIfAbsent, hnone, values, hfilter]

lemma Fields.first?_addIfAbsent (field : Field) (fields : List Field) :
    first? field.name (addIfAbsent field fields) =
      some ((first? field.name fields).getD field.value) := by
  cases h : values field.name fields with
  | nil => rw [first?, first?, values_addIfAbsent_self h, h, List.head?_nil, List.head?_cons,
      Option.getD_none]
  | cons value rest =>
      have hhas : has field.name fields = true := by
        rw [← Bool.not_eq_false, has, List.any_eq_false]
        intro hnone
        rw [values_eq_nil_iff.2 (by simpa using hnone)] at h
        cases h
      rw [addIfAbsent, if_pos hhas, first?, h, List.head?_cons, Option.getD_some]

namespace Response

lemma values_withDefault_self (field : Field) {r : Response}
    (h : Fields.values field.name r.fields = []) :
    Fields.values field.name (r.withDefault field).fields = [field.value] :=
  Fields.values_addIfAbsent_self h

lemma values_withDefault {name : String} {field : Field} (h : field.name ≠ name) (r : Response) :
    Fields.values name (r.withDefault field).fields = Fields.values name r.fields :=
  Fields.values_addIfAbsent h r.fields

/-- Added fields do not change the values of other names. -/
lemma values_foldl_withDefault {name : String} {fields : List Field}
    (h : name ∉ fields.map (·.name)) (r : Response) :
    Fields.values name (fields.foldl withDefault r).fields = Fields.values name r.fields := by
  induction fields generalizing r with
  | nil => rfl
  | cons field rest ih =>
      rw [List.map_cons, List.mem_cons, not_or] at h
      rw [List.foldl_cons, ih h.2, values_withDefault (Ne.symm h.1)]

/-- The security fields do not change the values of other names. -/
lemma values_secure {name : String} (h : name ∉ securityFields.map (·.name)) (r : Response) :
    Fields.values name r.secure.fields = Fields.values name r.fields :=
  values_foldl_withDefault h r

/-- An added field that a response does not have is there once. -/
lemma values_foldl_withDefault_of_mem {fields : List Field} (hnodup : (fields.map (·.name)).Nodup)
    {field : Field} (h : field ∈ fields) {r : Response}
    (hnone : Fields.values field.name r.fields = []) :
    Fields.values field.name (fields.foldl withDefault r).fields = [field.value] := by
  induction fields generalizing r with
  | nil => cases h
  | cons first rest ih =>
      rw [List.map_cons, List.nodup_cons] at hnodup
      rw [List.foldl_cons]
      rcases List.mem_cons.1 h with rfl | hrest
      · rw [values_foldl_withDefault hnodup.1, values_withDefault_self field hnone]
      · have hne : first.name ≠ field.name := fun heq =>
          hnodup.1 (heq ▸ List.mem_map_of_mem hrest)
        exact ih hnodup.2 hrest ((values_withDefault hne r).trans hnone)

lemma nodup_securityFields : (securityFields.map (·.name)).Nodup := by
  decide

/-- A security field that a response does not have is added once. -/
lemma values_secure_of_mem {field : Field} (h : field ∈ securityFields) {r : Response}
    (hnone : Fields.values field.name r.fields = []) :
    Fields.values field.name r.secure.fields = [field.value] :=
  values_foldl_withDefault_of_mem nodup_securityFields h hnone

end Response

end Http

/-- The size that a request announces, if it does, is within the limit. -/
def Settings.AllowsSize (settings : Settings) (r : Http.Request) : Prop :=
  ∀ n, r.announcedSize? = some n → n ≤ settings.security.maxBodySize

/-- The settings let a request through: some requests are handled at all, its body is not announced as
too large, and its time is not over at once. -/
structure Settings.Admits (settings : Settings) (r : Http.Request) : Prop where
  places : settings.listener.maxConcurrentRequests ≠ 0
  size : settings.AllowsSize r
  time : settings.timeouts.requestSecs ≠ 0

namespace Answer

open Http

/-- The names of the fields that a response can gain after all layers that know the settings. -/
def lateNames : List String := [requestIdName, "allow", "content-length"]

lemma status_finished_identified (freshId : String) (r : Request) (response : Response) :
    (finished r (identified freshId r response)).status = response.status := by
  unfold finished
  split <;> split <;> rfl

/-- A response leaves with its body, unless only the header is asked for. -/
lemma body_finished_identified (freshId : String) (r : Request) (response : Response) :
    (finished r (identified freshId r response)).body =
      if r.method = "HEAD" then "" else response.body := by
  unfold finished
  split <;> split <;> rfl

/-- At the very end a response gains two fields at most. -/
lemma values_finished {name : String} (hallow : name ≠ "allow") (hlength : name ≠ "content-length")
    (r : Request) (response : Response) :
    Fields.values name (finished r response).fields = Fields.values name response.fields := by
  have hmeasured : ∀ late : Response,
      Fields.values name late.measured.fields = Fields.values name late.fields :=
    fun late => Response.values_withDefault (Ne.symm hlength) late
  have hallowed : ∀ late : Response, Fields.values name
      (late.withDefault (.ofText "allow" "GET,HEAD")).fields = Fields.values name late.fields :=
    fun late => Response.values_withDefault (Ne.symm hallow) late
  unfold finished
  split <;> split
  · exact (hmeasured _).trans (hallowed _)
  · exact (hmeasured _).trans (hallowed _)
  · exact hmeasured _
  · exact hmeasured _

/-- The values of most names are those that the settings led to. -/
lemma values_finished_identified {name : String} (h : name ∉ lateNames) (freshId : String)
    (r : Request) (response : Response) :
    Fields.values name (finished r (identified freshId r response)).fields =
      Fields.values name response.fields := by
  simp only [lateNames, List.mem_cons, List.not_mem_nil, or_false, not_or] at h
  obtain ⟨hid, hallow, hlength⟩ := h
  rw [values_finished hallow hlength]
  exact Response.values_withDefault (Ne.symm hid) response

/-- A response without an id leaves with that of its request, or the fresh one. -/
lemma values_requestIdName_finished_identified (freshId : String) (r : Request) {response : Response}
    (h : Fields.values requestIdName response.fields = []) :
    Fields.values requestIdName (finished r (identified freshId r response)).fields =
      [(Fields.first? requestIdName r.fields).getD (Text.Utf8.encode freshId.toList)] := by
  rw [values_finished (by decide) (by decide)]
  exact Response.values_withDefault_self ⟨requestIdName, _⟩ h

/-! ## Answers -/

/-- Settings with the same limits and policy give the same answers. -/
lemma toRequest?_congr {a b : Settings} (hlistener : a.listener = b.listener)
    (hnegotiation : a.negotiation = b.negotiation) (htimeouts : a.timeouts = b.timeouts)
    (hsecurity : a.security = b.security) (sites : SiteMap) (freshId : String) (r : Request) :
    toRequest? a sites freshId r = toRequest? b sites freshId r := by
  unfold toRequest? limited
  rw [hlistener, hnegotiation, htimeouts, hsecurity]

/-- The names of the fields that a response can gain on its way out. -/
def addedNames : List String := Response.securityFields.map (·.name) ++ lateNames

/-- An answer leaves as the route gave it, apart from the fields that are added on the way, and from
the body where only the header is asked for. -/
structure LeavesAs (r : Request) (routed answer : Answer) : Prop where
  resolution : answer.resolution = routed.resolution
  status : answer.response.status = routed.response.status
  body : answer.response.body = if r.method = "HEAD" then "" else routed.response.body
  values : ∀ name, name ∉ addedNames →
    Fields.values name answer.response.fields = Fields.values name routed.response.fields

/-- Identifying and finishing an answer is leaving. -/
lemma leavesAs_finished_identified (freshId : String) (r : Request) (a : Answer) :
    LeavesAs r a (a.mapResponse fun response => finished r (identified freshId r response)) :=
  ⟨rfl, status_finished_identified _ _ _, body_finished_identified _ _ _, fun _ hname =>
    values_finished_identified (fun hmem => hname (List.mem_append_right _ hmem)) _ _ _⟩

/-- Whatever the settings let through leaves as its route gives it. -/
lemma limited_of_admits {settings : Settings} {r : Request} (h : settings.Admits r)
    (sites : SiteMap) :
    limited settings sites r =
      let routed := route settings.negotiation.invalidWeight sites r
      if settings.security.enableHeaders then routed.mapResponse Response.secure else routed := by
  have hfits : r.announcedSize?.any (settings.security.maxBodySize < ·) = false := by
    cases hn : r.announcedSize? with
    | none => rfl
    | some n => simpa using h.size n hn
  simp only [limited, hfits, if_neg h.time, Bool.false_eq_true, if_false]

/-- **Within the limits the answer of the route leaves.** -/
theorem exists_toRequest?_of_admits {settings : Settings} {r : Request} (h : settings.Admits r)
    (sites : SiteMap) (freshId : String) :
    ∃ answer, toRequest? settings sites freshId r = some answer ∧
      LeavesAs r (route settings.negotiation.invalidWeight sites r) answer := by
  refine ⟨_, by rw [toRequest?, if_neg h.places], ?_⟩
  rw [limited_of_admits h]
  set routed := route settings.negotiation.invalidWeight sites r
  dsimp only
  split
  · have hsecured := leavesAs_finished_identified freshId r (routed.mapResponse Response.secure)
    refine ⟨hsecured.resolution, hsecured.status, hsecured.body, fun name hname => ?_⟩
    rw [hsecured.values name hname]
    exact Response.values_secure (fun hmem => hname (List.mem_append_left _ hmem)) _
  · exact leavesAs_finished_identified freshId r routed

/-- Beyond the limits a request is refused before it reaches a route, or never answered. -/
lemma of_toRequest?_of_not_admits {settings : Settings} {sites : SiteMap} {freshId : String}
    {r : Request} {answer : Answer} (h : ¬ settings.Admits r)
    (hanswer : toRequest? settings sites freshId r = some answer) :
    answer.resolution = none ∧
      (answer.response.status = 413 ∨ answer.response.status = 408) := by
  unfold toRequest? at hanswer
  split at hanswer
  · cases hanswer
  · next hplaces =>
    cases hanswer
    simp only [mapResponse, status_finished_identified]
    unfold limited
    split
    · exact ⟨rfl, Or.inl rfl⟩
    · next hsize =>
      split
      · exact ⟨rfl, Or.inr rfl⟩
      · next htime =>
        refine absurd ⟨hplaces, fun n hn => ?_, htime⟩ h
        simpa [hn] using hsize

lemma health_status (sites : SiteMap) (r : Request) :
    (health sites r).resolution = none ∧
      ((health sites r).response.status = 200 ∨ (health sites r).response.status = 405) := by
  unfold health
  split
  · exact ⟨rfl, Or.inl rfl⟩
  · exact ⟨rfl, Or.inr rfl⟩

lemma redirect_status (policy : Negotiation.Policy) (sites : SiteMap) (r : Request) :
    (redirect policy sites r).response.status = 302 ∨
      (redirect policy sites r).response.status = 500 := by
  show (Response.redirect (resolveRequest policy sites r).location).status = 302 ∨
    (Response.redirect (resolveRequest policy sites r).location).status = 500
  unfold Response.redirect
  split
  · exact Or.inl rfl
  · exact Or.inr rfl

/-- **An answer comes from the redirecting route or it does not**, and its status tells which. -/
theorem cases_of_toRequest? {settings : Settings} {sites : SiteMap} {freshId : String} {r : Request}
    {answer : Answer} (hanswer : toRequest? settings sites freshId r = some answer) :
    ((settings.Admits r ∧ r.path ≠ healthPath) ∧
      answer.resolution = some (resolveRequest settings.negotiation.invalidWeight sites r) ∧
      answer.response.status ∈ [302, 500]) ∨
    (¬ (settings.Admits r ∧ r.path ≠ healthPath) ∧ answer.resolution = none ∧
      answer.response.status ∈ [200, 405, 408, 413]) := by
  by_cases h : settings.Admits r
  · obtain ⟨answer', hanswer', hleaves⟩ := exists_toRequest?_of_admits h sites freshId
    obtain rfl : answer' = answer := Option.some.inj (hanswer'.symm.trans hanswer)
    rw [hleaves.resolution, hleaves.status]
    by_cases hpath : r.path = healthPath
    · obtain ⟨hresolution, hstatus⟩ := health_status sites r
      rw [route, if_pos hpath]
      refine Or.inr ⟨fun hreaches => hreaches.2 hpath, hresolution, ?_⟩
      rcases hstatus with hstatus | hstatus <;> simp [hstatus]
    · have hstatus := redirect_status settings.negotiation.invalidWeight sites r
      rw [route, if_neg hpath]
      refine Or.inl ⟨⟨h, hpath⟩, rfl, ?_⟩
      rcases hstatus with hstatus | hstatus <;> simp [hstatus]
  · obtain ⟨hresolution, hstatus⟩ := of_toRequest?_of_not_admits h hanswer
    refine Or.inr ⟨fun hreaches => h hreaches.1, hresolution, ?_⟩
    rcases hstatus with hstatus | hstatus <;> simp [hstatus]

/-- **A redirect leaves as it was made**: where the limits are kept and the location can stand in a
field, the answer is a redirect without a body that names the location and what it varies with, each
once. -/
theorem toRequest?_of_redirected {settings : Settings} {r : Request}
    (hplaces : settings.listener.maxConcurrentRequests ≠ 0)
    (hsize : ∀ n, r.announcedSize? = some n → n ≤ settings.security.maxBodySize)
    (htime : settings.timeouts.requestSecs ≠ 0) (hpath : r.path ≠ healthPath) {sites : SiteMap}
    (hlocation : isFieldText
      (resolveRequest settings.negotiation.invalidWeight sites r).location = true)
    (freshId : String) :
    ∃ answer, toRequest? settings sites freshId r = some answer ∧
      answer.response.status = 302 ∧ answer.response.body = "" ∧
      Fields.values "vary" answer.response.fields = [Text.Utf8.encode "accept-language".toList] ∧
      Fields.values "location" answer.response.fields =
        [Text.Utf8.encode
          (resolveRequest settings.negotiation.invalidWeight sites r).location.toList] := by
  obtain ⟨answer, hanswer, hleaves⟩ :=
    exists_toRequest?_of_admits ⟨hplaces, hsize, htime⟩ sites freshId
  rw [route, if_neg hpath, redirect, Response.redirect, if_pos hlocation] at hleaves
  refine ⟨answer, hanswer, hleaves.status, ?_, ?_, ?_⟩
  · rw [hleaves.body]
    split <;> rfl
  · rw [hleaves.values "vary" (by decide)]
    rfl
  · rw [hleaves.values "location" (by decide)]
    rfl

end Answer

end Signpost
