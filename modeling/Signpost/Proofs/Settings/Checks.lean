import Mathlib.Tactic.Common
import Signpost.Proofs.SiteMap
import Signpost.Proofs.Settings.Validity

/-!
# The checks of settings

Settings are checked value by value and page by page.  Each check has one problem to report, or none,
and reads the few values that it is about.

**One problem for a check.**  `Settings.problems_eq_filterMap` says that what is wrong with settings are
the problems that their checks report, in the order of the checks.  So a check that fails is reported
once, whatever else is wrong (`Settings.filter_problems_check`).

**One order.**  `Check.Precedes` is an order of all checks, for any settings: the single values, then
the pages by ascending code, each with its code before its address.

**What a check reads.**  `Check.Agrees` says that two settings have the same values for a check.  Then
it reports the same problem of both (`Check.problem?_eq_of_agrees`).

**`checks_report_independently`** puts these together.
-/

namespace Signpost

open Text

/-- Something that is checked. -/
inductive Check where
  | value (checked : CheckedValue)
  | logLevel
  | fallbackPage
  | languageCode (code : String)
  | location (code : String)
  deriving DecidableEq, Repr

/-- The check that reports a problem. -/
def Problem.check : Problem → Check
  | invalidAddress checked _ => .value checked
  | zero checked => .value checked
  | unknownLogLevel _ => .logLevel
  | missingFallback => .fallbackPage
  | invalidLanguageCode code => .languageCode code
  | invalidUrl code _ _ => .location code

namespace Check

/-- What a check asks of settings. -/
def Passes (s : Settings) : Check → Prop
  | value .bindAddress => (Net.SocketAddress.ofString? s.listener.bindAddress).isSome
  | value .maxConcurrentRequests => s.listener.maxConcurrentRequests ≠ 0
  | value .requestSecs => s.timeouts.requestSecs ≠ 0
  | value .maxBodySize => s.security.maxBodySize ≠ 0
  | value .pollIntervalSecs => s.reload.enabled = false ∨ s.reload.pollIntervalSecs ≠ 0
  | logLevel => toLowerCase s.observability.logLevel ∈ Log.Level.all.map Log.Level.name
  | value .metricsAddress => s.observability.metricsEnabled = false ∨
      (Net.SocketAddress.ofString? s.observability.metricsAddress).isSome
  | fallbackPage => (s.sites.get? fallbackLanguage).isSome
  | languageCode code => (s.sites.get? code).isSome →
      ∃ a b : Char, code.toList = [a, b] ∧ a.isLower = true ∧ b.isLower = true
  | location code => ∀ url, s.sites.get? code = some url → locationFault? url = none

/-- The problem of a text that should be an address. -/
def badAddress? (checked : CheckedValue) (text : String) : Option Problem :=
  if Settings.isBadAddress text then some (.invalidAddress checked text) else none

/-- The problem of a number that should not be zero. -/
def zero? (checked : CheckedValue) (n : Nat) : Option Problem :=
  if n = 0 then some (.zero checked) else none

/-- The problem that a check reports. -/
def problem? (s : Settings) : Check → Option Problem
  | value .bindAddress => badAddress? .bindAddress s.listener.bindAddress
  | value .maxConcurrentRequests => zero? .maxConcurrentRequests s.listener.maxConcurrentRequests
  | value .requestSecs => zero? .requestSecs s.timeouts.requestSecs
  | value .maxBodySize => zero? .maxBodySize s.security.maxBodySize
  | value .pollIntervalSecs =>
    if s.reload.enabled then zero? .pollIntervalSecs s.reload.pollIntervalSecs else none
  | logLevel =>
    if (Log.Level.ofName? (toLowerCase s.observability.logLevel)).isNone then
      some (.unknownLogLevel s.observability.logLevel)
    else none
  | value .metricsAddress =>
    if s.observability.metricsEnabled then
      badAddress? .metricsAddress s.observability.metricsAddress
    else none
  | fallbackPage => if (s.sites.get? fallbackLanguage).isSome then none else some .missingFallback
  | languageCode code =>
    if (s.sites.get? code).isSome && !isLanguageCode code then some (.invalidLanguageCode code)
    else none
  | location code =>
    (s.sites.get? code).bind fun url => (locationFault? url).map (.invalidUrl code url)

/-- The place of a check among the single values; all pages come after them. -/
def place : Check → Nat
  | value .bindAddress => 0
  | value .maxConcurrentRequests => 1
  | value .requestSecs => 2
  | value .maxBodySize => 3
  | value .pollIntervalSecs => 4
  | logLevel => 5
  | value .metricsAddress => 6
  | fallbackPage => 7
  | languageCode _ => 8
  | location _ => 8

/-- The order in which problems are reported. -/
def Precedes : Check → Check → Prop
  | languageCode code, languageCode code' => code < code'
  | languageCode code, location code' => code ≤ code'
  | location code, languageCode code' => code < code'
  | location code, location code' => code < code'
  | a, b => a.place < b.place

/-- Two settings have the same values for a check. -/
def Agrees (s t : Settings) : Check → Prop
  | value .bindAddress => s.listener.bindAddress = t.listener.bindAddress
  | value .maxConcurrentRequests =>
    s.listener.maxConcurrentRequests = t.listener.maxConcurrentRequests
  | value .requestSecs => s.timeouts.requestSecs = t.timeouts.requestSecs
  | value .maxBodySize => s.security.maxBodySize = t.security.maxBodySize
  | value .pollIntervalSecs => s.reload.enabled = t.reload.enabled ∧
      s.reload.pollIntervalSecs = t.reload.pollIntervalSecs
  | logLevel => s.observability.logLevel = t.observability.logLevel
  | value .metricsAddress => s.observability.metricsEnabled = t.observability.metricsEnabled ∧
      s.observability.metricsAddress = t.observability.metricsAddress
  | fallbackPage =>
    (s.sites.get? fallbackLanguage).isSome = (t.sites.get? fallbackLanguage).isSome
  | languageCode code => (s.sites.get? code).isSome = (t.sites.get? code).isSome
  | location code => s.sites.get? code = t.sites.get? code

/-! ## One problem for a check -/

lemma badAddress?_eq_none_iff {checked : CheckedValue} {text : String} :
    badAddress? checked text = none ↔ (Net.SocketAddress.ofString? text).isSome := by
  simp [badAddress?, Settings.isBadAddress, Option.isSome_iff_ne_none]

lemma zero?_eq_none_iff {checked : CheckedValue} {n : Nat} : zero? checked n = none ↔ n ≠ 0 := by
  simp [zero?]

/-- A check has nothing to report if it passes. -/
lemma problem?_eq_none_iff {s : Settings} {c : Check} : c.problem? s = none ↔ c.Passes s := by
  cases c with
  | value checked =>
      cases checked with
      | pollIntervalSecs =>
          cases h : s.reload.enabled <;> simp [problem?, Passes, h, zero?_eq_none_iff]
      | metricsAddress =>
          cases h : s.observability.metricsEnabled <;>
            simp [problem?, Passes, h, badAddress?_eq_none_iff]
      | _ => simp [problem?, Passes, badAddress?_eq_none_iff, zero?_eq_none_iff]
  | logLevel => simp [problem?, Passes, Log.Level.ofName?]
  | fallbackPage => simp [problem?, Passes, Option.isSome_iff_ne_none]
  | languageCode code => simp [problem?, Passes, isLanguageCode_iff]
  | location code => simp [problem?, Passes]

lemma check_of_badAddress? {checked : CheckedValue} {text : String} {p : Problem}
    (h : badAddress? checked text = some p) : p.check = value checked := by
  rw [badAddress?, Option.ite_none_right_eq_some, Option.some.injEq] at h
  obtain ⟨-, rfl⟩ := h
  rfl

lemma check_of_zero? {checked : CheckedValue} {n : Nat} {p : Problem}
    (h : zero? checked n = some p) : p.check = value checked := by
  rw [zero?, Option.ite_none_right_eq_some, Option.some.injEq] at h
  obtain ⟨-, rfl⟩ := h
  rfl

/-- A problem tells which check reports it. -/
lemma check_of_problem? {s : Settings} {c : Check} {p : Problem} (h : c.problem? s = some p) :
    p.check = c := by
  cases c with
  | value checked =>
      cases checked with
      | bindAddress => exact check_of_badAddress? h
      | pollIntervalSecs => exact check_of_zero? (Option.ite_none_right_eq_some.1 h).2
      | metricsAddress => exact check_of_badAddress? (Option.ite_none_right_eq_some.1 h).2
      | _ => exact check_of_zero? h
  | location code =>
      simp only [problem?, Option.bind_eq_some_iff, Option.map_eq_some_iff] at h
      obtain ⟨url, -, fault, -, rfl⟩ := h
      rfl
  | _ =>
      simp only [problem?] at h
      split at h <;> cases h
      rfl

/-- **A check reads its own values only.** -/
lemma problem?_eq_of_agrees {s t : Settings} {c : Check} (h : c.Agrees s t) :
    c.problem? s = c.problem? t := by
  cases c with
  | value checked => cases checked <;> simp_all [Agrees, problem?]
  | fallbackPage | languageCode code =>
      rw [Agrees] at h
      rw [problem?, problem?, h]
  | _ => simp_all [Agrees, problem?]

/-! ## One order -/

/-- No two checks precede each other. -/
lemma Precedes.asymm {a b : Check} (h : a.Precedes b) : ¬ b.Precedes a := by
  cases a with
  | languageCode code =>
      cases b with
      | languageCode code' => exact String.lt_asymm h
      | location code' => exact String.not_lt.2 h
      | _ => exact Nat.lt_asymm h
  | location code =>
      cases b with
      | languageCode code' => exact String.not_le.2 h
      | location code' => exact String.lt_asymm h
      | _ => exact Nat.lt_asymm h
  | _ => cases b <;> exact Nat.lt_asymm h

lemma Precedes.ne {a b : Check} (h : a.Precedes b) : a ≠ b := by
  rintro rfl
  exact h.asymm h

/-- The checks of the single values, and that of the fallback language. -/
def single : List Check :=
  [value .bindAddress, value .maxConcurrentRequests, value .requestSecs, value .maxBodySize,
    value .pollIntervalSecs, logLevel, value .metricsAddress, fallbackPage]

/-- The checks of the page of a code. -/
def page (code : String) : List Check := [languageCode code, location code]

end Check

namespace Settings

/-- The checks of settings, in their order. -/
def checks (s : Settings) : List Check :=
  Check.single ++ s.sites.languages.flatMap Check.page

/-- The checks are listed in their order. -/
lemma pairwise_precedes_checks (s : Settings) : s.checks.Pairwise Check.Precedes := by
  rw [checks, List.pairwise_append, List.pairwise_flatMap]
  refine ⟨by simp [Check.single, Check.Precedes, Check.place], ⟨fun code _ => ?_, ?_⟩, ?_⟩
  · simp [Check.page, Check.Precedes]
  · refine s.sites.pairwise_languages.imp fun hlt a ha b hb => ?_
    simp only [Check.page, List.mem_cons, List.not_mem_nil, or_false] at ha hb
    rcases ha with rfl | rfl <;> rcases hb with rfl | rfl
    · exact hlt
    · exact String.not_lt.1 (String.lt_asymm hlt)
    · exact hlt
    · exact hlt
  · intro a ha b hb
    obtain ⟨code, -, hpage⟩ := List.mem_flatMap.1 hb
    have hbefore : ∀ a ∈ Check.single, ∀ b ∈ Check.page code, a.Precedes b := by
      simp [Check.single, Check.page, Check.Precedes, Check.place]
    exact hbefore a ha b hpage

lemma problemIf_eq_toList (condition : Bool) (problem : Problem) :
    problemIf condition problem = (if condition then some problem else none).toList := by
  cases condition <;> rfl

/-- The problems of a landing page are what its checks report. -/
lemma pageProblems_eq_filterMap {s : Settings} {code url : String}
    (h : s.sites.get? code = some url) :
    pageProblems (code, url) = (Check.page code).filterMap (·.problem? s) := by
  rw [pageProblems, problemIf_eq_toList]
  simp only [Check.page, List.filterMap_eq_flatMap_toList, List.flatMap_cons, List.flatMap_nil,
    Check.problem?, h, Option.isSome_some, Bool.true_and, Option.bind_some, List.append_nil]
  cases locationFault? url <;> rfl

/-- **What is wrong with settings are the problems that the checks report**, in the order of the
checks. -/
theorem problems_eq_filterMap (s : Settings) :
    s.problems = s.checks.filterMap (·.problem? s) := by
  have hpages : s.sites.pages.flatMap pageProblems =
      (s.sites.languages.flatMap Check.page).filterMap (·.problem? s) := by
    rw [List.filterMap_flatMap, PageTable.languages, List.flatMap_map]
    exact List.flatMap_congr fun page hpage =>
      pageProblems_eq_filterMap (PageTable.get?_eq_some_iff.2 hpage)
  rw [checks, List.filterMap_append, ← hpages, problems]
  congr 1
  simp only [Check.single, List.filterMap_eq_flatMap_toList, List.flatMap_cons, List.flatMap_nil,
    problemIf_eq_toList, Check.problem?, Check.badAddress?, Check.zero?, List.append_assoc,
    List.append_nil, decide_eq_true_eq, Bool.and_eq_true, ite_and]
  cases s.sites.get? fallbackLanguage <;> rfl

/-- A check that reports a problem is one of the checks: a page that is not listed has none to report. -/
lemma mem_checks_of_problem? {s : Settings} {c : Check} {p : Problem} (h : c.problem? s = some p) :
    c ∈ s.checks := by
  have hpage {code : String} (hcode : (s.sites.get? code).isSome) :
      ∀ c ∈ Check.page code, c ∈ s.checks := fun c hc =>
    List.mem_append_right _
      (List.mem_flatMap.2 ⟨code, PageTable.mem_languages_iff.2 hcode, hc⟩)
  cases c with
  | languageCode code =>
      simp only [Check.problem?, Option.ite_none_right_eq_some, Bool.and_eq_true] at h
      exact hpage h.1.1 _ (by simp [Check.page])
  | location code =>
      obtain ⟨url, hurl, -⟩ := Option.bind_eq_some_iff.1 h
      exact hpage (Option.isSome_of_eq_some hurl) _ (by simp [Check.page])
  | value checked => cases checked <;> simp [checks, Check.single]
  | _ => simp [checks, Check.single]

/-- **A check is reported once if it fails, and else not at all**, whatever else is wrong. -/
theorem filter_problems_check (s : Settings) (c : Check) :
    s.problems.filter (·.check = c) = (c.problem? s).toList := by
  have hother {checks : List Check} (h : ∀ d ∈ checks, d ≠ c) :
      (checks.filterMap (·.problem? s)).filter (·.check = c) = [] := by
    rw [List.filter_eq_nil_iff]
    intro p hp
    obtain ⟨d, hd, hreport⟩ := List.mem_filterMap.1 hp
    simpa [Check.check_of_problem? hreport] using h d hd
  rw [problems_eq_filterMap]
  by_cases hc : c ∈ s.checks
  · -- the checks before and behind it are others, for they stand in a strict order
    obtain ⟨before, after, heq⟩ := List.append_of_mem hc
    have hpairwise := s.pairwise_precedes_checks
    rw [heq, List.pairwise_append, List.pairwise_cons] at hpairwise
    obtain ⟨-, ⟨hafter, -⟩, hbefore⟩ := hpairwise
    rw [heq, List.filterMap_append, List.filter_append, List.filterMap_cons,
      hother fun d hd => (hbefore d hd c List.mem_cons_self).ne, List.nil_append]
    have hnone := hother fun d hd => (hafter d hd).ne.symm
    cases hreport : c.problem? s with
    | none => simp [hnone]
    | some p => simp [Check.check_of_problem? hreport, hnone]
  · cases hreport : c.problem? s with
    | none => exact hother fun d hd heq => hc (heq ▸ hd)
    | some p => exact absurd (mem_checks_of_problem? hreport) hc

/-- The problems are listed in the order of their checks. -/
lemma pairwise_precedes_problems (s : Settings) :
    (s.problems.map Problem.check).Pairwise Check.Precedes := by
  rw [problems_eq_filterMap, List.pairwise_map, List.pairwise_filterMap]
  refine s.pairwise_precedes_checks.imp fun h p hp q hq => ?_
  rwa [Check.check_of_problem? hp, Check.check_of_problem? hq]

/-- Settings are valid if they pass all checks. -/
lemma valid_iff_passes {s : Settings} : Valid s ↔ ∀ c : Check, c.Passes s := by
  rw [← problems_eq_nil_iff, problems_eq_filterMap, List.filterMap_eq_nil_iff]
  refine ⟨fun h c => ?_, fun h c _ => Check.problem?_eq_none_iff.2 (h c)⟩
  rw [← Check.problem?_eq_none_iff, Option.eq_none_iff_forall_ne_some]
  intro p hp
  rw [h c (mem_checks_of_problem? hp)] at hp
  cases hp

/-- Two problems that stand in one order stand in the same order wherever both are reported. -/
lemma sublist_problems {s t : Settings} {p q : Problem} (h : [p, q].Sublist s.problems)
    (hp : p ∈ t.problems) (hq : q ∈ t.problems) : [p, q].Sublist t.problems := by
  have hprecedes : p.check.Precedes q.check :=
    List.pairwise_iff_forall_sublist.1 (List.pairwise_map.1 s.pairwise_precedes_problems) h
  obtain ⟨before, after, heq⟩ := List.append_of_mem hp
  have hpairwise := List.pairwise_map.1 t.pairwise_precedes_problems
  rw [heq, List.pairwise_append] at hpairwise
  rw [heq, List.mem_append, List.mem_cons] at hq
  rcases hq with hbefore | rfl | hafter
  · exact absurd hprecedes (hpairwise.2.2 q hbefore p List.mem_cons_self).asymm
  · exact absurd rfl hprecedes.ne
  · rw [heq]
    exact ((List.singleton_sublist.2 hafter).cons_cons p).trans (List.sublist_append_right _ _)

/-- **Every check reports its own problem and no other.**

* Settings pass validation, unchanged, if they pass every check; otherwise all their problems are the
  error.
* A check that passes contributes nothing to the problems and one that fails contributes its problem,
  once.
* The problems stand in the order of their checks, which is the same for all settings.
* Settings that agree on what a check reads, whatever else is different, have the same problems of that
  check; and problems that two settings share stand in the same order in both.
* A text that gives settings gives these settings, or an error with these problems, and no other error. -/
theorem checks_report_independently (s : Settings) :
    (s.validate = .ok s ↔ ∀ c : Check, c.Passes s) ∧
    ((∃ c : Check, ¬ c.Passes s) → s.validate = .error (.invalid s.problems)) ∧
    (∀ c : Check, s.problems.filter (·.check = c) = (c.problem? s).toList ∧
      (c.problem? s = none ↔ c.Passes s)) ∧
    (s.problems.map Problem.check).Pairwise Check.Precedes ∧
    (∀ t : Settings,
      (∀ c : Check, c.Agrees s t →
        t.problems.filter (·.check = c) = s.problems.filter (·.check = c)) ∧
      ∀ p q, [p, q].Sublist s.problems → p ∈ t.problems → q ∈ t.problems →
        [p, q].Sublist t.problems) ∧
    ∀ text, (Toml.Document.ofString? text).bind ofDocument? = some s →
      (∀ c : Check, c.Passes s) ∧ ofString? text = .ok s ∨
      (∃ c : Check, ¬ c.Passes s) ∧ ofString? text = .error (.invalid s.problems) := by
  have hvalid : s.validate = .ok s ↔ ∀ c : Check, c.Passes s := by
    rw [validate_eq_ok_iff, and_iff_left rfl, valid_iff_passes]
  have hinvalid : (∃ c : Check, ¬ c.Passes s) → s.validate = .error (.invalid s.problems) := by
    rw [← not_forall, ← valid_iff_passes]
    exact validate_eq_error_of_not_valid
  refine ⟨hvalid, hinvalid, ?_, s.pairwise_precedes_problems, fun t => ⟨?_, ?_⟩, ?_⟩
  · exact fun c => ⟨s.filter_problems_check c, Check.problem?_eq_none_iff⟩
  · intro c hagrees
    rw [filter_problems_check, filter_problems_check, Check.problem?_eq_of_agrees hagrees]
  · exact fun p q hsublist hp hq => sublist_problems hsublist hp hq
  · intro text htext
    rw [ofString?_eq_validate htext]
    by_cases hpasses : ∀ c : Check, c.Passes s
    · exact Or.inl ⟨hpasses, hvalid.2 hpasses⟩
    · exact Or.inr ⟨not_forall.1 hpasses, hinvalid (not_forall.1 hpasses)⟩

/-- Settings with four problems and a poll interval that does not count.  In other settings, where almost
every check fails, the page that both have is reported as before. -/
theorem checks_report_independently_of_interval :
    let text := "reload.enabled=false\nreload.poll_interval_secs=0\ntimeouts.request_secs=0\n" ++
      "[sites]\nit=\"/it/\"\nDE=\"\""
    let s : Settings := {
      sites := .ofList [("it", "/it/"), ("DE", "")]
      timeouts := { requestSecs := 0 }
      reload := { enabled := false, pollIntervalSecs := 0 } }
    let t : Settings := {
      listener := { bindAddress := "nowhere", maxConcurrentRequests := 0 }
      sites := .ofList [("DE", ""), ("fr", "http://[::1")]
      reload := { enabled := true, pollIntervalSecs := 0 }
      observability := { logLevel := "loud", metricsAddress := "nowhere" } }
    (Toml.Document.ofString? text).bind ofDocument? = some s ∧
      ofString? text = .error (.invalid [.zero .requestSecs, .missingFallback,
        .invalidLanguageCode "DE", .invalidUrl "DE" "" .blank]) ∧
      (Check.location "DE").Agrees s t ∧
      t.problems.filter (·.check = .location "DE") = [.invalidUrl "DE" "" .blank] ∧
      [.invalidLanguageCode "DE", .invalidUrl "DE" "" .blank].Sublist t.problems := by
  intro text s t
  have htext : (Toml.Document.ofString? text).bind ofDocument? = some s := by decide +kernel
  have hproblems : s.problems = [.zero .requestSecs, .missingFallback,
      .invalidLanguageCode "DE", .invalidUrl "DE" "" .blank] := by decide +kernel
  have hagrees : (Check.location "DE").Agrees s t := by
    rw [Check.Agrees]
    decide +kernel
  have hfails : ¬ Check.fallbackPage.Passes s := by
    rw [Check.Passes]
    decide +kernel
  obtain ⟨-, -, -, -, hother, hload⟩ := checks_report_independently s
  refine ⟨htext, ?_, hagrees, ?_, ?_⟩
  · rcases hload text htext with ⟨hpasses, -⟩ | ⟨-, herror⟩
    · exact absurd (hpasses .fallbackPage) hfails
    · rw [herror, hproblems]
  · rw [(hother t).1 _ hagrees, hproblems]
    rfl
  · refine (hother t).2 _ _ ?_ (by decide +kernel) (by decide +kernel)
    rw [hproblems]
    decide +kernel

end Settings

end Signpost
