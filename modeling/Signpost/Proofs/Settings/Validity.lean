import Mathlib.Data.List.Basic
import Mathlib.Tactic.Common
import Signpost.Settings.Loading

/-!
# What valid settings are

`Settings.Valid` is the checklist behind `Settings.problems`, one field for each check.

* `Settings.problems_eq_nil_iff` — there is nothing to list exactly for valid settings.
* `Settings.valid_of_ofString?`, `Settings.valid_of_load?` — the settings that a text or a file gives are
  valid.
-/

namespace Signpost

lemma isLanguageCode_iff {code : String} :
    isLanguageCode code = true ↔ ∃ a b : Char, code.toList = [a, b] ∧ a.isLower = true ∧
      b.isLower = true := by
  rw [isLanguageCode, Bool.and_eq_true, decide_eq_true_eq, List.length_eq_two]
  constructor
  · rintro ⟨⟨a, b, hcode⟩, hall⟩
    rw [hcode] at hall
    exact ⟨a, b, hcode, by simpa using hall⟩
  · rintro ⟨a, b, hcode, ha, hb⟩
    exact ⟨⟨a, b, hcode⟩, by simp [hcode, ha, hb]⟩

namespace Settings

/-- There is nothing wrong with the settings. -/
structure Valid (s : Settings) : Prop where
  bindAddress : isBadAddress s.listener.bindAddress = false
  maxConcurrentRequests : s.listener.maxConcurrentRequests ≠ 0
  requestSecs : s.timeouts.requestSecs ≠ 0
  maxBodySize : s.security.maxBodySize ≠ 0
  /-- The file is looked at with pauses, if it is looked at. -/
  pollIntervalSecs : s.reload.enabled = true → s.reload.pollIntervalSecs ≠ 0
  logLevel : (Log.Level.ofName? (Text.toLowerCase s.observability.logLevel)).isSome
  /-- The metrics can be offered, if they are offered. -/
  metricsAddress : s.observability.metricsEnabled = true →
    isBadAddress s.observability.metricsAddress = false
  fallbackPage : (s.sites.get? fallbackLanguage).isSome
  languageCodes : ∀ page ∈ s.sites.pages, isLanguageCode page.1 = true
  locations : ∀ page ∈ s.sites.pages, locationFault? page.2 = none

lemma problemIf_eq_nil_iff {condition : Bool} {problem : Problem} :
    problemIf condition problem = [] ↔ condition = false := by
  cases condition <;> simp [problemIf]

/-- A landing page is in order if its code and its address are. -/
lemma pageProblems_eq_nil_iff {page : String × String} :
    pageProblems page = [] ↔ isLanguageCode page.1 = true ∧ locationFault? page.2 = none := by
  rw [pageProblems, List.append_eq_nil_iff, problemIf_eq_nil_iff, Bool.not_eq_false']
  cases locationFault? page.2 <;> simp

/-- **The checks are complete**: nothing is listed exactly for valid settings. -/
theorem problems_eq_nil_iff {s : Settings} : s.problems = [] ↔ Valid s := by
  simp only [problems, List.append_eq_nil_iff, problemIf_eq_nil_iff, List.flatMap_eq_nil_iff,
    pageProblems_eq_nil_iff, decide_eq_false_iff_not, Bool.and_eq_false_imp,
    Option.isNone_eq_false_iff]
  constructor
  · rintro ⟨⟨⟨⟨⟨⟨⟨⟨hbind, hplaces⟩, htime⟩, hsize⟩, hpoll⟩, hlevel⟩, hmetrics⟩, hfallback⟩, hpages⟩
    exact ⟨hbind, hplaces, htime, hsize, hpoll, hlevel, hmetrics, hfallback,
      fun page hpage => (hpages page hpage).1, fun page hpage => (hpages page hpage).2⟩
  · intro h
    exact ⟨⟨⟨⟨⟨⟨⟨⟨h.bindAddress, h.maxConcurrentRequests⟩, h.requestSecs⟩, h.maxBodySize⟩,
      h.pollIntervalSecs⟩, h.logLevel⟩, h.metricsAddress⟩, h.fallbackPage⟩,
      fun page hpage => ⟨h.languageCodes page hpage, h.locations page hpage⟩⟩

/-- Settings pass validation, unchanged, if they are valid. -/
lemma validate_eq_ok_iff {s t : Settings} : s.validate = .ok t ↔ Valid s ∧ t = s := by
  rw [← problems_eq_nil_iff]
  unfold validate
  split
  · next h => simp [h, eq_comm]
  · next h => simp_all

lemma validate_eq_error_of_not_valid {s : Settings} (h : ¬ Valid s) :
    s.validate = .error (.invalid s.problems) := by
  rw [← problems_eq_nil_iff] at h
  unfold validate
  split
  · next hnil => exact absurd hnil h
  · rfl

/-- A text that gives settings gives them unchanged if they are valid, and otherwise their problems. -/
lemma ofString?_eq_validate {s : Settings} {text : String}
    (h : (Toml.Document.ofString? text).bind ofDocument? = some s) : ofString? text = s.validate := by
  rw [ofString?, h]

/-- The settings that a text gives are valid. -/
theorem valid_of_ofString? {text : String} {s : Settings} (h : ofString? text = .ok s) :
    Valid s := by
  unfold ofString? at h
  split at h
  · obtain ⟨hvalid, rfl⟩ := validate_eq_ok_iff.1 h
    exact hvalid
  · cases h

lemma valid_of_load? {file : FileState} {s : Settings} (h : load? file = .ok s) : Valid s := by
  unfold load? at h
  split at h
  · exact valid_of_ofString? h
  · cases h

end Settings

end Signpost
