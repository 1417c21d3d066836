import Mathlib
import Signpost.Log.Filter
import Signpost.Proofs.Settings.Checks
import Signpost.Proofs.Text.LowerCase

/-!
# Checking the log level, and using it

The log level is lower-cased by the tables for all of Unicode, once when settings are checked and once
when the filter of the log is written.  Both come to the same: the names of the levels are ASCII words
without a `k`, and nothing but such a word in other ASCII letters is lower-cased to one
(`toLowerCase_eq_name_iff`).

**`Settings.log_level_read_alike`** draws the consequence.  What passes the check is one of five words, and
the filter is written with that word, so that it has the two directives it is meant to have.
-/

namespace Signpost

open Text Log

/-- A text is lower-cased to the name of a level if it is that name in letters of any case. -/
lemma toLowerCase_eq_name_iff {text : String} {level : Level} :
    toLowerCase text = level.name ↔ EqUpToCase text level.name := by
  have hascii : ∀ c ∈ level.name.toList, c.toNat < 0x80 := by
    cases level <;> simp [Level.name]
  have hk : 'k' ∉ level.name.toList := by cases level <;> decide
  have hsmall : level.name.toList.map Char.toLower = level.name.toList := by
    cases level <;> decide
  rw [EqUpToCase, hsmall, ← lowerCase_eq_iff hascii hk, toLowerCase, ← String.toList_inj,
    String.toList_ofList]

lemma Log.Level.mem_all (level : Level) : level ∈ Level.all := by
  cases level <;> decide

/-- The log level passes its check if it is the name of a level in letters of any case. -/
lemma Check.passes_logLevel_iff {s : Settings} : Check.logLevel.Passes s ↔
    ∃ level : Level, EqUpToCase s.observability.logLevel level.name := by
  simp only [Passes, List.mem_map, ← toLowerCase_eq_name_iff, Level.mem_all, true_and, eq_comm]

/-- The filter for a level in letters of any case is written with the name of the level. -/
lemma Log.Filter.defaultText_of_eqUpToCase {text : String} {level : Level}
    (h : EqUpToCase text level.name) :
    defaultText text = "lang_redirect=" ++ level.name ++ ",tower_http=" ++ level.name := by
  unfold defaultText
  rw [toLowerCase_eq_name_iff.2 h]

/-- It has a directive for the service and one for its library. -/
lemma Log.Filter.ofString?_defaultText {text : String} {level : Level}
    (h : EqUpToCase text level.name) :
    ofString? (defaultText text) =
      some [⟨some "lang_redirect", some level⟩, ⟨some "tower_http", some level⟩] := by
  rw [defaultText_of_eqUpToCase h]
  cases level <;> decide +kernel

namespace Settings

/-- The log level is not reported if it passes its check. -/
lemma not_mem_problems_unknownLogLevel_iff {s : Settings} :
    (∀ text, Problem.unknownLogLevel text ∉ s.problems) ↔ Check.logLevel.Passes s := by
  rw [← Check.problem?_eq_none_iff, ← Option.toList_eq_nil_iff, ← filter_problems_check,
    List.filter_eq_nil_iff]
  constructor
  · intro h p hp hcheck
    cases p with
    | unknownLogLevel text => exact h text hp
    | _ => cases of_decide_eq_true hcheck
  · intro h text htext
    exact h _ htext (decide_eq_true rfl)

/-- Valid settings name a level, in letters of any case. -/
lemma Valid.exists_level {s : Settings} (h : s.Valid) :
    ∃ level : Level, EqUpToCase s.observability.logLevel level.name :=
  Check.passes_logLevel_iff.1 (valid_iff_passes.1 h .logLevel)

/-- **The log level is read alike when it is checked and when it is used.**

* It is not reported exactly if it is one of five words, in letters of any case.
* Then the filter is written with that word, and it is the filter with two directives, each of which lets
  the level of the word through. -/
theorem log_level_read_alike (s : Settings) :
    ((∀ text, Problem.unknownLogLevel text ∉ s.problems) ↔
      ∃ word ∈ ["trace", "debug", "info", "warn", "error"],
        EqUpToCase s.observability.logLevel word) ∧
    ∀ word ∈ ["trace", "debug", "info", "warn", "error"],
      EqUpToCase s.observability.logLevel word →
      Filter.defaultText s.observability.logLevel =
        "lang_redirect=" ++ word ++ ",tower_http=" ++ word ∧
      Filter.clauses (Filter.defaultText s.observability.logLevel) =
        ["lang_redirect=" ++ word, "tower_http=" ++ word] ∧
      ∃ level : Level, level.name = word ∧
        Filter.ofString? (Filter.defaultText s.observability.logLevel) =
          some [⟨some "lang_redirect", some level⟩, ⟨some "tower_http", some level⟩] := by
  have hwords : ["trace", "debug", "info", "warn", "error"] = Level.all.map Level.name := rfl
  rw [hwords]
  refine ⟨?_, ?_⟩
  · rw [not_mem_problems_unknownLogLevel_iff, Check.passes_logLevel_iff]
    constructor
    · rintro ⟨level, heq⟩
      exact ⟨level.name, List.mem_map_of_mem level.mem_all, heq⟩
    · rintro ⟨word, hword, heq⟩
      obtain ⟨level, -, rfl⟩ := List.mem_map.1 hword
      exact ⟨level, heq⟩
  · intro word hword heq
    obtain ⟨level, -, rfl⟩ := List.mem_map.1 hword
    refine ⟨Filter.defaultText_of_eqUpToCase heq, ?_, level, rfl, Filter.ofString?_defaultText heq⟩
    rw [Filter.defaultText_of_eqUpToCase heq]
    cases level <;> decide +kernel

/-- A level in small and capital letters. -/
theorem log_level_read_alike_mixed :
    let s : Settings := { observability := { logLevel := "WaRN" } }
    (∀ text, Problem.unknownLogLevel text ∉ s.problems) ∧
      Filter.defaultText s.observability.logLevel = "lang_redirect=warn,tower_http=warn" := by
  intro s
  obtain ⟨hreported, hfilter⟩ := log_level_read_alike s
  exact ⟨hreported.2 ⟨"warn", by decide, by decide⟩, (hfilter "warn" (by decide) (by decide)).1⟩

end Settings

end Signpost
