import Mathlib.Data.List.DropRight
import Mathlib.Tactic.Common
import Signpost.Text.Blank

/-!
# Texts between blanks

What is cut off a text are blanks, and a text without blanks is found again between any two runs of
blanks (`trim_append`).  As long as a text has only ASCII blanks, the two notions of white space cut
off the same.
-/

namespace Signpost.Text

/-- No blank is a digit. -/
lemma isDigit_of_isBlank {c : Char} (h : isBlank c = true) : c.isDigit = false := by
  by_contra hdigit
  simp only [Bool.not_eq_false, Char.isDigit, Bool.and_eq_true, decide_eq_true_eq, ge_iff_le,
    UInt32.le_iff_toNat_le] at hdigit
  have h48 : 48 ≤ c.toNat := hdigit.1
  have h57 : c.toNat ≤ 57 := hdigit.2
  simp only [isBlank, Bool.or_eq_true, Bool.and_eq_true, decide_eq_true_eq] at h
  omega

/-- Where all blanks are ASCII blanks, it makes no difference which of them are cut off. -/
lemma dropWhile_isAsciiBlank {cs : List Char}
    (h : ∀ c ∈ cs, isBlank c = true → isAsciiBlank c = true) :
    cs.dropWhile isAsciiBlank = trimStart cs := by
  rw [trimStart]
  induction cs with
  | nil => rfl
  | cons c cs ih =>
      rw [List.forall_mem_cons] at h
      have hsame : isAsciiBlank c = isBlank c :=
        Bool.eq_iff_iff.2 ⟨isBlank_of_isAsciiBlank, h.1⟩
      rw [List.dropWhile_cons, List.dropWhile_cons, hsame, ih h.2]

/-- A character that is no blank is not cut off. -/
lemma mem_trim {c : Char} {cs : List Char} (hmem : c ∈ cs) (hc : isBlank c = false) : c ∈ trim cs := by
  have hkeep : ∀ l : List Char, c ∈ l → c ∈ l.dropWhile isBlank := by
    intro l hl
    rw [← List.takeWhile_append_dropWhile (p := isBlank) (l := l), List.mem_append] at hl
    refine hl.resolve_left fun hblank => ?_
    rw [List.mem_takeWhile_imp hblank] at hc
    cases hc
  rw [trim, trimEnd, trimStart, List.mem_reverse]
  exact hkeep _ (List.mem_reverse.2 (hkeep cs hmem))

/-- What is cut off the end of a text are blanks. -/
lemma exists_trimEnd_append (cs : List Char) :
    ∃ blanks, (∀ c ∈ blanks, isBlank c = true) ∧ trimEnd cs ++ blanks = cs :=
  ⟨cs.rtakeWhile isBlank, fun _ => List.mem_rtakeWhile_imp, List.rdropWhile_append_rtakeWhile⟩

/-- Of a text without blanks nothing is cut off, and of the blanks after it everything. -/
lemma trimEnd_append {cs blanks : List Char} (hcs : ∀ c ∈ cs, isBlank c = false)
    (hblanks : ∀ c ∈ blanks, isBlank c = true) : trimEnd (cs ++ blanks) = cs := by
  have hreverse : ∀ c ∈ blanks.reverse, isBlank c = true := by simpa using hblanks
  have hkeep : cs.reverse.dropWhile isBlank = cs.reverse := by
    rw [List.dropWhile_eq_self_iff]
    intro hpos
    simpa using hcs _ (List.mem_reverse.1 (List.getElem_mem hpos))
  rw [trimEnd, List.reverse_append, List.dropWhile_append_of_pos hreverse, hkeep,
    List.reverse_reverse]

/-- **A text without blanks is what is left of it between blanks.** -/
lemma trim_append {before cs after : List Char} (hbefore : ∀ c ∈ before, isBlank c = true)
    (hcs : ∀ c ∈ cs, isBlank c = false) (hafter : ∀ c ∈ after, isBlank c = true) :
    trim (before ++ (cs ++ after)) = cs := by
  have hstart : trimStart (before ++ (cs ++ after)) = trimStart (cs ++ after) :=
    List.dropWhile_append_of_pos hbefore
  rw [trim, hstart]
  cases cs with
  | nil =>
      have hnone : trimStart ([] ++ after) = [] := List.dropWhile_eq_nil_iff.2 hafter
      rw [hnone]
      rfl
  | cons c cs =>
      have hc : ¬ isBlank c = true := by simpa using hcs c List.mem_cons_self
      have hkeep : trimStart (c :: cs ++ after) = c :: cs ++ after :=
        List.dropWhile_cons_of_neg hc
      rw [hkeep, trimEnd_append hcs hafter]

end Signpost.Text
