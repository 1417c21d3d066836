import Mathlib
import Signpost.Server.Tally

/-!
# What a tally holds

**Lines.**  A line of the report can be read in one way only (`Tally.line_injective`), and the line of
the durations is none of a label.  So the lines tell what the tally holds and nothing else
(`Tally.line_mem_lines_iff`, `Tally.durationLine_mem_lines_iff`).

**Counts.**  `Tally.Counts` is the invariant of `Tally.record`: the tally holds each of the labels
recorded so far once, with the number of times it was recorded.  The counts add up to the number of
durations (`Tally.Counts.sum_count`).
-/

namespace Signpost

namespace Text

lemma toList_digits_ten (n : Nat) : (digits 10 1 n).toList = Nat.toDigits 10 n := by
  have hwidth : 1 - (Nat.toDigits 10 n).length = 0 :=
    Nat.sub_eq_zero_of_le Nat.length_toDigits_pos
  rw [digits, String.toList_ofList, hwidth]
  rfl

lemma toDigits_ten_injective {m n : Nat} (h : Nat.toDigits 10 m = Nat.toDigits 10 n) : m = n :=
  calc
    m = Nat.ofDigitChars 10 (Nat.toDigits 10 m) 0 := Nat.ofDigitChars_ten_toDigits.symm
    _ = Nat.ofDigitChars 10 (Nat.toDigits 10 n) 0 := by rw [h]
    _ = n := Nat.ofDigitChars_ten_toDigits

lemma blank_not_mem_toDigits (n : Nat) : ' ' ∉ Nat.toDigits 10 n := fun h =>
  absurd (Nat.isDigit_of_mem_toDigits (by decide) (by decide) h) (by decide)

end Text

namespace Tally

open Text

/-! ## Lines -/

/-- A list is split in one way at its last separator. -/
lemma append_cons_inj_of_not_mem {α : Type} {a : α} {xs ys ds es : List α} (hds : a ∉ ds)
    (hes : a ∉ es) (h : xs ++ a :: ds = ys ++ a :: es) : xs = ys ∧ ds = es := by
  rcases List.append_eq_append_iff.1 h with ⟨more, rfl, htail⟩ | ⟨more, rfl, htail⟩
  · cases more with
    | nil => exact ⟨(List.append_nil _).symm, (List.cons.inj htail).2⟩
    | cons b more =>
        rw [(List.cons.inj htail).2] at hds
        exact absurd (List.mem_append_right _ List.mem_cons_self) hds
  · cases more with
    | nil => exact ⟨List.append_nil _, (List.cons.inj htail).2.symm⟩
    | cons b more =>
        rw [(List.cons.inj htail).2] at hes
        exact absurd (List.mem_append_right _ List.mem_cons_self) hes

/-- The part of a line that tells the label. -/
def lineStart (label : RedirectLabel) : String :=
  "redirect_requests_total\x7blanguage=" ++ quote label.language ++ ",fallback="
    ++ quote (if label.fallback then "true" else "false") ++ "\x7d"

lemma toList_line (label : RedirectLabel) (n : Nat) :
    (line label n).toList = (lineStart label).toList ++ ' ' :: Nat.toDigits 10 n := by
  have hend : "\x7d ".toList = "\x7d".toList ++ [' '] := by decide
  unfold line lineStart
  simp only [String.toList_append, hend, toList_digits_ten, List.append_assoc,
    List.singleton_append]

lemma toList_durationLine (n : Nat) :
    (durationLine n).toList =
      "redirect_request_duration_seconds_count".toList ++ ' ' :: Nat.toDigits 10 n := by
  have hend : "redirect_request_duration_seconds_count ".toList =
      "redirect_request_duration_seconds_count".toList ++ [' '] := by decide
  unfold durationLine
  rw [String.toList_append, hend, toList_digits_ten, List.append_assoc, List.singleton_append]

/-- The end of the text tells whether the label is that of a fallback, and what is left is the
language. -/
lemma lineStart_injective {a b : RedirectLabel} (h : (lineStart a).toList = (lineStart b).toList) :
    a = b := by
  obtain ⟨language, fallback⟩ := a
  obtain ⟨language', fallback'⟩ := b
  unfold lineStart quote at h
  simp only [String.toList_append, List.append_assoc] at h
  have htail := List.append_cancel_left (List.append_cancel_left h)
  obtain rfl : fallback = fallback' := by
    have hend := congrArg (·.reverse[3]?) htail
    cases fallback <;> cases fallback' <;> simp at hend ⊢
  obtain rfl : language = language' := String.toList_inj.1 (List.append_cancel_right htail)
  rfl

/-- **A line tells its label and its count.** -/
theorem line_injective {a b : RedirectLabel} {m n : Nat} (h : line a m = line b n) :
    a = b ∧ m = n := by
  have hchars := congrArg String.toList h
  rw [toList_line, toList_line] at hchars
  obtain ⟨hlabel, hdigits⟩ :=
    append_cons_inj_of_not_mem (blank_not_mem_toDigits m) (blank_not_mem_toDigits n) hchars
  exact ⟨lineStart_injective hlabel, toDigits_ten_injective hdigits⟩

lemma durationLine_injective {m n : Nat} (h : durationLine m = durationLine n) : m = n := by
  have hchars := congrArg String.toList h
  rw [toList_durationLine, toList_durationLine] at hchars
  exact toDigits_ten_injective
    (append_cons_inj_of_not_mem (blank_not_mem_toDigits m) (blank_not_mem_toDigits n) hchars).2

/-- The two kinds of lines have different names. -/
lemma line_ne_durationLine (label : RedirectLabel) (m n : Nat) : line label m ≠ durationLine n := by
  intro h
  unfold line durationLine at h
  have hchars := congrArg (·.toList[16]?) h
  simp at hchars

lemma mem_lines_iff {t : Tally} {text : String} :
    text ∈ t.lines ↔
      (t.durations ≠ 0 ∧ text = durationLine t.durations) ∨
        ∃ e ∈ t.counts, line e.1 e.2 = text := by
  simp only [lines, List.mem_mergeSort, List.mem_append, List.mem_map]
  by_cases h : t.durations = 0 <;> simp [h]

/-- **The report has a line for each count**, and for nothing else. -/
theorem line_mem_lines_iff {t : Tally} {label : RedirectLabel} {n : Nat} :
    line label n ∈ t.lines ↔ (label, n) ∈ t.counts := by
  rw [mem_lines_iff]
  constructor
  · rintro (⟨-, hline⟩ | ⟨e, he, hline⟩)
    · exact absurd hline (line_ne_durationLine _ _ _)
    · obtain ⟨rfl, rfl⟩ := line_injective hline
      exact he
  · exact fun h => Or.inr ⟨(label, n), h, rfl⟩

theorem durationLine_mem_lines_iff {t : Tally} {n : Nat} :
    durationLine n ∈ t.lines ↔ 0 < n ∧ n = t.durations := by
  rw [mem_lines_iff]
  constructor
  · rintro (⟨hne, hline⟩ | ⟨e, -, hline⟩)
    · obtain rfl := durationLine_injective hline
      exact ⟨Nat.pos_of_ne_zero hne, rfl⟩
    · exact absurd hline (line_ne_durationLine _ _ _)
  · rintro ⟨hpos, rfl⟩
    exact Or.inl ⟨Nat.ne_of_gt hpos, rfl⟩

/-! ## Counts -/

/-- A tally holds the labels that have been recorded. -/
structure Counts (t : Tally) (labels : List RedirectLabel) : Prop where
  /-- It holds each label once. -/
  nodup : (t.counts.map (·.1)).Nodup
  /-- It holds each recorded label with the number of times, and no other labels. -/
  mem_iff : ∀ label n, (label, n) ∈ t.counts ↔ 0 < n ∧ n = labels.count label
  /-- Each time has had its duration. -/
  durations : t.durations = labels.length

lemma counts_empty : Counts {} [] where
  nodup := .nil
  mem_iff label n := by simp; omega
  durations := rfl

lemma Counts.mem_keys_iff {t : Tally} {labels : List RedirectLabel} (h : t.Counts labels)
    {label : RedirectLabel} : label ∈ t.counts.map (·.1) ↔ label ∈ labels := by
  rw [List.mem_map, ← List.count_pos_iff]
  constructor
  · rintro ⟨e, he, rfl⟩
    obtain ⟨hpos, hcount⟩ := (h.mem_iff e.1 e.2).1 he
    rwa [← hcount]
  · exact fun hpos => ⟨(label, labels.count label), (h.mem_iff _ _).2 ⟨hpos, rfl⟩, rfl⟩

/-- A label is found if it has been recorded, with the number of times. -/
lemma Counts.lookup_eq {t : Tally} {labels : List RedirectLabel} (h : t.Counts labels)
    (label : RedirectLabel) :
    t.counts.lookup label = if label ∈ labels then some (labels.count label) else none := by
  split
  · next hmem =>
    have hentry := (h.mem_iff label _).2 ⟨List.count_pos_iff.2 hmem, rfl⟩
    cases hlookup : t.counts.lookup label with
    | none =>
        rw [List.lookup_eq_none_iff] at hlookup
        exact absurd (hlookup _ hentry) (by simp)
    | some n =>
        obtain ⟨before, after, heq, -⟩ := List.lookup_eq_some_iff.1 hlookup
        have hn : (label, n) ∈ t.counts := by simp [heq]
        rw [((h.mem_iff label n).1 hn).2]
  · next hmem =>
    refine List.lookup_eq_none_iff.2 fun e he => ?_
    rw [bne_iff_ne]
    rintro rfl
    exact hmem (h.mem_keys_iff.1 (List.mem_map_of_mem he))

lemma Counts.count_eq {t : Tally} {labels : List RedirectLabel} (h : t.Counts labels)
    (label : RedirectLabel) : t.count label = labels.count label := by
  rw [count, h.lookup_eq]
  split
  · rfl
  · next hmem => exact (List.count_eq_zero.2 hmem).symm

lemma Counts.counts_record_of_not_mem {t : Tally} {labels : List RedirectLabel} (h : t.Counts labels)
    {label : RedirectLabel} (hnew : label ∉ labels) :
    (t.record label).counts = t.counts ++ [(label, 1)] := by
  rw [record, h.lookup_eq, if_neg hnew]

/-- If the label is not new, its entry becomes greater by one. -/
lemma Counts.counts_record_of_mem {t : Tally} {labels : List RedirectLabel} (h : t.Counts labels)
    {label : RedirectLabel} (hold : label ∈ labels) :
    (t.record label).counts =
      t.counts.map fun e => (e.1, if e.1 = label then e.2 + 1 else e.2) := by
  rw [record, h.lookup_eq, if_pos hold]
  refine List.map_congr_left fun e _ => ?_
  split
  · next he => rw [he]
  · rfl

lemma count_concat (labels : List RedirectLabel) (label other : RedirectLabel) :
    (labels ++ [label]).count other =
      if other = label then labels.count other + 1 else labels.count other := by
  rw [List.count_append, List.count_singleton]
  by_cases h : other = label
  · simp [h]
  · simp [h, Ne.symm h]

/-- **One record more** keeps the invariant. -/
theorem Counts.record {t : Tally} {labels : List RedirectLabel} (h : t.Counts labels)
    (label : RedirectLabel) : (t.record label).Counts (labels ++ [label]) := by
  have hdurations : (t.record label).durations = (labels ++ [label]).length := by
    rw [List.length_append, ← h.durations]
    rfl
  by_cases hlabel : label ∈ labels
  · refine ⟨?_, fun other n => ?_, hdurations⟩
    · rw [h.counts_record_of_mem hlabel, List.map_map]
      exact h.nodup
    · rw [h.counts_record_of_mem hlabel, List.mem_map, count_concat]
      simp only [Prod.exists, Prod.mk.injEq, h.mem_iff]
      constructor
      · rintro ⟨_, m, ⟨hm, rfl⟩, rfl, rfl⟩
        exact ⟨by split <;> omega, rfl⟩
      · rintro ⟨hn, rfl⟩
        refine ⟨other, labels.count other, ⟨?_, rfl⟩, rfl, rfl⟩
        split at hn
        · next hother => exact hother ▸ List.count_pos_iff.2 hlabel
        · exact hn
  · refine ⟨?_, fun other n => ?_, hdurations⟩
    · rw [h.counts_record_of_not_mem hlabel, List.map_append, List.map_singleton,
        ← List.concat_eq_append]
      exact h.nodup.concat (mt h.mem_keys_iff.1 hlabel)
    · rw [h.counts_record_of_not_mem hlabel, List.mem_append, List.mem_singleton, h.mem_iff,
        count_concat, Prod.mk.injEq]
      split
      · next hother =>
        simp only [hother, List.count_eq_zero.2 hlabel, true_and]
        omega
      · next hother => simp [hother]

/-- The counts of the labels add up to the number of durations. -/
lemma Counts.sum_count {t : Tally} {labels : List RedirectLabel} (h : t.Counts labels) :
    ((t.counts.map (·.1)).map t.count).sum = t.durations := by
  have hperm : (t.counts.map (·.1)).Perm labels.dedup :=
    (List.perm_ext_iff_of_nodup h.nodup labels.nodup_dedup).2 fun label => by
      rw [h.mem_keys_iff, List.mem_dedup]
  have hcount : t.count = fun label => labels.count label := funext h.count_eq
  rw [h.durations, (hperm.map t.count).sum_nat, hcount, List.sum_map_count_dedup_eq_length]

/-- The report has no line twice, for its labels are different. -/
lemma Counts.nodup_lines {t : Tally} {labels : List RedirectLabel} (h : t.Counts labels) :
    t.lines.Nodup := by
  have hlabels : (t.counts.map fun e => line e.1 e.2).Nodup :=
    h.nodup.of_map.map fun e e' heq => Prod.ext (line_injective heq).1 (line_injective heq).2
  rw [lines, (List.mergeSort_perm _ _).nodup_iff]
  split
  · exact hlabels
  · refine List.nodup_cons.2 ⟨fun hmem => ?_, hlabels⟩
    obtain ⟨e, -, hline⟩ := List.mem_map.1 hmem
    exact line_ne_durationLine _ _ _ hline

end Tally

end Signpost
