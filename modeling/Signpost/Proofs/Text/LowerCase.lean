import Mathlib
import Signpost.Text.LowerCase

/-!
# Lower-casing and ASCII

The tables for all of Unicode do to an ASCII text what one expects: they replace each capital letter
by the small one, and leave the other characters as they are (`lowerCase_of_ascii`).

**From beyond ASCII.**  Of the characters beyond ASCII only one has an ASCII letter for its whole image:
the Kelvin sign becomes a `k`.  (`U+0130` becomes an `i`, but with a combining dot behind it.)  So a text
that is lower-cased to an ASCII word without a `k` differs from the word in the case of ASCII letters and
in nothing else (`lowerCase_eq_iff`).
-/

namespace Signpost.Text

/-- What holds of the 128 ASCII characters holds of every character with such a number. -/
lemma forall_of_ascii {P : Char → Prop} (h : ∀ n < 0x80, P (Char.ofNat n)) {c : Char}
    (hc : c.toNat < 0x80) : P c := by
  rw [← Char.ofNat_toNat c]
  exact h c.toNat hc

lemma lowerImage_of_ascii {c : Char} (h : c.toNat < 0x80) : lowerImage c = [c.toLower] :=
  forall_of_ascii (P := fun c => lowerImage c = [c.toLower]) (by decide +kernel) h

/-- **An ASCII text is lower-cased letter by letter.** -/
theorem lowerCase_of_ascii {cs : List Char} (h : ∀ c ∈ cs, c.toNat < 0x80) :
    lowerCase cs = cs.map Char.toLower := by
  suffices hafter : ∀ before, lowerCaseAfter before cs = cs.map Char.toLower from hafter []
  induction cs with
  | nil => exact fun _ => rfl
  | cons c cs ih =>
      intro before
      rw [List.forall_mem_cons] at h
      have hsigma : c ≠ 'Σ' := by
        rintro rfl
        exact absurd h.1 (by decide)
      rw [lowerCaseAfter, lowerImageBetween, if_neg hsigma, lowerImage_of_ascii h.1, ih h.2,
        List.map_cons, List.singleton_append]

/-! ## From beyond ASCII -/

/-- Two texts that differ in the case of ASCII letters at most. -/
def EqUpToCase (a b : String) : Prop :=
  a.toList.map Char.toLower = b.toList.map Char.toLower

instance (a b : String) : Decidable (EqUpToCase a b) :=
  inferInstanceAs (Decidable (a.toList.map Char.toLower = b.toList.map Char.toLower))

lemma toLower_of_not_ascii {c : Char} (h : 0x80 ≤ c.toNat) : c.toLower = c := by
  refine Char.toLower_eq_of_not_isUpper fun hupper => ?_
  simp only [Char.isUpper, decide_eq_true_eq, UInt32.le_iff_toNat_le] at hupper
  have hZ : c.toNat ≤ 90 := hupper.2
  omega

/-- The runs of the table that reach beyond ASCII have their images there, all but that of the Kelvin
sign. -/
lemma target_of_mem_lowerCaseRuns : ∀ r ∈ lowerCaseRuns, 0x80 ≤ r.last →
    (r.first = r.last ∧ r.target = 'k'.toNat) ∨
      0x80 ≤ r.target ∧ (r.last - r.first + r.target < 0xD800 ∨
        0xDFFF < r.target ∧ r.last - r.first + r.target < 0x110000) := by
  decide +kernel

lemma exists_run_of_imageInRuns? {runs : List ImageRun} {c x : Char}
    (h : imageInRuns? runs c = some x) : ∃ r ∈ runs, r.first ≤ c.toNat ∧ c.toNat ≤ r.last ∧
      x = Char.ofNat (c.toNat - r.first + r.target) := by
  unfold imageInRuns? at h
  split at h
  · next r hr =>
    have hlast : c.toNat ≤ r.last := by simpa using List.find?_some hr
    split at h
    · next hfirst =>
      exact ⟨r, List.mem_of_find?_eq_some hr, hfirst.1, hlast, (Option.some.inj h).symm⟩
    · cases h
  · cases h

/-- The image of a character beyond ASCII has a `k` or a character beyond ASCII in it. -/
lemma exists_mem_lowerImage {c : Char} (h : 0x80 ≤ c.toNat) :
    ∃ x ∈ lowerImage c, x = 'k' ∨ 0x80 ≤ x.toNat := by
  unfold lowerImage
  split
  · exact ⟨'\u0307', by simp, by decide⟩
  · refine ⟨_, List.mem_singleton.2 rfl, ?_⟩
    cases himage : imageInRuns? lowerCaseRuns c with
    | none => exact Or.inr h
    | some x =>
        obtain ⟨r, hr, hfirst, hlast, hx⟩ := exists_run_of_imageInRuns? himage
        rw [Option.getD_some, hx]
        rcases target_of_mem_lowerCaseRuns r hr (Nat.le_trans h hlast) with
          ⟨hsame, htarget⟩ | ⟨htarget, hvalid⟩
        · left
          have hzero : c.toNat - r.first = 0 := by omega
          rw [hzero, htarget]
          rfl
        · right
          have hchar : (c.toNat - r.first + r.target).isValidChar := by
            rw [Nat.isValidChar]
            omega
          rw [Char.toNat_ofNat, if_pos hchar]
          omega

lemma exists_mem_lowerCaseAfter {cs : List Char} {c : Char} (hc : c ∈ cs) (h : 0x80 ≤ c.toNat)
    (before : List Char) : ∃ x ∈ lowerCaseAfter before cs, x = 'k' ∨ 0x80 ≤ x.toNat := by
  induction cs generalizing before with
  | nil => cases hc
  | cons d cs ih =>
      simp only [lowerCaseAfter, List.mem_append]
      rcases List.mem_cons.1 hc with rfl | hc
      · have hhead : ∃ x ∈ lowerImageBetween before c cs, x = 'k' ∨ 0x80 ≤ x.toNat := by
          unfold lowerImageBetween
          split
          · split
            · exact ⟨'ς', by simp, by decide⟩
            · exact ⟨'σ', by simp, by decide⟩
          · exact exists_mem_lowerImage h
        obtain ⟨x, hx, hbeyond⟩ := hhead
        exact ⟨x, Or.inl hx, hbeyond⟩
      · obtain ⟨x, hx, hbeyond⟩ := ih hc (d :: before)
        exact ⟨x, Or.inr hx, hbeyond⟩

/-- **Only ASCII texts are lower-cased to an ASCII word**, if there is no `k` in it. -/
theorem lowerCase_eq_iff {cs word : List Char} (hascii : ∀ c ∈ word, c.toNat < 0x80)
    (hk : 'k' ∉ word) : lowerCase cs = word ↔ cs.map Char.toLower = word := by
  constructor
  · intro h
    have hcs : ∀ c ∈ cs, c.toNat < 0x80 := by
      intro c hc
      by_contra hbeyond
      obtain ⟨x, hx, hx'⟩ := exists_mem_lowerCaseAfter hc (Nat.le_of_not_lt hbeyond) []
      have hmem : x ∈ word := h ▸ hx
      rcases hx' with rfl | hx'
      · exact hk hmem
      · exact absurd (hascii x hmem) (Nat.not_lt.2 hx')
    rw [← h, lowerCase_of_ascii hcs]
  · intro h
    have hcs : ∀ c ∈ cs, c.toNat < 0x80 := by
      intro c hc
      by_contra hbeyond
      have hlower := toLower_of_not_ascii (Nat.le_of_not_lt hbeyond)
      exact hbeyond (hascii c (h ▸ List.mem_map.2 ⟨c, hc, hlower⟩))
    rw [lowerCase_of_ascii hcs, h]

-- without a condition on `k` there is another text that is lower-cased to it
example : lowerCase ['\u212A'] = ['k'] ∧ ['\u212A'].map Char.toLower ≠ ['k'] := by
  decide +kernel

end Signpost.Text
