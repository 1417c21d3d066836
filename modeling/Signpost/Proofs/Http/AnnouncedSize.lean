import Mathlib.Algebra.Ring.Nat
import Mathlib.Tactic.Common
import Signpost.Http.Request
import Signpost.Proofs.Text.Utf8

/-!
# The announced size of a body

`Request.announcedSize?_eq_some_iff` says which announcements are read: the first one of a request, if it
writes a number below `2 ^ 64` in decimal digits, with or without a plus sign.
-/

namespace Signpost.Http

open Text

/-- A value writes a number in decimal digits, perhaps with a plus sign. -/
def WritesNumber (value : List UInt8) (n : Nat) : Prop :=
  ∃ ds : List Char, ds ≠ [] ∧ (∀ c ∈ ds, c.isDigit = true) ∧ numeral 10 ds = n ∧
    (value = Utf8.encode ds ∨ value = Utf8.encode ('+' :: ds))

/-- Visible text is ASCII, so the value is what the text is encoded as. -/
lemma eq_encode_of_visibleText? {value : List UInt8} {s : String}
    (h : visibleText? value = some s) : value = Utf8.encode s.toList := by
  unfold visibleText? at h
  split at h
  · next hall =>
    cases h
    rw [String.toList_ofList, Utf8.encode_decodeLossy]
    intro b hb
    have hvisible := List.all_eq_true.1 hall b hb
    simp only [Bool.or_eq_true, Bool.and_eq_true, decide_eq_true_eq, UInt8.le_iff_toNat_le] at hvisible
    rcases hvisible with ⟨-, hb⟩ | rfl
    · exact Nat.lt_of_le_of_lt hb (by decide)
    · decide
  · cases h

lemma toNat_lt_of_isDigit_or_plus {c : Char} (h : c.isDigit = true ∨ c = '+') : c.toNat < 0x80 := by
  rcases h with hdigit | rfl
  · simp only [Char.isDigit, Bool.and_eq_true, decide_eq_true_eq, ge_iff_le,
      UInt32.le_iff_toNat_le] at hdigit
    exact Nat.lt_of_le_of_lt hdigit.2 (by decide)
  · decide

/-- Digits and plus signs are visible. -/
lemma visibleText?_encode {cs : List Char} (h : ∀ c ∈ cs, c.isDigit = true ∨ c = '+') :
    visibleText? (Utf8.encode cs) = some (String.ofList cs) := by
  have hvisible : ∀ n < 0x80, (Char.ofNat n).isDigit = true ∨ Char.ofNat n = '+' →
      ((0x20 ≤ UInt8.ofNat n && UInt8.ofNat n ≤ 0x7E) || UInt8.ofNat n = 9) = true := by
    decide +kernel
  rw [visibleText?, if_pos, Utf8.decodeLossy_encode]
  rw [List.all_eq_true]
  intro b hb
  obtain ⟨c, hc, hmem⟩ := List.mem_flatMap.1 hb
  have hlt := toNat_lt_of_isDigit_or_plus (h c hc)
  have hcode := h c hc
  rw [← Char.ofNat_toNat c] at hmem hcode
  rw [Utf8.utf8EncodeChar_ofNat hlt, List.mem_singleton] at hmem
  rw [hmem]
  exact hvisible _ hlt hcode

lemma size?_eq_some_iff {s : String} {n : Nat} :
    size? s = some n ↔ n < 2 ^ 64 ∧ ∃ ds : List Char, ds ≠ [] ∧ (∀ c ∈ ds, c.isDigit = true) ∧
      numeral 10 ds = n ∧ (s.toList = ds ∨ s.toList = '+' :: ds) := by
  have hread (ds : List Char) :
      (if ds ≠ [] ∧ ds.all Char.isDigit ∧ numeral 10 ds < 0x10000000000000000 then
        some (numeral 10 ds) else none) = some n ↔
      n < 2 ^ 64 ∧ ds ≠ [] ∧ (∀ c ∈ ds, c.isDigit = true) ∧ numeral 10 ds = n := by
    rw [Option.ite_none_right_eq_some, List.all_eq_true, Option.some.injEq]
    constructor
    · rintro ⟨⟨hne, hdigits, hlt⟩, rfl⟩
      exact ⟨hlt, hne, hdigits, rfl⟩
    · rintro ⟨hlt, hne, hdigits, rfl⟩
      exact ⟨⟨hne, hdigits, hlt⟩, rfl⟩
  simp only [size?]
  split
  · next ds heq =>
    rw [hread, heq]
    constructor
    · rintro ⟨hlt, hne, hdigits, hn⟩
      exact ⟨hlt, ds, hne, hdigits, hn, Or.inr rfl⟩
    · rintro ⟨hlt, ds', hne, hdigits, hn, rfl | hcons⟩
      · exact absurd (hdigits '+' List.mem_cons_self) (by decide)
      · cases hcons
        exact ⟨hlt, hne, hdigits, hn⟩
  · next hplain =>
    rw [hread]
    constructor
    · rintro ⟨hlt, hne, hdigits, hn⟩
      exact ⟨hlt, _, hne, hdigits, hn, Or.inl rfl⟩
    · rintro ⟨hlt, ds', hne, hdigits, hn, rfl | hcons⟩
      · exact ⟨hlt, hne, hdigits, hn⟩
      · exact absurd hcons (hplain ds')

/-- **Which announcements are read**: the first one, if it writes a number below `2 ^ 64`. -/
theorem Request.announcedSize?_eq_some_iff {r : Request} {n : Nat} :
    r.announcedSize? = some n ↔ n < 2 ^ 64 ∧
      ∃ value, Fields.first? "content-length" r.fields = some value ∧ WritesNumber value n := by
  simp only [announcedSize?, Option.bind_eq_some_iff, size?_eq_some_iff]
  constructor
  · rintro ⟨s, ⟨value, hfirst, hvisible⟩, hlt, ds, hne, hdigits, hn, htext⟩
    refine ⟨hlt, value, hfirst, ds, hne, hdigits, hn, ?_⟩
    rw [eq_encode_of_visibleText? hvisible]
    exact htext.imp (congrArg Utf8.encode) (congrArg Utf8.encode)
  · rintro ⟨hlt, value, hfirst, ds, hne, hdigits, hn, hvalue⟩
    have hplain : ∀ c ∈ ds, c.isDigit = true ∨ c = '+' := fun c hc => Or.inl (hdigits c hc)
    rcases hvalue with rfl | rfl
    · refine ⟨_, ⟨_, hfirst, visibleText?_encode hplain⟩, hlt, ds, hne, hdigits, hn, ?_⟩
      exact Or.inl String.toList_ofList
    · refine ⟨_, ⟨_, hfirst, visibleText?_encode ?_⟩, hlt, ds, hne, hdigits, hn, ?_⟩
      · exact List.forall_mem_cons.2 ⟨Or.inr rfl, hplain⟩
      · exact Or.inr String.toList_ofList

/-- The first announcement of a request writes a number below `2 ^ 64` that is above the bound. -/
def Request.Exceeds (r : Request) (most : Nat) : Prop :=
  ∃ n, most < n ∧ n < 2 ^ 64 ∧
    ∃ value, Fields.first? "content-length" r.fields = some value ∧ WritesNumber value n

lemma Request.any_announcedSize?_iff {r : Request} {most : Nat} :
    r.announcedSize?.any (most < ·) = true ↔ r.Exceeds most := by
  rw [Option.any_eq_true]
  simp only [announcedSize?_eq_some_iff, decide_eq_true_eq, Exceeds]
  constructor
  · rintro ⟨n, hannounced, hmost⟩
    exact ⟨n, hmost, hannounced⟩
  · rintro ⟨n, hmost, hannounced⟩
    exact ⟨n, hannounced, hmost⟩

end Signpost.Http
