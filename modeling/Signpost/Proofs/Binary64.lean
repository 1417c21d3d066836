import Mathlib.Algebra.Order.Field.Rat
import Mathlib.Algebra.Ring.Parity
import Mathlib.Tactic.Common
import Mathlib.Tactic.Linarith
import Mathlib.Tactic.NormNum
import Mathlib.Tactic.Positivity
import Mathlib.Tactic.Ring
import Signpost.Binary64

/-!
# Encodings and the fractions they stand for

The encoding of a double from 0 to 1 has an exponent field and 52 bits of a significand.  Its value
is `significand bits / 2 ^ places bits`: the significand as a whole number, and as many binary places
as the exponent puts it behind the point.

**Order.**  From one encoding to the next the value grows by one unit of the last place, also where
the exponent changes (`value_succ`).  So the greater encoding has the greater value.

**Rounding.**  What `encodeFraction` finds is a multiple of one unit (`value_encodeFraction`), and no
other multiple of it is nearer.  The values that are not multiples of this unit have more binary
places; they lie below the power of two that the doublings stop at, and that one is nearer than they
are (`abs_rounded_sub_lt`).

**`encodeFraction_nearest`**: of all encodings it is the nearest, and an even one if two are equally
near.  This holds down to the least doubles, which have fewer bits in their significand.
-/

namespace Signpost.Binary64

/-! ## Values -/

/-- How often the value of an encoding must be doubled until it reaches 1, unless the spacing of
doubles ends before. -/
def scale (bits : ℕ) : ℕ := 1023 - max (bits / 2 ^ 52) 1

/-- The significand as a whole number.  Its highest bit is written only in the exponent field. -/
def significand (bits : ℕ) : ℕ := bits % 2 ^ 52 + if bits / 2 ^ 52 = 0 then 0 else 2 ^ 52

/-- How many binary places an encoding has behind the point. -/
def places (bits : ℕ) : ℕ := 52 + scale bits

/-- The number that an encoding stands for. -/
def value (bits : ℕ) : ℚ := significand bits / 2 ^ places bits

lemma scale_le (bits : ℕ) : scale bits ≤ maxDoublings := by
  rw [scale, maxDoublings]
  omega

lemma significand_lt (bits : ℕ) : significand bits < 2 ^ 53 := by
  rw [significand]
  split <;> omega

/-- Only the least doubles lack the highest bit. -/
lemma le_significand {bits : ℕ} (h : scale bits ≠ maxDoublings) : 2 ^ 52 ≤ significand bits := by
  rw [scale, maxDoublings] at h
  rw [significand]
  split <;> omega

/-- The values below 1 have a significand below the power of two for their places. -/
lemma significand_lt_two_pow {bits : ℕ} (h : bits < one) : significand bits < 2 ^ places bits := by
  have hscale : 53 ≤ places bits := by
    rw [one] at h
    rw [places, scale]
    omega
  exact Nat.lt_of_lt_of_le (significand_lt bits) (Nat.pow_le_pow_right (by decide) hscale)

/-- An encoding is put together from its scale and its significand. -/
lemma eq_scale_add_significand {bits : ℕ} (h : bits ≤ one) :
    (maxDoublings - scale bits) * 2 ^ 52 + significand bits = bits := by
  rw [one] at h
  rw [scale, maxDoublings, significand]
  split <;> omega

/-! ## Order -/

lemma value_scale_add_of_lt {j m : ℕ} (hj : j ≤ maxDoublings)
    (hfull : 2 ^ 52 ≤ m ∨ j = maxDoublings) (hm : m < 2 ^ 53) :
    value ((maxDoublings - j) * 2 ^ 52 + m) = m / 2 ^ (52 + j) := by
  rw [maxDoublings] at hj hfull ⊢
  have hscale : scale ((1022 - j) * 2 ^ 52 + m) = j := by
    rw [scale]
    omega
  have hsignificand : significand ((1022 - j) * 2 ^ 52 + m) = m := by
    rw [significand]
    split <;> omega
  rw [value, places, hscale, hsignificand]

/-- A significand that is rounded up to 54 bits carries into the exponent, which is right again. -/
lemma value_scale_add {j m : ℕ} (hj : j ≤ maxDoublings) (hfull : 2 ^ 52 ≤ m ∨ j = maxDoublings)
    (hm : m ≤ 2 ^ 53) (hcarry : m = 2 ^ 53 → 0 < j) :
    value ((maxDoublings - j) * 2 ^ 52 + m) = m / 2 ^ (52 + j) := by
  rcases Nat.lt_or_eq_of_le hm with hlt | rfl
  · exact value_scale_add_of_lt hj hfull hlt
  · -- the carry makes it the shortest significand at the next scale
    obtain ⟨i, rfl⟩ := Nat.exists_eq_add_one.2 (hcarry rfl)
    have hbits : (maxDoublings - (i + 1)) * 2 ^ 52 + 2 ^ 53 =
        (maxDoublings - i) * 2 ^ 52 + 2 ^ 52 := by
      omega
    have hdouble : ((2 ^ 53 : ℕ) : ℚ) = (2 ^ 52 : ℕ) * 2 := by norm_num
    rw [hbits, value_scale_add_of_lt (Nat.le_of_succ_le hj) (Or.inl le_rfl) (by decide),
      ← Nat.add_assoc, pow_succ (2 : ℚ), hdouble, mul_div_mul_right _ _ two_ne_zero]

/-- **The next value is one unit of the last place further.** -/
lemma value_succ {bits : ℕ} (h : bits < one) :
    value (bits + 1) = (significand bits + 1) / 2 ^ places bits := by
  have hlt := significand_lt bits
  have hbits : bits + 1 = (maxDoublings - scale bits) * 2 ^ 52 + (significand bits + 1) := by
    rw [← Nat.add_assoc, eq_scale_add_significand h.le]
  have hfull : 2 ^ 52 ≤ significand bits + 1 ∨ scale bits = maxDoublings := by
    rcases Nat.decEq (scale bits) maxDoublings with hne | heq
    · exact Or.inl ((le_significand hne).trans (Nat.le_succ _))
    · exact Or.inr heq
  have hpos : 0 < scale bits := by
    rw [one] at h
    rw [scale]
    omega
  rw [hbits, value_scale_add (scale_le bits) hfull hlt (fun _ => hpos), Nat.cast_add_one, places]

lemma value_lt_value_succ {bits : ℕ} (h : bits < one) : value bits < value (bits + 1) := by
  rw [value_succ h, value]
  exact div_lt_div_of_pos_right (lt_add_one _) (by positivity)

/-- The greater encoding has the greater value. -/
lemma value_lt_value {a b : ℕ} (hab : a < b) (hb : b ≤ one) : value a < value b := by
  induction b, hab using Nat.le_induction with
  | base => exact value_lt_value_succ hb
  | succ b _ ih => exact (ih (Nat.le_of_succ_le hb)).trans (value_lt_value_succ hb)

/-! ## Rounding a quotient -/

section Quotient

variable {n d : ℕ}

/-- A quotient is rounded by less than a half, or by a half to an even integer. -/
lemma abs_divNearest_sub_lt_or_eq (hd : 0 < d) :
    |(divNearest n d : ℚ) - n / d| < 1 / 2 ∨
      |(divNearest n d : ℚ) - n / d| = 1 / 2 ∧ Even (divNearest n d) := by
  have hd' : (0 : ℚ) < d := by exact_mod_cast hd
  have hmod : n % d < d := Nat.mod_lt n hd
  have hquotient : (n : ℚ) / d = (n / d : ℕ) + (n % d : ℕ) / d := by
    rw [← mul_div_cancel_left₀ ((n / d : ℕ) : ℚ) hd'.ne', ← add_div]
    exact_mod_cast congrArg (fun k : ℕ => (k : ℚ) / d) (Nat.div_add_mod n d).symm
  have hdown : |((n / d : ℕ) : ℚ) - n / d| = (n % d : ℕ) / d := by
    rw [hquotient, sub_add_cancel_left, abs_neg, abs_of_nonneg (by positivity)]
  have hup : |((n / d + 1 : ℕ) : ℚ) - n / d| = (d - (n % d : ℕ)) / d := by
    have hle : ((n % d : ℕ) : ℚ) ≤ d := by exact_mod_cast hmod.le
    rw [hquotient, Nat.cast_add_one, add_sub_add_left_eq_sub, sub_div, div_self hd'.ne',
      abs_of_nonneg (sub_nonneg.2 ((div_le_one hd').2 hle))]
  rw [divNearest]
  split
  · next h =>
    rw [hdown, div_lt_div_iff₀ hd' two_pos, div_eq_div_iff hd'.ne' two_ne_zero, Nat.even_iff]
    rcases h with hlt | ⟨heq, heven⟩
    · left
      exact_mod_cast (by omega : n % d * 2 < 1 * d)
    · right
      exact ⟨by exact_mod_cast (by omega : n % d * 2 = 1 * d), heven⟩
  · next h =>
    rw [hup, div_lt_div_iff₀ hd' two_pos, div_eq_div_iff hd'.ne' two_ne_zero, Nat.even_iff]
    rcases Nat.lt_or_ge d (2 * (n % d)) with hlt | hge
    · left
      have hlt' : (d : ℚ) < 2 * (n % d : ℕ) := by exact_mod_cast hlt
      linarith
    · right
      have heq : (2 : ℚ) * (n % d : ℕ) = d := by exact_mod_cast (by omega : 2 * (n % d) = d)
      exact ⟨by linarith, by omega⟩

/-- Every other integer is at least a half away. -/
lemma half_le_abs_sub {k : ℕ} (hd : 0 < d) (hne : k ≠ divNearest n d) :
    1 / 2 ≤ |(k : ℚ) - n / d| := by
  have hnear : |(divNearest n d : ℚ) - n / d| ≤ 1 / 2 := by
    rcases abs_divNearest_sub_lt_or_eq (n := n) hd with hlt | ⟨heq, -⟩
    · exact hlt.le
    · exact heq.le
  have hone : (1 : ℚ) ≤ |(k : ℚ) - divNearest n d| := by
    have hint : (1 : ℤ) ≤ |(k : ℤ) - divNearest n d| := Int.one_le_abs (by omega)
    exact_mod_cast hint
  have htriangle := abs_sub_le (k : ℚ) (n / d) (divNearest n d)
  rw [abs_sub_comm ((n : ℚ) / d)] at htriangle
  linarith

/-- **No integer is nearer**, and the integer is even if another is as near. -/
lemma divNearest_nearest (hd : 0 < d) (k : ℕ) :
    |(divNearest n d : ℚ) - n / d| ≤ |(k : ℚ) - n / d| ∧
      (k ≠ divNearest n d → |(k : ℚ) - n / d| = |(divNearest n d : ℚ) - n / d| →
        Even (divNearest n d)) := by
  by_cases hne : k = divNearest n d
  · rw [hne]
    exact ⟨le_rfl, fun h => absurd rfl h⟩
  · have hhalf := half_le_abs_sub hd hne
    rcases abs_divNearest_sub_lt_or_eq (n := n) hd with hlt | ⟨heq, heven⟩
    · exact ⟨hlt.le.trans hhalf, fun _ htie => absurd (htie ▸ hhalf) hlt.not_ge⟩
    · exact ⟨heq.le.trans hhalf, fun _ _ => heven⟩

end Quotient

/-! ## Rounding a fraction -/

/-- Short of their limit, the doublings reach `d`. -/
lemma le_mul_of_doublings_lt {d limit n : ℕ} (h : doublings d limit n < limit) :
    d ≤ n * 2 ^ doublings d limit n := by
  induction limit generalizing n with
  | zero => exact absurd h (Nat.not_lt_zero _)
  | succ limit ih =>
      rw [doublings] at h ⊢
      split at h
      · next hd =>
        rw [if_pos hd]
        simpa using hd
      · next hd =>
        rw [if_neg hd, Nat.pow_succ', ← Nat.mul_assoc, Nat.mul_comm n 2]
        exact ih (Nat.lt_of_succ_lt_succ h)

section Fraction

variable {n d : ℕ}

/-- How many binary places a fraction is rounded to. -/
def roundingPlaces (n d : ℕ) : ℕ := 52 + doublings d maxDoublings n

/-- The multiple of the last place that it is rounded to. -/
def rounded (n d : ℕ) : ℕ := divNearest (n * 2 ^ roundingPlaces n d) d

lemma encodeFraction_eq (n d : ℕ) :
    encodeFraction n d = (maxDoublings - doublings d maxDoublings n) * 2 ^ 52 + rounded n d := by
  rw [encodeFraction, Nat.shiftLeft_eq, Nat.shiftLeft_eq, rounded, roundingPlaces]

lemma even_encodeFraction_iff : Even (encodeFraction n d) ↔ Even (rounded n d) := by
  rw [encodeFraction_eq, Nat.even_iff, Nat.even_iff]
  omega

/-- Short of the limit, at least 53 bits are left of the point. -/
lemma le_rounded (hd : 0 < d) (h : doublings d maxDoublings n < maxDoublings) :
    2 ^ 52 ≤ rounded n d := by
  have hreach := le_mul_of_doublings_lt h
  have hquotient : 2 ^ 52 ≤ n * 2 ^ roundingPlaces n d / d := by
    rw [Nat.le_div_iff_mul_le hd, roundingPlaces, Nat.pow_add, Nat.mul_left_comm]
    exact Nat.mul_le_mul_left _ hreach
  rw [rounded, divNearest]
  split
  · exact hquotient
  · exact hquotient.trans (Nat.le_succ _)

/-- There are not more, unless the fraction is rounded up to a power of two. -/
lemma rounded_le (hd : 0 < d) (h : n ≤ d) :
    rounded n d ≤ 2 ^ 53 ∧ (rounded n d = 2 ^ 53 → 0 < doublings d maxDoublings n) := by
  have hle := divNearest_shiftLeft_le hd h rfl
  rw [Nat.shiftLeft_eq, Nat.shiftLeft_eq, Nat.shiftLeft_eq] at hle
  rw [rounded, roundingPlaces]
  omega

/-- **What is found stands for the rounded multiple.** -/
lemma value_encodeFraction (hd : 0 < d) (h : n ≤ d) :
    value (encodeFraction n d) = rounded n d / 2 ^ roundingPlaces n d := by
  obtain ⟨hle, hcarry⟩ := rounded_le hd h
  have hfull : 2 ^ 52 ≤ rounded n d ∨ doublings d maxDoublings n = maxDoublings := by
    rcases Nat.lt_or_eq_of_le (doublings_le d maxDoublings n) with hlt | heq
    · exact Or.inl (le_rounded hd hlt)
    · exact Or.inr heq
  rw [encodeFraction_eq, value_scale_add (doublings_le d maxDoublings n) hfull hle hcarry,
    roundingPlaces]

/-- A value without more places than these is a multiple of the last one. -/
lemma exists_value_eq_div {bits p : ℕ} (h : places bits ≤ p) : ∃ k : ℕ, value bits = k / 2 ^ p := by
  obtain ⟨i, rfl⟩ := Nat.exists_eq_add_of_le h
  refine ⟨significand bits * 2 ^ i, ?_⟩
  push_cast
  rw [value, pow_add, mul_div_mul_right _ _ (by positivity)]

/-- A value with more places is small. -/
lemma value_lt_of_lt_places {bits p : ℕ} (h : p < places bits) :
    value bits < (2 ^ 52 : ℕ) / 2 ^ p := by
  have hpow : (2 : ℚ) * 2 ^ p ≤ 2 ^ places bits := by
    rw [← pow_succ']
    exact pow_le_pow_right₀ one_le_two h
  have hlt : (significand bits : ℚ) < 2 ^ 53 := by exact_mod_cast significand_lt bits
  rw [value, div_lt_div_iff₀ (by positivity) (by positivity)]
  calc (significand bits : ℚ) * 2 ^ p < 2 ^ 53 * 2 ^ p :=
        mul_lt_mul_of_pos_right hlt (by positivity)
    _ = (2 ^ 52 : ℕ) * (2 * 2 ^ p) := by
        push_cast
        ring
    _ ≤ (2 ^ 52 : ℕ) * 2 ^ places bits := mul_le_mul_of_nonneg_left hpow (by positivity)

lemma abs_div_two_pow_sub (k p n d : ℕ) :
    |(k : ℚ) / 2 ^ p - n / d| = |(k : ℚ) - (n * 2 ^ p : ℕ) / d| / 2 ^ p := by
  have hpos : (0 : ℚ) < 2 ^ p := by positivity
  have hscaled : (k : ℚ) / 2 ^ p - n / d = ((k : ℚ) - (n * 2 ^ p : ℕ) / d) / 2 ^ p := by
    push_cast
    rw [sub_div, mul_div_right_comm, mul_div_cancel_right₀ _ hpos.ne']
  rw [hscaled, abs_div, abs_of_pos hpos]

/-- No multiple of the last place is nearer than the one that is rounded to. -/
lemma abs_rounded_sub_le (hd : 0 < d) (k : ℕ) :
    |(rounded n d : ℚ) / 2 ^ roundingPlaces n d - n / d| ≤
      |(k : ℚ) / 2 ^ roundingPlaces n d - n / d| := by
  rw [abs_div_two_pow_sub, abs_div_two_pow_sub]
  exact div_le_div_of_nonneg_right (divNearest_nearest hd k).1 (by positivity)

lemma even_rounded (hd : 0 < d) {k : ℕ} (hne : k ≠ rounded n d)
    (htie : |(k : ℚ) / 2 ^ roundingPlaces n d - n / d| =
      |(rounded n d : ℚ) / 2 ^ roundingPlaces n d - n / d|) : Even (rounded n d) := by
  have hpos : (2 : ℚ) ^ roundingPlaces n d ≠ 0 := by positivity
  rw [abs_div_two_pow_sub, abs_div_two_pow_sub, div_left_inj' hpos] at htie
  exact (divNearest_nearest hd k).2 hne htie

/-- The fraction is not below the power of two that the doublings stop at. -/
lemma two_pow_div_le (hd : 0 < d) (h : doublings d maxDoublings n < maxDoublings) :
    ((2 ^ 52 : ℕ) : ℚ) / 2 ^ roundingPlaces n d ≤ n / d := by
  have hd' : (0 : ℚ) < d := by exact_mod_cast hd
  rw [div_le_div_iff₀ (by positivity) hd', roundingPlaces, pow_add, mul_left_comm, Nat.cast_pow,
    Nat.cast_ofNat]
  exact mul_le_mul_of_nonneg_left (by exact_mod_cast le_mul_of_doublings_lt h) (by positivity)

/-- A value with more places is farther away than this power of two. -/
lemma abs_rounded_sub_lt {bits : ℕ} (hd : 0 < d) (h : roundingPlaces n d < places bits) :
    |(rounded n d : ℚ) / 2 ^ roundingPlaces n d - n / d| < |value bits - n / d| := by
  have hshort : doublings d maxDoublings n < maxDoublings := by
    have hscale := scale_le bits
    rw [roundingPlaces, places] at h
    omega
  have hpower := two_pow_div_le hd hshort
  calc |(rounded n d : ℚ) / 2 ^ roundingPlaces n d - n / d|
      ≤ |((2 ^ 52 : ℕ) : ℚ) / 2 ^ roundingPlaces n d - n / d| := abs_rounded_sub_le hd _
    _ = n / d - (2 ^ 52 : ℕ) / 2 ^ roundingPlaces n d := by
        rw [abs_sub_comm, abs_of_nonneg (sub_nonneg.2 hpower)]
    _ < n / d - value bits := sub_lt_sub_left (value_lt_of_lt_places h) _
    _ ≤ |value bits - n / d| := by
        rw [abs_sub_comm]
        exact le_abs_self _

/-- **No value is nearer to a fraction than the one that is found for it**, and its encoding is even
if another value is as near. -/
theorem encodeFraction_nearest (hd : 0 < d) (h : n ≤ d) (bits : ℕ) :
    |value (encodeFraction n d) - n / d| ≤ |value bits - n / d| ∧
      (value bits ≠ value (encodeFraction n d) →
        |value bits - n / d| = |value (encodeFraction n d) - n / d| →
          Even (encodeFraction n d)) := by
  rw [even_encodeFraction_iff, value_encodeFraction hd h]
  rcases Nat.lt_or_ge (roundingPlaces n d) (places bits) with hmore | hno
  · -- it is not a multiple of the last place, and no tie
    have hlt := abs_rounded_sub_lt hd hmore
    exact ⟨hlt.le, fun _ htie => absurd htie hlt.ne'⟩
  · -- it is one, and the rounding has been among these
    obtain ⟨k, hk⟩ := exists_value_eq_div hno
    rw [hk]
    refine ⟨abs_rounded_sub_le hd k, fun hne htie => even_rounded hd (fun heq => hne ?_) htie⟩
    rw [heq]

end Fraction

end Signpost.Binary64
