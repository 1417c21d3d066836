import Mathlib.Algebra.Order.Field.Rat
import Mathlib.Tactic.Common
import Mathlib.Tactic.NormNum
import Mathlib.Tactic.Positivity
import Mathlib.Tactic.Ring
import Signpost.Proofs.Binary64
import Signpost.Weight

/-!
# Factors and weights

A factor is a text, a weight is a double, and each has a value.

**The nearest weight.**  `Weight.IsNearest` says of a weight that it is nearest to a number, and which
of two it is if they are equally near.  Only one weight can be this (`Weight.IsNearest.unique`).

**Reading.**  `Factor` is what can be written for a weight: `1`, or `0.` and digits.
`Weight.ofFactor?_eq_some_iff` says that these texts and no others are read, and
`Factor.isNearest_weight` that each is read as the weight that is nearest to it.

**Writing.**  A double has a finite decimal expansion, so every weight has a factor with its exact
value (`exists_factor`), and whichever such factor is read, it is the weight again
(`Factor.weight_eq_of_value`).
-/

namespace Signpost

open Binary64 Text

/-- A factor: `1`, or `0.` and one or more digits. -/
inductive Factor where
  | one
  | fraction (digits : List Char) (isDigit : ∀ c ∈ digits, c.isDigit = true)
      (ne_nil : digits ≠ [])

namespace Factor

/-- The text of a factor. -/
def chars : Factor → List Char
  | one => ['1']
  | fraction digits _ _ => '0' :: '.' :: digits

/-- The number that a factor writes. -/
def value : Factor → ℚ
  | one => 1
  | fraction digits _ _ => numeral 10 digits / 10 ^ digits.length

/-- The weight that this number is rounded to. -/
def weight : Factor → Weight
  | one => .one
  | fraction digits isDigit _ => .ofDecimals digits isDigit

end Factor

namespace Weight

/-- The number that a weight stands for. -/
def value (w : Weight) : ℚ := Binary64.value w.bits

lemma value_one : one.value = 1 := by
  have hsignificand : significand Binary64.one = 2 ^ 52 := by decide
  have hplaces : places Binary64.one = 52 := by decide
  rw [value, one, Binary64.value, hsignificand, hplaces]
  norm_num

/-! ## The nearest weight -/

/-- The weight is nearest to the number, and even if another weight is as near. -/
structure IsNearest (w : Weight) (x : ℚ) : Prop where
  abs_sub_le (v : Weight) : |w.value - x| ≤ |v.value - x|
  even_of_tie {v : Weight} : v ≠ w → |v.value - x| = |w.value - x| → Even w.bits

lemma value_lt_value {v w : Weight} (h : v < w) : v.value < w.value :=
  Binary64.value_lt_value h w.bits_le_one

/-- Weights with the same value are the same. -/
lemma eq_of_value_eq {v w : Weight} (h : v.value = w.value) : v = w := by
  obtain ⟨a, ha⟩ := v
  obtain ⟨b, hb⟩ := w
  rw [Weight.mk.injEq]
  rcases Nat.lt_trichotomy a b with hlt | heq | hgt
  · exact absurd h (Binary64.value_lt_value hlt hb).ne
  · exact heq
  · exact absurd h (Binary64.value_lt_value hgt ha).ne'

lemma value_le_value_iff {v w : Weight} : v.value ≤ w.value ↔ v ≤ w := by
  constructor
  · intro h
    by_contra hnot
    have hlt : w < v := Nat.lt_of_not_le hnot
    exact absurd h (value_lt_value hlt).not_ge
  · intro h
    rcases Nat.lt_or_eq_of_le h with hlt | heq
    · exact (value_lt_value hlt).le
    · rw [value, value, heq]

lemma value_nonneg (w : Weight) : 0 ≤ w.value :=
  div_nonneg (Nat.cast_nonneg _) (by positivity)

lemma value_le_one (w : Weight) : w.value ≤ 1 := by
  rw [← value_one, value_le_value_iff]
  exact w.bits_le_one

/-- A fraction is given the weight that is nearest to it. -/
lemma isNearest_ofFraction {n d : ℕ} (hd : 0 < d) (h : n ≤ d) :
    (ofFraction n d hd h).IsNearest (n / d) where
  abs_sub_le v := (Binary64.encodeFraction_nearest hd h v.bits).1
  even_of_tie {v} hne :=
    (Binary64.encodeFraction_nearest hd h v.bits).2 fun heq => hne (eq_of_value_eq heq)

lemma IsNearest.not_lt {v w : Weight} {x : ℚ} (hv : v.IsNearest x) (hw : w.IsNearest x) :
    ¬ v < w := by
  intro hlt
  have hne : v ≠ w := by
    rintro rfl
    exact absurd hlt (Nat.lt_irrefl _)
  have htie : |v.value - x| = |w.value - x| := le_antisymm (hv.abs_sub_le w) (hw.abs_sub_le v)
  have heven := (hv.even_of_tie hne.symm htie.symm).add_one
  have hbetween : v.bits + 1 < w.bits := by
    refine lt_of_le_of_ne hlt fun heq => ?_
    rw [heq] at heven
    exact Nat.not_even_iff_odd.2 heven (hw.even_of_tie hne htie)
  -- two even encodings have a third one between them, and its value is nearer than theirs
  let u : Weight := ⟨v.bits + 1, hbetween.le.trans w.bits_le_one⟩
  have hvu : v.value < u.value := value_lt_value (Nat.lt_succ_self v.bits)
  have huw : u.value < w.value := value_lt_value hbetween
  have hnear := hv.abs_sub_le u
  rcases abs_eq_abs.1 htie with hsame | hopposite
  · linarith
  · have hcloser : |u.value - x| < w.value - x := abs_lt.2 ⟨by linarith, by linarith⟩
    have hdistance : w.value - x ≤ |v.value - x| := by
      rw [htie]
      exact le_abs_self _
    linarith

/-- **Only one weight is nearest.** -/
theorem IsNearest.unique {v w : Weight} {x : ℚ} (hv : v.IsNearest x) (hw : w.IsNearest x) :
    v = w := by
  have hvw : ¬ v.bits < w.bits := hv.not_lt hw
  have hwv : ¬ w.bits < v.bits := hw.not_lt hv
  rw [Weight.mk.injEq]
  omega

/-- The lesser of two numbers is the nearer one below their middle. -/
lemma two_mul_le_add_of_abs_sub_le {a b x : ℚ} (hab : a < b) (h : |a - x| ≤ |b - x|) :
    2 * x ≤ a + b := by
  have hsquares : (a - x) ^ 2 ≤ (b - x) ^ 2 := sq_le_sq.2 h
  have hproduct : 0 ≤ (b - a) * (a + b - 2 * x) := by linarith
  exact sub_nonneg.1 (nonneg_of_mul_nonneg_right hproduct (sub_pos.2 hab))

/-- The greater is the nearer one above it. -/
lemma add_le_two_mul_of_abs_sub_le {a b x : ℚ} (hab : a < b) (h : |b - x| ≤ |a - x|) :
    a + b ≤ 2 * x := by
  have hsquares : (b - x) ^ 2 ≤ (a - x) ^ 2 := sq_le_sq.2 h
  have hproduct : 0 ≤ (b - a) * (2 * x - (a + b)) := by linarith
  exact sub_nonneg.1 (nonneg_of_mul_nonneg_right hproduct (sub_pos.2 hab))

/-- **Rounding keeps the order.**  A weight that is nearest to a number is not above one that is nearest
to a greater number. -/
theorem IsNearest.le_of_le {v w : Weight} {x y : ℚ} (hv : v.IsNearest x) (hw : w.IsNearest y)
    (h : x ≤ y) : v ≤ w := by
  by_contra hnot
  have hlt : w.value < v.value := value_lt_value (Nat.lt_of_not_le hnot)
  have hx := add_le_two_mul_of_abs_sub_le hlt (hv.abs_sub_le w)
  have hy := two_mul_le_add_of_abs_sub_le hlt (hw.abs_sub_le v)
  -- both numbers are the middle of the two values, and this has only one nearest weight
  have hmiddle : x = y := by linarith
  subst hmiddle
  rw [hv.unique hw] at hlt
  exact lt_irrefl _ hlt

/-! ## Reading -/

/-- **The texts that are read are the factors**, and each is read as its weight. -/
theorem ofFactor?_eq_some_iff {cs : List Char} {w : Weight} :
    ofFactor? cs = some w ↔ ∃ f : Factor, f.chars = cs ∧ f.weight = w := by
  constructor
  · intro h
    unfold ofFactor? at h
    split at h
    · exact ⟨.one, rfl, Option.some.inj h⟩
    · next d ds =>
      split at h
      · next hdigits =>
        have isDigit := List.all_eq_true.1 hdigits
        exact ⟨.fraction (d :: ds) isDigit (List.cons_ne_nil d ds), rfl, Option.some.inj h⟩
      · cases h
    · cases h
  · rintro ⟨f, rfl, rfl⟩
    cases f with
    | one => rfl
    | fraction digits isDigit ne_nil =>
        cases digits with
        | nil => exact absurd rfl ne_nil
        | cons d ds => exact dif_pos (List.all_eq_true.2 isDigit)

lemma ofFactor?_chars (f : Factor) : ofFactor? f.chars = some f.weight :=
  ofFactor?_eq_some_iff.2 ⟨f, rfl, rfl⟩

lemma ofFactor?_eq_none_iff {cs : List Char} :
    ofFactor? cs = none ↔ ∀ f : Factor, cs ≠ f.chars := by
  rw [Option.eq_none_iff_forall_ne_some]
  constructor
  · rintro h f rfl
    exact h f.weight (ofFactor?_chars f)
  · intro h w hw
    obtain ⟨f, hf, -⟩ := ofFactor?_eq_some_iff.1 hw
    exact h f hf.symm

end Weight

/-- **A factor is read as the weight that is nearest to it.** -/
theorem Factor.isNearest_weight (f : Factor) : f.weight.IsNearest f.value := by
  cases f with
  | one =>
      refine ⟨fun v => ?_, fun {v} hne htie => ?_⟩
      · rw [weight, value, Weight.value_one, sub_self, abs_zero]
        exact abs_nonneg _
      · rw [weight, value, Weight.value_one, sub_self, abs_zero, abs_eq_zero, sub_eq_zero,
          ← Weight.value_one] at htie
        exact absurd (Weight.eq_of_value_eq htie) hne
  | fraction digits isDigit ne_nil =>
      have hnearest := Weight.isNearest_ofFraction (Nat.pow_pos (by decide : 0 < 10))
        (Text.numeral_lt isDigit).le
      have hpow : ((10 ^ digits.length : ℕ) : ℚ) = 10 ^ digits.length := by push_cast; rfl
      rw [weight, value, ← hpow]
      exact hnearest

/-! ## Writing -/

/-- The last digit of a number counts once, and the others ten times as much as without it. -/
lemma numeral_concat (digits : List Char) (c : Char) :
    numeral 10 (digits ++ [c]) = numeral 10 digits * 10 + (digit? c).getD 0 := by
  rw [numeral, List.foldl_append]
  rfl

/-- The last `k` decimal digits of a number. -/
def lastDigits : (k n : ℕ) → List Char
  | 0, _ => []
  | k + 1, n => lastDigits k (n / 10) ++ [Nat.digitChar (n % 10)]

lemma length_lastDigits (k n : ℕ) : (lastDigits k n).length = k := by
  induction k generalizing n with
  | zero => rfl
  | succ k ih => rw [lastDigits, List.length_append, ih, List.length_singleton]

lemma isDigit_lastDigits (k n : ℕ) : ∀ c ∈ lastDigits k n, c.isDigit = true := by
  have hdigit : ∀ d < 10, (Nat.digitChar d).isDigit = true := by decide
  induction k generalizing n with
  | zero => simp [lastDigits]
  | succ k ih =>
      rw [lastDigits, List.forall_mem_append, List.forall_mem_singleton]
      exact ⟨ih (n / 10), hdigit _ (Nat.mod_lt n (by decide))⟩

/-- They write the whole number if it has no more of them. -/
lemma numeral_lastDigits {k n : ℕ} (h : n < 10 ^ k) : numeral 10 (lastDigits k n) = n := by
  have hdigit : ∀ d < 10, (digit? (Nat.digitChar d)).getD 0 = d := by decide
  induction k generalizing n with
  | zero =>
      have hn : n = 0 := by simpa using h
      rw [hn]
      rfl
  | succ k ih =>
      have hrest : n / 10 < 10 ^ k := by
        rw [Nat.div_lt_iff_lt_mul (by decide)]
        exact h
      rw [lastDigits, numeral_concat, ih hrest, hdigit _ (Nat.mod_lt n (by decide))]
      omega

/-- Every fraction with binary places is a decimal fraction with as many decimal places. -/
lemma div_two_pow_eq (m k : ℕ) : (m : ℚ) / 2 ^ k = (m * 5 ^ k : ℕ) / 10 ^ k := by
  have hten : (10 : ℚ) ^ k = 2 ^ k * 5 ^ k := by
    rw [← mul_pow]
    norm_num
  have htwo : (2 : ℚ) ^ k ≠ 0 := by positivity
  have hfive : (5 : ℚ) ^ k ≠ 0 := by positivity
  rw [hten]
  push_cast
  exact (mul_div_mul_right _ _ hfive).symm

/-- **Every weight can be written**: some factor has its exact value. -/
theorem Weight.exists_factor (w : Weight) : ∃ f : Factor, f.value = w.value := by
  obtain ⟨bits, hbits⟩ := w
  rcases Nat.lt_or_eq_of_le hbits with hlt | rfl
  · have hsmall : significand bits < 2 ^ places bits := significand_lt_two_pow hlt
    have hten : significand bits * 5 ^ places bits < 10 ^ places bits := by
      have hpow : (10 : ℕ) ^ places bits = 2 ^ places bits * 5 ^ places bits := by
        rw [← Nat.mul_pow]
      rw [hpow]
      exact Nat.mul_lt_mul_of_pos_right hsmall (Nat.pow_pos (by decide))
    refine ⟨.fraction (lastDigits (places bits) (significand bits * 5 ^ places bits))
      (isDigit_lastDigits _ _) ?_, ?_⟩
    · rw [← List.length_pos_iff, length_lastDigits, places]
      omega
    · rw [Factor.value, Weight.value, Binary64.value, numeral_lastDigits hten, length_lastDigits,
        div_two_pow_eq]
  · exact ⟨.one, Weight.value_one.symm⟩

/-- **A factor with the exact value of a weight is read as this weight**, for nothing is nearer. -/
theorem Factor.weight_eq_of_value {f : Factor} {w : Weight} (h : f.value = w.value) :
    f.weight = w := by
  have hnearest := f.isNearest_weight.abs_sub_le w
  rw [h, sub_self, abs_zero, abs_nonpos_iff, sub_eq_zero] at hnearest
  exact Weight.eq_of_value_eq hnearest

end Signpost
