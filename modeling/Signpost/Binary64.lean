/-!
# Rounding a fraction to a double

A weight is compared as an IEEE 754 double, and only fractions from 0 to 1 occur.  The encoding
of such a double is found by exact arithmetic on natural numbers, and rounded once.

* `doublings n d` — how often `n / d` must be doubled to reach 1, the position of its leading bit.
* `divNearest n d` — the quotient rounded to the nearest integer, a tie to the even neighbour.
* `encodeFraction n d` — the bits of the double nearest to `n / d`.

Below `2 ^ (-1022)` the spacing of doubles no longer shrinks, so the doublings are counted up to
1022 only; there the encoding is the rounded multiple of the least positive double.  A significand
that rounds up to `2 ^ 53` carries into the exponent field, which is again the right encoding.

`encodeFraction_le_one` shows that no fraction up to 1 is rounded past 1.
-/

namespace Signpost.Binary64

/-- How often `n` must be doubled to reach `d`, but at most `limit`. -/
def doublings (d : Nat) : (limit : Nat) → (n : Nat) → Nat
  | 0, _ => 0
  | limit + 1, n => if d ≤ n then 0 else doublings d limit (2 * n) + 1

/-- The quotient `n / d` rounded to the nearest integer, a tie to the even neighbour. -/
def divNearest (n d : Nat) : Nat :=
  let q := n / d
  let r := n % d
  if 2 * r < d ∨ (2 * r = d ∧ q % 2 = 0) then q else q + 1

/-- The most doublings that still give a finer spacing. -/
def maxDoublings : Nat := 1022

/-- The bits of the double nearest to `n / d`, for `n ≤ d` and `0 < d`. -/
def encodeFraction (n d : Nat) : Nat :=
  let j := doublings d maxDoublings n
  (maxDoublings - j) <<< 52 + divNearest (n <<< (52 + j)) d

/-- The bits of 1. -/
def one : Nat := 0x3FF0000000000000

/-- The doublings never exceed their limit. -/
theorem doublings_le (d limit n : Nat) : doublings d limit n ≤ limit := by
  induction limit generalizing n with
  | zero => simp [doublings]
  | succ limit ih =>
    have := ih (2 * n)
    simp only [doublings]
    split <;> omega

/-- One doubling fewer does not reach `d`. -/
theorem lt_of_doublings_eq_succ {d limit n j : Nat} (h : doublings d limit n = j + 1) :
    n <<< j < d := by
  induction limit generalizing n j with
  | zero => simp [doublings] at h
  | succ limit ih =>
    simp only [doublings] at h
    split at h
    · omega
    · cases j with
      | zero =>
        rw [Nat.shiftLeft_zero]
        omega
      | succ j =>
        rw [Nat.shiftLeft_succ_inside]
        exact ih (by omega)

/-- A quotient that does not exceed an integer is not rounded past it. -/
theorem divNearest_le {n d m : Nat} (hd : 0 < d) (h : n ≤ m * d) : divNearest n d ≤ m := by
  have hq : n / d ≤ m := Nat.div_le_of_le_mul (by rwa [Nat.mul_comm])
  have hdiv := Nat.div_add_mod n d
  simp only [divNearest]
  split
  · exact hq
  · next hr =>
    rcases Nat.lt_or_eq_of_le hq with hlt | heq
    · exact hlt
    · rw [heq, Nat.mul_comm d m] at hdiv
      omega

/-- The doublings leave 53 bits before the point, or 52 and the integer 1 if there are none. -/
theorem divNearest_shiftLeft_le {n d j : Nat} (hd : 0 < d) (h : n ≤ d)
    (hj : doublings d maxDoublings n = j) :
    divNearest (n <<< (52 + j)) d ≤ 1 <<< 53 ∧
      (j = 0 → divNearest (n <<< (52 + j)) d ≤ 1 <<< 52) := by
  cases j with
  | zero =>
    have hle : divNearest (n <<< 52) d ≤ 1 <<< 52 := by
      refine divNearest_le hd ?_
      rw [Nat.shiftLeft_eq, Nat.shiftLeft_eq, Nat.one_mul, Nat.mul_comm]
      exact Nat.mul_le_mul_left _ h
    exact ⟨Nat.le_trans hle (by decide), fun _ => hle⟩
  | succ j =>
    have hlt := lt_of_doublings_eq_succ hj
    refine ⟨divNearest_le hd ?_, fun hzero => absurd hzero (Nat.succ_ne_zero j)⟩
    have hshift : n <<< (52 + (j + 1)) = 1 <<< 53 * n <<< j := by
      rw [Nat.shiftLeft_eq, Nat.shiftLeft_eq, Nat.shiftLeft_eq, Nat.one_mul,
        show 52 + (j + 1) = 53 + j by omega, Nat.pow_add]
      ac_rfl
    rw [hshift]
    exact Nat.mul_le_mul_left _ (Nat.le_of_lt hlt)

/-- A fraction that does not exceed 1 is not rounded past 1. -/
theorem encodeFraction_le_one {n d : Nat} (hd : 0 < d) (h : n ≤ d) : encodeFraction n d ≤ one := by
  have hj := doublings_le d maxDoublings n
  have hle := divNearest_shiftLeft_le hd h rfl
  simp only [encodeFraction, maxDoublings, one, Nat.shiftLeft_eq] at *
  omega

end Signpost.Binary64
