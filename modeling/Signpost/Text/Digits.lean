/-!
# Digits

Numbers written with the digits of a base: reading a list of digits, and writing a natural number
with a least number of digits.

A digit is an ASCII digit, or an ASCII letter for the values from ten on, in either case.
`numeral_lt` bounds what a number of decimal digits can write.
-/

namespace Signpost.Text

/-- The value of a digit; nothing for a character that is no ASCII digit or letter. -/
def digit? (c : Char) : Option Nat :=
  if c.isDigit then some (c.toNat - 48)
  else if 'a' ≤ c ∧ c ≤ 'z' then some (c.toNat - 87)
  else if 'A' ≤ c ∧ c ≤ 'Z' then some (c.toNat - 55)
  else none

/-- Whether the character is a digit of the base. -/
def isDigitOf (base : Nat) (c : Char) : Bool :=
  match digit? c with
  | some v => v < base
  | none => false

/-- The number that a list of digits of the base writes. -/
def numeral (base : Nat) (ds : List Char) : Nat :=
  ds.foldl (fun v c => v * base + (digit? c).getD 0) 0

/-- The digits of a number of the base, `a` standing for ten, at least `width` of them. -/
def digits (base width n : Nat) : String :=
  let ds := Nat.toDigits base n
  String.ofList (List.replicate (width - ds.length) '0' ++ ds)

/-- A decimal digit has a value below ten. -/
theorem digit?_of_isDigit {c : Char} (h : c.isDigit = true) : (digit? c).getD 0 < 10 := by
  simp only [digit?, h, if_true, Option.getD_some]
  simp only [Char.isDigit, Bool.and_eq_true, decide_eq_true_eq, ge_iff_le,
    UInt32.le_iff_toNat_le] at h
  have h2 : c.toNat ≤ 57 := h.2
  omega

/-- Decimal digits write a number below the power of ten that has one digit more. -/
theorem numeral_lt {ds : List Char} (h : ∀ c ∈ ds, c.isDigit = true) :
    numeral 10 ds < Nat.pow 10 ds.length := by
  suffices H : ∀ (v : Nat), ds.foldl (fun v c => v * 10 + (digit? c).getD 0) v
      < (v + 1) * 10 ^ ds.length by simpa [numeral] using H 0
  induction ds with
  | nil => simp
  | cons c ds ih =>
    intro v
    have hc := digit?_of_isDigit (h c (by simp))
    have := ih (fun x hx => h x (by simp [hx])) (v * 10 + (digit? c).getD 0)
    simp only [List.foldl_cons, List.length_cons, Nat.pow_succ]
    refine Nat.lt_of_lt_of_le this ?_
    rw [show (v + 1) * (10 ^ ds.length * 10) = ((v + 1) * 10) * 10 ^ ds.length by ac_rfl]
    exact Nat.mul_le_mul_right _ (by omega)

end Signpost.Text
