import Signpost.Binary64
import Signpost.Text.Digits

/-!
# Weights

How strongly a visitor prefers a language: a double from 0 to 1, held by its bits.  For doubles
that are not negative the order of the bits is the order of the values, so two weights are
compared as natural numbers.

* `Weight.ofFactor?` reads the two accepted spellings of a factor, `1` and `0.` with at least one
  digit, and rounds the decimal fraction correctly.
* `Weight.one` is the weight of a tag that comes without a factor.
-/

namespace Signpost

/-- A double from 0 to 1, by its bits. -/
structure Weight where
  /-- The IEEE 754 encoding. -/
  bits : Nat
  /-- The value does not exceed 1, and so has no sign. -/
  bits_le_one : bits ≤ Binary64.one
  deriving DecidableEq, Repr

namespace Weight

/-- The full weight. -/
def one : Weight := ⟨Binary64.one, Nat.le_refl _⟩

/-- The weight nearest to the fraction `n / d`. -/
def ofFraction (n d : Nat) (hd : 0 < d) (h : n ≤ d) : Weight :=
  ⟨Binary64.encodeFraction n d, Binary64.encodeFraction_le_one hd h⟩

/-- The weight with the given decimal digits after the point. -/
def ofDecimals (ds : List Char) (h : ∀ c ∈ ds, c.isDigit = true) : Weight :=
  ofFraction (Text.numeral 10 ds) (Nat.pow 10 ds.length) (Nat.pow_pos (by decide))
    (Nat.le_of_lt (Text.numeral_lt h))

/-- The weight that a factor writes: `1`, or `0.` and one or more digits. -/
def ofFactor? : List Char → Option Weight
  | ['1'] => some one
  | '0' :: '.' :: d :: ds =>
    if h : (d :: ds).all Char.isDigit = true then
      some (ofDecimals (d :: ds) (List.all_eq_true.1 h))
    else none
  | _ => none

/-- Weights are ordered by value. -/
instance : LE Weight := ⟨fun a b => a.bits ≤ b.bits⟩

instance (a b : Weight) : Decidable (a ≤ b) :=
  inferInstanceAs (Decidable (a.bits ≤ b.bits))

/-- The greater weight has the greater value. -/
instance : LT Weight := ⟨fun a b => a.bits < b.bits⟩

instance (a b : Weight) : Decidable (a < b) :=
  inferInstanceAs (Decidable (a.bits < b.bits))

end Weight

end Signpost
