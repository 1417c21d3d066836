/-!
# Blank characters

Two notions of white space meet in this library, and they are not the same set.

* **ASCII blanks** — the six characters a language header may put between its parts:
  space, tab, line feed, vertical tab, form feed and carriage return.
* **Blanks** — every character with the Unicode property `White_Space`.  They are what is cut
  off the two ends of a text before it is looked at as a value.

Every ASCII blank is a blank (`isBlank_of_isAsciiBlank`).
-/

namespace Signpost.Text

/-- Space, or one of the five control characters from tab to carriage return. -/
def isAsciiBlank (c : Char) : Bool :=
  c = ' ' || (9 ≤ c.toNat && c.toNat ≤ 13)

/-- The Unicode property `White_Space`. -/
def isBlank (c : Char) : Bool :=
  let n := c.toNat
  (9 ≤ n && n ≤ 13) || n = 0x20 || n = 0x85 || n = 0xA0 || n = 0x1680
    || (0x2000 ≤ n && n ≤ 0x200A) || n = 0x2028 || n = 0x2029 || n = 0x202F
    || n = 0x205F || n = 0x3000

/-- The Unicode blanks include the ASCII ones. -/
theorem isBlank_of_isAsciiBlank {c : Char} (h : isAsciiBlank c = true) : isBlank c = true := by
  simp only [isAsciiBlank, Bool.or_eq_true, decide_eq_true_eq, Bool.and_eq_true] at h
  rcases h with rfl | ⟨h9, h13⟩
  · decide
  · simp [isBlank, h9, h13]

/-- A text without its leading blanks. -/
def trimStart (cs : List Char) : List Char :=
  cs.dropWhile isBlank

/-- A text without its trailing blanks. -/
def trimEnd (cs : List Char) : List Char :=
  (cs.reverse.dropWhile isBlank).reverse

/-- A text without the blanks at its two ends. -/
def trim (cs : List Char) : List Char :=
  trimEnd (trimStart cs)

end Signpost.Text
