import Mathlib.Tactic.Common
import Mathlib.Tactic.IntervalCases
import Signpost.Text.Quoted

/-!
# Reading JSON strings back

A small reader for JSON strings and arrays of strings, to say what a written one holds.  It knows all
escape sequences but the pairs for characters beyond the first plane, which are never written.

**`readJsonArray?_append`** says that an array of quoted texts is read as these texts, whatever they
hold: no quotation mark, backslash or control character in one of them ends it too early.
-/

namespace Signpost.Text

/-! ## Reading -/

/-- The character that stands behind the backslash of an escape sequence of two characters. -/
def unescape? : Char → Option Char
  | '"' => some '"'
  | '\\' => some '\\'
  | '/' => some '/'
  | 'b' => some '\x08'
  | 'f' => some '\x0C'
  | 'n' => some '\n'
  | 'r' => some '\r'
  | 't' => some '\t'
  | _ => none

/-- The character with the given number in hexadecimal digits. -/
def charOfHex? (ds : List Char) : Option Char :=
  if ds.all (isDigitOf 16) then some (Char.ofNat (numeral 16 ds)) else none

/-- One more character in front of a text that was read, if both are there. -/
def consRead (c : Option Char) (read : Option (List Char × List Char)) :
    Option (List Char × List Char) :=
  c.bind fun c => read.map fun p => (c :: p.1, p.2)

/-- The text of a JSON string, whose opening quotation mark has been read, and what follows the closing
one. -/
def readJsonText? : List Char → Option (List Char × List Char)
  | '"' :: rest => some ([], rest)
  | '\\' :: 'u' :: a :: b :: c :: d :: rest => consRead (charOfHex? [a, b, c, d]) (readJsonText? rest)
  | '\\' :: c :: rest => consRead (unescape? c) (readJsonText? rest)
  | c :: rest => consRead (if c.toNat < 0x20 then none else some c) (readJsonText? rest)
  | [] => none

lemma consRead_eq_some_iff {c : Option Char} {read : Option (List Char × List Char)}
    {text rest : List Char} :
    consRead c read = some (text, rest) ↔
      ∃ d more, c = some d ∧ read = some (more, rest) ∧ d :: more = text := by
  simp only [consRead, Option.bind_eq_some_iff, Option.map_eq_some_iff, Prod.mk.injEq, Prod.exists]
  constructor
  · rintro ⟨d, hc, more, rest, hread, htext, rfl⟩
    exact ⟨d, more, hc, hread, htext⟩
  · rintro ⟨d, more, hc, hread, htext⟩
    exact ⟨d, hc, more, rest, hread, htext, rfl⟩

/-- What follows a JSON string is shorter than the text. -/
lemma length_lt_of_readJsonText? {cs text rest : List Char} (h : readJsonText? cs = some (text, rest)) :
    rest.length < cs.length := by
  fun_induction readJsonText? cs generalizing text with
  | case1 rest' =>
      cases h
      exact Nat.lt_succ_self _
  | case2 a b c d rest' ih =>
      obtain ⟨-, more, -, hread, -⟩ := consRead_eq_some_iff.1 h
      have := ih hread
      simp only [List.length_cons]
      omega
  | case3 c rest' _ ih =>
      obtain ⟨-, more, -, hread, -⟩ := consRead_eq_some_iff.1 h
      have := ih hread
      simp only [List.length_cons]
      omega
  | case4 c rest' _ _ _ ih =>
      obtain ⟨-, more, -, hread, -⟩ := consRead_eq_some_iff.1 h
      have := ih hread
      simp only [List.length_cons]
      omega
  | case5 => cases h

/-- The strings of a JSON array, whose opening bracket has been read, and what follows the closing one.
There is at least one string. -/
def readJsonItems? (cs : List Char) : Option (List String × List Char) :=
  match cs with
  | '"' :: rest =>
    match h : readJsonText? rest with
    | some (text, ',' :: more) =>
      have := length_lt_of_readJsonText? h
      (readJsonItems? more).map fun p => (String.ofList text :: p.1, p.2)
    | some (text, ']' :: more) => some ([String.ofList text], more)
    | _ => none
  | _ => none
  termination_by cs.length
  decreasing_by simp_all; omega

/-- The strings of a JSON array, and what follows it. -/
def readJsonArray? : List Char → Option (List String × List Char)
  | '[' :: ']' :: rest => some ([], rest)
  | '[' :: rest => readJsonItems? rest
  | _ => none

/-! ## Reading what was written -/

/-- The escape sequence of a control character has four digits, and they give its number. -/
lemma exists_digits_of_lt {n : ℕ} (h : n < 0x20) :
    ∃ a b c d, (digits 16 4 n).toList = [a, b, c, d] ∧
      charOfHex? [a, b, c, d] = some (Char.ofNat n) := by
  interval_cases n <;> exact ⟨_, _, _, _, rfl, by decide⟩

/-- A character is read back from its written form. -/
lemma readJsonText?_jsonChar (c : Char) (rest : List Char) :
    readJsonText? ((jsonChar c).toList ++ rest) = consRead (some c) (readJsonText? rest) := by
  unfold jsonChar
  split
  iterate 7 rfl
  · next hquote hbackslash _ _ _ _ _ =>
    split
    · next hcontrol =>
      obtain ⟨d₁, d₂, d₃, d₄, hdigits, hchar⟩ := exists_digits_of_lt hcontrol
      rw [String.toList_append, hdigits]
      show consRead (charOfHex? [d₁, d₂, d₃, d₄]) (readJsonText? rest) = _
      rw [hchar, Char.ofNat_toNat]
    · next hcontrol =>
      rw [Char.toString_eq_singleton]
      simp only [String.toList_singleton, List.singleton_append]
      rw [readJsonText?, if_neg hcontrol]
      · exact hquote
      · exact fun _ _ _ _ _ hc _ => hbackslash hc
      · exact fun _ _ hc _ => hbackslash hc

/-- **A text is read back from its written form**, up to the closing quotation mark. -/
lemma readJsonText?_append (text rest : List Char) :
    readJsonText? ((String.join (text.map jsonChar)).toList ++ '"' :: rest) = some (text, rest) := by
  induction text with
  | nil => rfl
  | cons c text ih =>
      rw [List.map_cons, String.join_cons, String.toList_append, List.append_assoc,
        readJsonText?_jsonChar, ih]
      rfl

lemma toList_quoteJson (s : String) :
    (quoteJson s).toList = '"' :: ((String.join (s.toList.map jsonChar)).toList ++ ['"']) := by
  simp [quoteJson, quote]

lemma readJsonItems?_of_comma {cs text more : List Char}
    (h : readJsonText? cs = some (text, ',' :: more)) :
    readJsonItems? ('"' :: cs) =
      (readJsonItems? more).map fun p => (String.ofList text :: p.1, p.2) := by
  rw [readJsonItems?]
  split
  · next text' more' heq =>
    rw [heq] at h
    cases h
    rfl
  · next text' more' heq =>
    rw [heq] at h
    cases h
  · next hcomma _ => exact absurd h (hcomma text more)

lemma readJsonItems?_of_bracket {cs text more : List Char}
    (h : readJsonText? cs = some (text, ']' :: more)) :
    readJsonItems? ('"' :: cs) = some ([String.ofList text], more) := by
  rw [readJsonItems?]
  split
  · next text' more' heq =>
    rw [heq] at h
    cases h
  · next text' more' heq =>
    rw [heq] at h
    cases h
    rfl
  · next hbracket => exact absurd h (hbracket text more)

/-- Quoted texts with commas between them are read back, up to the closing bracket. -/
lemma readJsonItems?_append (s : String) (more : List String) (rest : List Char) :
    readJsonItems? ((",".intercalate ((s :: more).map quoteJson)).toList ++ ']' :: rest) =
      some (s :: more, rest) := by
  induction more generalizing s with
  | nil =>
      rw [List.map_singleton, String.intercalate_singleton, toList_quoteJson, List.cons_append,
        List.append_assoc, List.singleton_append,
        readJsonItems?_of_bracket (readJsonText?_append _ _), String.ofList_toList]
  | cons t more ih =>
      rw [List.map_cons, List.map_cons, String.intercalate_cons_cons, ← List.map_cons,
        String.toList_append, String.toList_append, toList_quoteJson]
      show readJsonItems? ('"' :: ((_ ++ ['"']) ++ [','] ++ _ ++ _)) = _
      rw [List.append_assoc, List.append_assoc, List.append_assoc, List.singleton_append,
        List.singleton_append, readJsonItems?_of_comma (readJsonText?_append _ _), ih,
        String.ofList_toList]
      rfl

/-- **An array of quoted texts is read back.** -/
theorem readJsonArray?_append (texts : List String) (rest : List Char) :
    readJsonArray? ('[' :: ((",".intercalate (texts.map quoteJson)).toList ++ ']' :: rest)) =
      some (texts, rest) := by
  cases texts with
  | nil => rfl
  | cons s more =>
      have hitems := readJsonItems?_append s more rest
      rw [readJsonArray?, hitems]
      -- the first text begins with a quotation mark, and not with the closing bracket
      intro more' heq
      rw [heq, readJsonItems?] at hitems
      · cases hitems
      · rintro rest' ⟨⟩

end Signpost.Text
