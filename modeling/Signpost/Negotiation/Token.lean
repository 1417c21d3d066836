import Signpost.Text.Blank
import Signpost.Weight

/-!
# Tokens of a language header

A language header is not split at its commas.  It is searched from left to right for tokens, and
what belongs to no token is skipped, whatever it is.

A **token** is a tag — one to eight ASCII letters, then possibly a hyphen and one to eight more —
and possibly a factor clause after it: a semicolon, the letter `q` and an equals sign, with ASCII
blanks allowed between them.  What may follow the equals sign depends on the policy for factors.

* Under `Policy.ignore` it has to be `1` or `0.` and digits, as far as the digits go.  Without
  such a factor the clause is no part of the token, and its letters are searched for tags again.
* Under `Policy.drop` it is everything up to the next comma, good or bad.

`Token.weight?` then says what the token is worth.  The search ends because a token holds at
least one letter of the text (`token?_length_lt`).
-/

namespace Signpost.Negotiation

open Signpost.Text

/-- What becomes of a tag whose factor is neither `1` nor `0.` and digits. -/
inductive Policy where
  /-- The tag keeps the full weight, and the search goes on right after it. -/
  | ignore
  /-- The tag is discarded together with the factor. -/
  | drop
  deriving DecidableEq, Repr

/-- The policy that holds where none is chosen. -/
def Policy.default : Policy := .ignore

/-- A tag and its factor as they are spelled in the header. -/
structure Token where
  /-- The language tag. -/
  tag : List Char
  /-- The text of the factor, if there is a factor clause. -/
  factor : Option (List Char)
  deriving DecidableEq, Repr

/-! ## The parts of a token -/

/-- The letters at the head of a text, but no more than eight. -/
def subtag (cs : List Char) : List Char :=
  (cs.take 8).takeWhile Char.isAlpha

/-- The hyphen and the letters after it at the head of a text; empty if they are not both there. -/
def regionSuffix : List Char → List Char
  | '-' :: rest => if subtag rest = [] then [] else '-' :: subtag rest
  | _ => []

/-- The language tag at the head of a text; empty if there is none. -/
def leadingTag (cs : List Char) : List Char :=
  if subtag cs = [] then []
  else subtag cs ++ regionSuffix (cs.drop (subtag cs).length)

/-- A text without its leading ASCII blanks. -/
def skipBlanks (cs : List Char) : List Char :=
  cs.dropWhile isAsciiBlank

/-- The text after the given character, which has to come first. -/
def after? (accepts : Char → Bool) : List Char → Option (List Char)
  | [] => none
  | c :: cs => if accepts c then some cs else none

/-- The text after the semicolon, the letter `q` and the equals sign of a factor clause. -/
def clauseBody? (cs : List Char) : Option (List Char) := do
  let afterSemicolon ← after? (· = ';') (skipBlanks cs)
  let afterLetter ← after? (fun c => c = 'q' || c = 'Q') (skipBlanks afterSemicolon)
  after? (· = '=') (skipBlanks afterLetter)

/-- The well-formed factor at the head of a text, and the text after it. -/
def leadingFactor? : List Char → Option (List Char × List Char)
  | '1' :: rest => some (['1'], rest)
  | '0' :: '.' :: rest =>
    match rest.takeWhile Char.isDigit with
    | [] => none
    | ds => some ('0' :: '.' :: ds, rest.dropWhile Char.isDigit)
  | _ => none

/-- The factor that the policy reads after an equals sign, and the text after it. -/
def Policy.factor? (policy : Policy) (cs : List Char) : Option (List Char × List Char) :=
  match policy with
  | .ignore => leadingFactor? (skipBlanks cs)
  | .drop => some (cs.takeWhile (· ≠ ','), cs.dropWhile (· ≠ ','))

/-! ## Searching for tokens -/

/-- The token at the head of a text, and the text after it. -/
def token? (policy : Policy) (cs : List Char) : Option (Token × List Char) :=
  if leadingTag cs = [] then none
  else
    let rest := cs.drop (leadingTag cs).length
    match (clauseBody? rest).bind policy.factor? with
    | some (factor, rest') => some (⟨leadingTag cs, some factor⟩, rest')
    | none => some (⟨leadingTag cs, none⟩, skipBlanks rest)

/-- Skipping blanks adds nothing to a text. -/
theorem length_skipBlanks_le (cs : List Char) : (skipBlanks cs).length ≤ cs.length :=
  (List.dropWhile_sublist _).length_le

/-- What follows a character is no longer than the text. -/
theorem length_le_of_after? {accepts : Char → Bool} {cs rest : List Char}
    (h : after? accepts cs = some rest) : rest.length ≤ cs.length := by
  cases cs with
  | nil => simp [after?] at h
  | cons c cs =>
    simp only [after?] at h
    split at h <;> simp_all

/-- What follows an equals sign is no longer than the text. -/
theorem length_le_of_clauseBody? {cs rest : List Char} (h : clauseBody? cs = some rest) :
    rest.length ≤ cs.length := by
  simp only [clauseBody?, Option.bind_eq_bind, Option.bind_eq_some_iff] at h
  obtain ⟨a, ha, b, hb, hc⟩ := h
  have h1 := length_le_of_after? ha
  have h2 := length_le_of_after? hb
  have h3 := length_le_of_after? hc
  have h4 := length_skipBlanks_le cs
  have h5 := length_skipBlanks_le a
  have h6 := length_skipBlanks_le b
  omega

/-- What follows a well-formed factor is no longer than the text. -/
theorem length_le_of_leadingFactor? {cs : List Char} {p : List Char × List Char}
    (h : leadingFactor? cs = some p) : p.2.length ≤ cs.length := by
  unfold leadingFactor? at h
  split at h
  · cases h; simp
  · next rest =>
    split at h
    · cases h
    · cases h
      have := (List.dropWhile_sublist (l := rest) Char.isDigit).length_le
      simp only [List.length_cons]
      omega
  · cases h

/-- What follows a factor is no longer than the text. -/
theorem Policy.length_le_of_factor? {policy : Policy} {cs : List Char} {p : List Char × List Char}
    (h : policy.factor? cs = some p) : p.2.length ≤ cs.length := by
  cases policy with
  | ignore =>
    have := length_le_of_leadingFactor? h
    have := length_skipBlanks_le cs
    omega
  | drop =>
    cases h
    exact (List.dropWhile_sublist _).length_le

/-- **A token takes at least one character of the text.** -/
theorem token?_length_lt {policy : Policy} {cs rest : List Char} {t : Token}
    (h : token? policy cs = some (t, rest)) : rest.length < cs.length := by
  unfold token? at h
  split at h
  · cases h
  · next htag =>
    have hlen : 0 < (leadingTag cs).length := List.length_pos_iff.2 htag
    have hcs : cs ≠ [] := by
      rintro rfl
      exact htag rfl
    have hcs' : 0 < cs.length := List.length_pos_iff.2 hcs
    have hdrop : (cs.drop (leadingTag cs).length).length < cs.length := by
      rw [List.length_drop]; omega
    dsimp only at h
    split at h
    · next factor rest' hf =>
      obtain ⟨body, hbody, hfactor⟩ := Option.bind_eq_some_iff.1 hf
      have h1 := length_le_of_clauseBody? hbody
      have h2 := Policy.length_le_of_factor? hfactor
      cases h
      dsimp only at h2
      omega
    · cases h
      have := length_skipBlanks_le (cs.drop (leadingTag cs).length)
      omega

/-- The tokens of a text, from left to right. -/
def tokens (policy : Policy) (cs : List Char) : List Token :=
  match h : token? policy cs with
  | some (t, rest) =>
    have := token?_length_lt h
    t :: tokens policy rest
  | none =>
    match cs with
    | [] => []
    | _ :: rest => tokens policy rest
  termination_by cs.length

/-- The weight of a token; nothing if the policy discards the token. -/
def Token.weight? (policy : Policy) (t : Token) : Option Weight :=
  match policy, t.factor with
  | _, none => some .one
  | .ignore, some factor => some ((Weight.ofFactor? factor).getD .one)
  | .drop, some factor => Weight.ofFactor? (trim factor)

end Signpost.Negotiation
