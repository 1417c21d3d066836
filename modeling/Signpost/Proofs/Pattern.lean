import Mathlib.Tactic.Common

/-!
# Matching a pattern by backtracking

What a search for a pattern finds, given by the pattern alone.  The matcher knows nothing about any
particular pattern: it walks over the syntax tree, tries the possibilities in the order of their
priority, and goes back to the next one whenever the rest of the pattern fails.

* `Pattern` — the syntax: classes of characters, sequence, prioritised choice, greedy repetition and
  numbered groups.
* `Pattern.run` — matching with a continuation.  The first possibility for which the continuation
  succeeds decides.
* `Pattern.match?` and `Pattern.scan` — the match at the head of a text, and the matches in a text
  from left to right, none beginning before the last one ends.

**Greedy repetitions.**  `run_star_oneOf` and `run_atMost_oneOf` say when a greedy repetition of a
class never gives back a character: what follows either succeeds after the longest run, or fails
wherever a character of the class comes first.
-/

namespace Signpost

/-! ## Classes of characters -/

/-- A class of characters, given by ranges.  Letters count without regard to their ASCII case. -/
structure CharClass where
  /-- The ranges, both ends included. -/
  ranges : List (Char × Char)
  /-- Whether the class consists of the characters outside the ranges. -/
  negated : Bool := false
  deriving DecidableEq, Repr

namespace CharClass

/-- Whether a character lies in one of the ranges. -/
def covers (k : CharClass) (c : Char) : Bool :=
  k.ranges.any fun r => r.1 ≤ c && c ≤ r.2

/-- Whether a character belongs to the class. -/
def accepts (k : CharClass) (c : Char) : Bool :=
  (k.covers c || k.covers c.toLower || k.covers c.toUpper) != k.negated

/-- The class of one character. -/
def only (c : Char) : CharClass := { ranges := [(c, c)] }

end CharClass

/-! ## Patterns -/

/-- The syntax of patterns. -/
inductive Pattern where
  /-- Matches no character. -/
  | empty
  /-- One character of a class. -/
  | oneOf (k : CharClass)
  /-- One pattern after the other. -/
  | seq (p q : Pattern)
  /-- The first pattern, or else the second. -/
  | either (p q : Pattern)
  /-- The pattern as often as possible. -/
  | star (p : Pattern)
  /-- The pattern, with what it matches remembered under a number. -/
  | group (i : Nat) (p : Pattern)
  deriving DecidableEq, Repr

namespace Pattern

instance : Append Pattern := ⟨seq⟩

/-- One character, in either case if it is a letter. -/
def char (c : Char) : Pattern := oneOf (.only c)

/-- The pattern if possible, else nothing. -/
def maybe (p : Pattern) : Pattern := either p empty

/-- The pattern at least once and as often as possible. -/
def plus (p : Pattern) : Pattern := p ++ star p

/-- The pattern as often as possible, but no more than `n` times. -/
def atMost : Nat → Pattern → Pattern
  | 0, _ => empty
  | n + 1, p => maybe (p ++ atMost n p)

/-- The pattern at least once and as often as possible, but no more than `n + 1` times. -/
def onceAndAtMost (n : Nat) (p : Pattern) : Pattern := p ++ atMost n p

/-- The classes of characters that a pattern is made of. -/
def classes : Pattern → List CharClass
  | empty => []
  | oneOf k => [k]
  | seq p q => p.classes ++ q.classes
  | either p q => p.classes ++ q.classes
  | star p => p.classes
  | group _ p => p.classes

/-- Where matching stands: the text that is left, and the groups so far, latest first. -/
structure Match where
  /-- The text after the match. -/
  rest : List Char
  /-- What the groups have matched. -/
  groups : List (Nat × List Char) := []
  deriving DecidableEq, Repr

/-- What a group has matched; nothing if it took no part in the match. -/
def Match.group? (m : Match) (i : Nat) : Option (List Char) :=
  m.groups.lookup i

/-- Matches the pattern, and after it whatever the continuation `k` demands.  A repetition goes on
only after a round that has taken something. -/
def run {β : Type} : Pattern → Match → (Match → Option β) → Option β
  | empty, m, k => k m
  | oneOf c, m, k =>
    match m.rest with
    | [] => none
    | x :: xs => if c.accepts x then k { m with rest := xs } else none
  | seq p q, m, k => run p m fun m' => run q m' k
  | either p q, m, k => run p m k <|> run q m k
  | star p, m, k =>
    (run p m fun m' => if m'.rest.length < m.rest.length then run (star p) m' k else none) <|> k m
  | group i p, m, k =>
    run p m fun m' =>
      k { m' with groups := (i, m.rest.take (m.rest.length - m'.rest.length)) :: m'.groups }
  termination_by p m => (sizeOf p, m.rest.length)

/-- The match at the head of a text. -/
def match? (p : Pattern) (cs : List Char) : Option Match :=
  run p { rest := cs } some

/-- The matches in a text from left to right.  The search goes on where a match ends, but at least
one character further. -/
def scan (p : Pattern) (cs : List Char) : List Match :=
  match p.match? cs with
  | some m =>
    if m.rest.length < cs.length then m :: scan p m.rest
    else m :: match cs with
      | [] => []
      | _ :: rest => scan p rest
  | none =>
    match cs with
    | [] => []
    | _ :: rest => scan p rest
  termination_by cs.length

/-- The latest group of a number counts. -/
@[simp] lemma group?_cons (rest text : List Char) (g : List (Nat × List Char)) (i j : Nat) :
    (Match.mk rest ((j, text) :: g)).group? i
      = if i = j then some text else (Match.mk rest g).group? i := by
  rw [Match.group?, Match.group?, List.lookup_cons]
  by_cases hij : i = j
  · rw [if_pos hij, hij, beq_self_eq_true]
  · rw [if_neg hij, beq_false_of_ne hij]

/-! ## Equations of the matcher -/

section Equations

variable {β : Type} (m : Match) (k : Match → Option β)

@[simp] lemma run_empty : run empty m k = k m := by
  rw [run]

lemma run_append (p q : Pattern) : run (p ++ q) m k = run p m fun m' => run q m' k := by
  show run (seq p q) m k = _
  rw [run]

lemma run_either (p q : Pattern) : run (either p q) m k = (run p m k).or (run q m k) := by
  rw [run, Option.orElse_eq_orElse, Option.orElse_eq_or]

lemma run_maybe (p : Pattern) : run (maybe p) m k = (run p m k).or (k m) := by
  rw [maybe, run_either, run_empty]

lemma run_group (i : Nat) (p : Pattern) :
    run (group i p) m k = run p m fun m' =>
      k { m' with groups := (i, m.rest.take (m.rest.length - m'.rest.length)) :: m'.groups } := by
  rw [run]

lemma run_star (p : Pattern) :
    run (star p) m k
      = (run p m fun m' => if m'.rest.length < m.rest.length then run (star p) m' k else none).or
          (k m) := by
  rw [run, Option.orElse_eq_orElse, Option.orElse_eq_or]

@[simp] lemma run_oneOf_nil (c : CharClass) (g : List (Nat × List Char)) :
    run (oneOf c) ⟨[], g⟩ k = none := by
  rw [run]

lemma run_oneOf_cons (c : CharClass) (x : Char) (xs : List Char) (g : List (Nat × List Char)) :
    run (oneOf c) ⟨x :: xs, g⟩ k = if c.accepts x then k ⟨xs, g⟩ else none := by
  rw [run]

/-- A repetition succeeds wherever what follows it succeeds. -/
lemma isSome_run_star (hk : ∀ m, (k m).isSome) (p : Pattern) : (run (star p) m k).isSome := by
  rw [run_star, Option.isSome_or, hk, Bool.or_true]

/-- So does a pattern that may be left out. -/
lemma isSome_run_maybe (hk : ∀ m, (k m).isSome) (p : Pattern) : (run (maybe p) m k).isSome := by
  rw [run_maybe, Option.isSome_or, hk, Bool.or_true]

end Equations

/-! ## Greedy repetitions that give nothing back -/

section Greedy

variable {β : Type} {k : Match → Option β} {c : CharClass} {g : List (Nat × List Char)}

/-- **A greedy run of a class is never cut short** if what follows succeeds right after it, or else
cannot begin with a character of the class: then going back to a shorter run changes nothing. -/
theorem run_star_oneOf {cs : List Char}
    (hk : (k ⟨cs.dropWhile c.accepts, g⟩).isSome ∨
      ∀ x xs, c.accepts x = true → k ⟨x :: xs, g⟩ = none) :
    run (star (oneOf c)) ⟨cs, g⟩ k = k ⟨cs.dropWhile c.accepts, g⟩ := by
  induction cs with
  | nil => simp [run_star]
  | cons x xs ih =>
      rw [run_star, run_oneOf_cons]
      by_cases hx : c.accepts x = true
      · rw [List.dropWhile_cons_of_pos hx] at hk ⊢
        simp only [hx, if_true, List.length_cons, Nat.lt_succ_self, ih hk]
        rcases hk with hk | hk
        · exact Option.or_of_isSome hk
        · rw [hk x xs hx, Option.or_none]
      · rw [List.dropWhile_cons_of_neg hx]
        simp only [hx, Bool.false_eq_true, if_false, Option.none_or]

/-- The longest run of a class with no more than `n` characters is the one that counts, if what
follows always succeeds. -/
theorem run_atMost_oneOf (hk : ∀ m, (k m).isSome) (n : Nat) (cs : List Char) :
    run (atMost n (oneOf c)) ⟨cs, g⟩ k
      = k ⟨cs.drop ((cs.take n).takeWhile c.accepts).length, g⟩ := by
  induction n generalizing cs with
  | zero => simp [atMost]
  | succ n ih =>
      rw [atMost, run_maybe, run_append]
      cases cs with
      | nil => simp
      | cons x xs =>
          rw [run_oneOf_cons, List.take_succ_cons]
          by_cases hx : c.accepts x = true
          · rw [if_pos hx, ih, List.takeWhile_cons_of_pos hx]
            exact Option.or_of_isSome (hk _)
          · rw [if_neg hx, List.takeWhile_cons_of_neg hx]
            rfl

/-- The same for a run that has to hold at least one character. -/
theorem run_onceAndAtMost_oneOf (hk : ∀ m, (k m).isSome) (n : Nat) (cs : List Char) :
    run (onceAndAtMost n (oneOf c)) ⟨cs, g⟩ k
      = if (cs.take (n + 1)).takeWhile c.accepts = [] then none
        else k ⟨cs.drop ((cs.take (n + 1)).takeWhile c.accepts).length, g⟩ := by
  rw [onceAndAtMost, run_append]
  cases cs with
  | nil => simp
  | cons x xs =>
      rw [run_oneOf_cons, List.take_succ_cons]
      by_cases hx : c.accepts x = true
      · rw [if_pos hx, run_atMost_oneOf hk, List.takeWhile_cons_of_pos hx, if_neg (by simp)]
        rfl
      · rw [if_neg hx, List.takeWhile_cons_of_neg hx, if_pos rfl]

end Greedy

/-! ## How much a match takes -/

/-- The least number of characters that a pattern takes. -/
def minLength : Pattern → Nat
  | empty => 0
  | oneOf _ => 1
  | seq p q => p.minLength + q.minLength
  | either p q => min p.minLength q.minLength
  | star _ => 0
  | group _ p => p.minLength

/-- **A pattern takes at least its least length**: what is handed to the continuation in the end is
shorter than the text by that much. -/
theorem exists_of_run {β : Type} {b : β} (p : Pattern) :
    ∀ {m : Match} {k : Match → Option β}, run p m k = some b →
      ∃ m', k m' = some b ∧ m'.rest.length + p.minLength ≤ m.rest.length := by
  induction p with
  | empty =>
      intro m k h
      rw [run_empty] at h
      exact ⟨m, h, Nat.le_refl _⟩
  | oneOf c =>
      rintro ⟨_ | ⟨x, xs⟩, g⟩ k h
      · simp at h
      · rw [run_oneOf_cons] at h
        split at h
        · exact ⟨_, h, Nat.le_refl _⟩
        · cases h
  | seq p q ihp ihq =>
      intro m k h
      rw [run] at h
      obtain ⟨m₁, h₁, hlen₁⟩ := ihp h
      obtain ⟨m₂, h₂, hlen₂⟩ := ihq h₁
      exact ⟨m₂, h₂, by rw [minLength]; omega⟩
  | either p q ihp ihq =>
      intro m k h
      rw [run_either, Option.or_eq_some_iff] at h
      rcases h with h | ⟨-, h⟩
      · obtain ⟨m', hm', hlen⟩ := ihp h
        exact ⟨m', hm', by rw [minLength]; omega⟩
      · obtain ⟨m', hm', hlen⟩ := ihq h
        exact ⟨m', hm', by rw [minLength]; omega⟩
  | star p ih =>
      intro m k h
      -- every round but the last leaves a shorter text
      induction hn : m.rest.length using Nat.strongRecOn generalizing m with
      | ind n ihn =>
          rw [run_star, Option.or_eq_some_iff] at h
          rcases h with h | ⟨-, h⟩
          · obtain ⟨m₁, h₁, -⟩ := ih h
            split at h₁
            · next hlt =>
              obtain ⟨m₂, h₂, hlen⟩ := ihn _ (hn ▸ hlt) h₁ rfl
              exact ⟨m₂, h₂, by omega⟩
            · cases h₁
          · exact ⟨m, h, by rw [minLength]; omega⟩
  | group i p ih =>
      intro m k h
      rw [run_group] at h
      obtain ⟨m', hm', hlen⟩ := ih h
      exact ⟨_, hm', hlen⟩

/-- A match leaves a text that is shorter by at least the least length of the pattern. -/
lemma length_add_minLength_le_of_match? {p : Pattern} {cs : List Char} {m : Match}
    (h : p.match? cs = some m) : m.rest.length + p.minLength ≤ cs.length := by
  obtain ⟨m', hm', hlen⟩ := exists_of_run p h
  cases hm'
  exact hlen

/-! ## The search through a text -/

/-- After a match the search goes on where it ends. -/
lemma scan_of_match? {p : Pattern} {cs : List Char} {m : Match} (h : p.match? cs = some m)
    (hlen : m.rest.length < cs.length) : p.scan cs = m :: p.scan m.rest := by
  rw [scan.eq_def, h]
  exact if_pos hlen

/-- Where nothing matches, the search goes on one character further. -/
lemma scan_cons_of_match? {p : Pattern} {c : Char} {cs : List Char}
    (h : p.match? (c :: cs) = none) : p.scan (c :: cs) = p.scan cs := by
  rw [scan.eq_def, h]

lemma scan_nil_of_match? {p : Pattern} (h : p.match? [] = none) : p.scan [] = [] := by
  rw [scan.eq_def, h]

end Pattern

end Signpost
