import Signpost.Text.Digits

/-!
# Readers

A reader takes a value from the head of a text, and leaves the rest for the next reader, or it
fails.  `p <|> q` tries `q` on the same text where `p` fails.  The readers below are the small ones
that all parts of a TOML document share: single characters, blanks, line ends, comments and
repetition.

A repetition gets a bound on the number of its rounds, so it ends whatever is repeated.  The bound
is the length of the text, and every reader that is repeated takes at least one character, so the
bound is never felt.
-/

namespace Signpost.Toml

/-- Takes a value from the head of a text. -/
abbrev Reader := StateT (List Char) Option

namespace Reader

/-! ## Characters -/

/-- The next character, which stays where it is. -/
def peek : Reader (Option Char) :=
  fun cs => some (cs.head?, cs)

/-- One character of a class. -/
def satisfy (accepts : Char → Bool) : Reader Char
  | [] => none
  | c :: cs => if accepts c then some (c, cs) else none

/-- The given character. -/
def char (c : Char) : Reader Unit := do
  let _ ← satisfy (· = c)

/-- The given text. -/
def exactly (word : String) : Reader Unit :=
  word.toList.forM char

/-- All characters of a class that come next. -/
def run (accepts : Char → Bool) : Reader (List Char) :=
  fun cs => some (cs.takeWhile accepts, cs.dropWhile accepts)

/-- All characters of a class that come next, at least one. -/
def run1 (accepts : Char → Bool) : Reader (List Char) := do
  let first ← satisfy accepts
  return first :: (← run accepts)

/-- So many characters of a class. -/
def times (count : Nat) (accepts : Char → Bool) : Reader (List Char) :=
  (List.range count).mapM fun _ => satisfy accepts

/-- Nothing, at the end of the text. -/
def atEnd : Reader Unit
  | [] => some ((), [])
  | _ :: _ => none

/-! ## Repetition -/

/-- Repeats a reader until it fails, at most so many times. -/
def repeatUpTo {α : Type} (p : Reader α) : Nat → Reader (List α)
  | 0 => pure []
  | bound + 1 => fun cs =>
    match p cs with
    | none => some ([], cs)
    | some (a, rest) => (repeatUpTo p bound rest).map fun (as, rest) => (a :: as, rest)

/-- Repeats a reader until it fails.  The reader must take at least one character. -/
def many {α : Type} (p : Reader α) : Reader (List α) :=
  fun cs => repeatUpTo p cs.length cs

/-- One or more values with a divider between them. -/
def separated1 {α : Type} (p : Reader α) (divider : Reader Unit) : Reader (List α) := do
  let first ← p
  return first :: (← many (do divider; p))

/-! ## Blanks, line ends, comments -/

/-- A space or a tab. -/
def isSpace (c : Char) : Bool :=
  c = ' ' || c = '\t'

/-- A character that a comment or a literal text may hold: no control character but the tab. -/
def isPlain (c : Char) : Bool :=
  c = '\t' || (0x20 ≤ c.toNat && c.toNat ≠ 0x7F)

/-- Spaces and tabs, or nothing. -/
def spaces : Reader Unit := do
  let _ ← run isSpace

/-- A line feed, which may have a carriage return before it. -/
def newline : Reader Unit :=
  char '\n' <|> exactly "\r\n"

/-- A comment up to the end of its line. -/
def comment : Reader Unit := do
  char '#'
  let _ ← run isPlain

/-- The end of a line: spaces, a comment, and a line end or the end of the text. -/
def lineEnd : Reader Unit := do
  spaces
  let _ ← optional comment
  newline <|> atEnd

/-- Spaces, comments and line ends between the items of an array. -/
def layout : Reader Unit := do
  let _ ← many ((do let _ ← run1 isSpace) <|> newline <|> (do comment; newline))

end Reader

end Signpost.Toml
