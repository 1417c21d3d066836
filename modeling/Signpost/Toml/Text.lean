import Signpost.Toml.Reader

/-!
# Keys and strings

The four ways to write a string, and the parts of a key.

* A **basic** string stands between quotation marks and may hold escapes.
* A **literal** string stands between apostrophes and holds no escapes.
* Both have a form with three marks, which may run over several lines.  A line end right after the
  opening marks is left out, a line end is read as a line feed, and up to two marks may stand right
  before the closing ones.  In the basic form a backslash at the end of a line takes away all white
  space up to the next character.
-/

namespace Signpost.Toml.Reader

open Signpost.Text

/-! ## Escapes -/

/-- The character whose code point is written with so many hexadecimal digits. -/
def codePoint (width : Nat) : Reader Char := do
  let n := numeral 16 (← times width (isDigitOf 16))
  if n.isValidChar then return Char.ofNat n else failure

/-- The character that an escape after its backslash stands for. -/
def escape : Reader Char := do
  match ← satisfy fun _ => true with
  | 'b' => return '\x08'
  | 'f' => return '\x0C'
  | 'n' => return '\n'
  | 'r' => return '\r'
  | 't' => return '\t'
  | '"' => return '"'
  | '\\' => return '\\'
  | 'u' => codePoint 4
  | 'U' => codePoint 8
  | _ => failure

/-! ## Strings on one line -/

/-- One character of a basic string. -/
def basicChar : Reader Char :=
  satisfy (fun c => isPlain c && c ≠ '"' && c ≠ '\\') <|> (do char '\\'; escape)

/-- A basic string. -/
def basicString : Reader String := do
  char '"'
  let cs ← many basicChar
  char '"'
  return String.ofList cs

/-- A literal string. -/
def literalString : Reader String := do
  char '\''
  let cs ← run fun c => isPlain c && c ≠ '\''
  char '\''
  return String.ofList cs

/-! ## Strings on several lines -/

/-- A backslash at the end of a line, with all white space up to the next character. -/
def joinedLines : Reader (List Char) := do
  char '\\'
  spaces
  newline
  let _ ← many ((do let _ ← satisfy isSpace) <|> newline)
  return []

/-- A piece of a string on several lines, quotation marks aside; `escapes` are the pieces that begin
with a backslash. -/
def linePiece (mark : Char) (escapes : Reader (List Char)) : Reader (List Char) :=
  (do return [← satisfy fun c => isPlain c && c ≠ mark && c ≠ '\\'])
    <|> (do newline; return ['\n'])
    <|> escapes

/-- One or two marks that do not belong to the closing ones. -/
def innerMarks (mark : Char) : Reader (List Char) := do
  let marks ← run (· = mark)
  if marks ≠ [] ∧ marks.length ≤ 2 then return marks else failure

/-- The three closing marks, after up to two marks that belong to the string. -/
def closingMarks (mark : Char) : Reader (List Char) := do
  let marks ← run (· = mark)
  if 3 ≤ marks.length ∧ marks.length ≤ 5 then return marks.drop 3 else failure

/-- A string between triple marks. -/
def tripleString (mark : Char) (escapes : Reader (List Char)) : Reader String := do
  let _ ← times 3 (· = mark)
  let _ ← optional newline
  let pieces ← many (linePiece mark escapes <|> innerMarks mark)
  let last ← closingMarks mark
  return String.ofList (pieces.flatten ++ last)

/-- A basic string on several lines. -/
def basicLines : Reader String :=
  tripleString '"' (joinedLines <|> (do char '\\'; return [← escape]))

/-- A literal string on several lines. -/
def literalLines : Reader String :=
  tripleString '\'' (do char '\\'; return ['\\'])

/-- A string in any of its forms. -/
def anyString : Reader String :=
  basicLines <|> literalLines <|> basicString <|> literalString

/-! ## Keys -/

/-- One part of a key: bare, or a string on one line. -/
def keyPart : Reader String := do
  match ← peek with
  | some '"' => basicString
  | some '\'' => literalString
  | _ => return String.ofList (← run1 fun c => c.isAlphanum || c = '_' || c = '-')

/-- The parts of a key that a document may have at most. -/
def maxKeyParts : Nat := 79

/-- A key: one or more parts divided by dots, with spaces around each. -/
def key : Reader (List String) := do
  let parts ← separated1 (do spaces; let part ← keyPart; spaces; return part) (char '.')
  if parts.length ≤ maxKeyParts then return parts else failure

end Signpost.Toml.Reader
