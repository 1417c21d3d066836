import Signpost.Text.Digits
import Signpost.Text.Shapeless

/-!
# Quoted text

Three ways to put a text between quotation marks.

* `quote` leaves the text as it is; messages for people use it.
* `quoteEscaped` escapes what a log line should not hold: quotation marks, backslashes and
  characters without a shape of their own.
* `quoteJson` escapes what a JSON string cannot hold.
-/

namespace Signpost.Text

/-- A text between quotation marks. -/
def quote (s : String) : String :=
  "\"" ++ s ++ "\""

/-- A character inside an escaped text. -/
def escapedChar (c : Char) : String :=
  match c with
  | '"' => "\\\""
  | '\\' => "\\\\"
  | '\n' => "\\n"
  | '\r' => "\\r"
  | '\t' => "\\t"
  | '\x00' => "\\0"
  | c => if isShapeless c then "\\u\x7b" ++ digits 16 1 c.toNat ++ "\x7d" else c.toString

/-- A text between quotation marks, with everything escaped that a log line should not hold. -/
def quoteEscaped (s : String) : String :=
  quote (String.join (s.toList.map escapedChar))

/-- Quoted texts in brackets, divided by commas. -/
def listEscaped (texts : List String) : String :=
  "[" ++ ", ".intercalate (texts.map quoteEscaped) ++ "]"

/-- A character inside a JSON string. -/
def jsonChar (c : Char) : String :=
  match c with
  | '"' => "\\\""
  | '\\' => "\\\\"
  | '\n' => "\\n"
  | '\r' => "\\r"
  | '\t' => "\\t"
  | '\x08' => "\\b"
  | '\x0C' => "\\f"
  | c => if c.toNat < 0x20 then "\\u" ++ digits 16 4 c.toNat else c.toString

/-- A text as a JSON string. -/
def quoteJson (s : String) : String :=
  quote (String.join (s.toList.map jsonChar))

end Signpost.Text
