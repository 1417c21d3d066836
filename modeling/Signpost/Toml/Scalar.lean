import Signpost.Toml.Text
import Signpost.Toml.Value

/-!
# Scalar values

Numbers, dates and times, and the two truth values.

* Integers have 64 bits with a sign.  Decimal ones may have a sign but no leading zeros;
  hexadecimal, octal and binary ones have neither a sign nor that limit.
* A single underscore may stand between two digits.
* A float has a fraction, an exponent or both, and must not be so great that it rounds to infinity;
  `inf` and `nan` are floats too.
* Dates must exist.  A time without a date has no offset, and seconds are always written.
-/

namespace Signpost.Toml.Reader

open Signpost.Text

/-! ## Numbers -/

/-- Digits with single underscores between them, and the text after them.  The underscores are left
out; the first character may be an underscore, since digits come before it. -/
def underscored (isDigit : Char → Bool) : List Char → List Char × List Char
  | '_' :: d :: rest =>
    if isDigit d then
      let (ds, rest) := underscored isDigit rest
      (d :: ds, rest)
    else ([], '_' :: d :: rest)
  | c :: rest =>
    if isDigit c then
      let (ds, rest) := underscored isDigit rest
      (c :: ds, rest)
    else ([], c :: rest)
  | [] => ([], [])

/-- One or more digits, which may have single underscores between them. -/
def digitRun (isDigit : Char → Bool) : Reader (List Char) := do
  let first ← satisfy isDigit
  let more ← fun cs => some (underscored isDigit cs)
  return first :: more

/-- A plus or minus sign, or none. -/
def sign : Reader (List Char) := do
  return (← optional (satisfy fun c => c = '+' || c = '-')).toList

/-- The digits of a decimal integer: a lone zero, or digits of which the first is not zero. -/
def decimalDigits : Reader (List Char) := do
  match ← peek with
  | some '0' =>
    char '0'
    return ['0']
  | _ => digitRun Char.isDigit

/-- An integer within 64 bits. -/
def integerWithin (value : Int) : Reader Value :=
  if -0x8000000000000000 ≤ value ∧ value < 0x8000000000000000 then return .integer value else failure

/-- An integer of a base that is not ten, after its mark. -/
def basedInteger (mark : String) (base : Nat) : Reader Value := do
  exactly mark
  integerWithin (numeral base (← digitRun (isDigitOf base)))

/-- A decimal integer. -/
def decimalInteger : Reader Value := do
  let sign ← sign
  let magnitude : Int := numeral 10 (← decimalDigits)
  integerWithin (if sign = ['-'] then -magnitude else magnitude)

/-- An integer of any base. -/
def integer : Reader Value :=
  basedInteger "0x" 16 <|> basedInteger "0o" 8 <|> basedInteger "0b" 2 <|> decimalInteger

/-- Whether `m * 10 ^ e` rounds to infinity as a double: it is at least half a unit above the
greatest finite one.  Numbers with far too many or too few places are told by the count alone. -/
def roundsToInfinity (m : Nat) (e : Int) : Bool :=
  let limit := (1 <<< 54 - 1) <<< 970
  let places : Int := (Nat.toDigits 10 m).length + e
  if m = 0 ∨ places < 300 then false
  else if 320 < places then true
  else limit * Nat.pow 10 (-e).toNat ≤ m * Nat.pow 10 e.toNat

/-- The exponent of a float: its sign and digits. -/
def exponent : Reader (List Char × List Char) := do
  let _ ← satisfy fun c => c = 'e' || c = 'E'
  return (← sign, ← digitRun Char.isDigit)

/-- The digits of a float after its point. -/
def fraction : Reader (List Char) := do
  char '.'
  digitRun Char.isDigit

/-- A float with a fraction, an exponent or both. -/
def decimalFloat : Reader Value := do
  let sign ← sign
  let whole ← decimalDigits
  let decimals ← optional fraction
  let power ← optional exponent
  if decimals.isNone ∧ power.isNone then failure
  let fractionDigits := decimals.getD []
  let (powerSign, powerDigits) := power.getD ([], [])
  let magnitude : Int := numeral 10 powerDigits
  let shift := (if powerSign = ['-'] then -magnitude else magnitude) - fractionDigits.length
  if sign ≠ ['-'] ∧ roundsToInfinity (numeral 10 (whole ++ fractionDigits)) shift then failure
  return .float (String.ofList (sign ++ whole ++ ['.'] ++ fractionDigits ++ ['e'] ++ powerSign
    ++ powerDigits))

/-- An infinity or a value that is no number. -/
def specialFloat : Reader Value := do
  let sign ← sign
  let word ← (do exactly "inf"; return "inf") <|> (do exactly "nan"; return "nan")
  return .float (String.ofList sign ++ word)

/-- A float. -/
def float : Reader Value :=
  decimalFloat <|> specialFloat

/-! ## Dates and times -/

/-- A decimal number with so many digits, within bounds. -/
def field (width low high : Nat) : Reader Nat := do
  let n := numeral 10 (← times width Char.isDigit)
  if low ≤ n ∧ n ≤ high then return n else failure

/-- The number of days of a month. -/
def daysOfMonth (year month : Nat) : Nat :=
  if month = 2 then
    if year % 4 = 0 ∧ (year % 100 ≠ 0 ∨ year % 400 = 0) then 29 else 28
  else if [4, 6, 9, 11].contains month then 30
  else 31

/-- A date. -/
def date : Reader String := do
  let year ← field 4 0 9999
  char '-'
  let month ← field 2 1 12
  char '-'
  let day ← field 2 1 (daysOfMonth year month)
  return digits 10 4 year ++ "-" ++ digits 10 2 month ++ "-" ++ digits 10 2 day

/-- A fraction of a second; nine places count, and zeros at their end are not written. -/
def secondFraction : Reader String := do
  char '.'
  let places := ((← run1 Char.isDigit).take 9).reverse.dropWhile (· = '0')
  return if places = [] then "" else String.ofList ('.' :: places.reverse)

/-- A time of day. -/
def timeOfDay : Reader String := do
  let hour ← field 2 0 23
  char ':'
  let minute ← field 2 0 59
  char ':'
  let second ← field 2 0 60
  let fraction ← optional secondFraction
  return digits 10 2 hour ++ ":" ++ digits 10 2 minute ++ ":" ++ digits 10 2 second
    ++ fraction.getD ""

/-- The offset of a time from universal time. -/
def offset : Reader String :=
  (do let _ ← satisfy fun c => c = 'Z' || c = 'z'; return "Z")
    <|> do
      let sign ← satisfy fun c => c = '+' || c = '-'
      let hour ← field 2 0 23
      char ':'
      let minute ← field 2 0 59
      let sign := if hour = 0 ∧ minute = 0 then '+' else sign
      return sign.toString ++ digits 10 2 hour ++ ":" ++ digits 10 2 minute

/-- The time after a date, with its offset. -/
def timeAfterDate : Reader String := do
  let _ ← satisfy fun c => c = 'T' || c = 't' || c = ' '
  let time ← timeOfDay
  let offset ← optional offset
  return "T" ++ time ++ offset.getD ""

/-- A date, a time, or both. -/
def datetime : Reader Value := do
  let text ←
    (do
      let date ← date
      let time ← optional timeAfterDate
      return date ++ time.getD "")
    <|> timeOfDay
  return .datetime text

/-! ## All scalars -/

/-- A truth value. -/
def boolean : Reader Value :=
  (do exactly "true"; return .boolean true) <|> (do exactly "false"; return .boolean false)

/-- A value that holds no other values. -/
def scalar : Reader Value :=
  (do return .string (← anyString)) <|> datetime <|> float <|> integer <|> boolean

end Signpost.Toml.Reader
