import Signpost.Text.Utf8

/-!
# Header fields

A header field has a name and a value.  Names are compared without regard to case, so they are kept
in lower case; a value is a list of bytes.  A message holds its fields in a list, in which a name
may occur several times.

* `Field.make?` builds a field from a name and a value as they were sent, and refuses names that are
  no tokens and values with control bytes.
* `Fields.values` are the values of one name in order, `Fields.first?` is the first of them.
-/

namespace Signpost.Http

open Signpost.Text

/-- A byte that a field value may hold: no control byte but the tab. -/
def isFieldByte (b : UInt8) : Bool :=
  (0x20 ≤ b && b ≠ 0x7F) || b = 9

/-- Whether the bytes of a text can stand in a field value. -/
def isFieldText (s : String) : Bool :=
  (Utf8.encode s.toList).all isFieldByte

/-- A character of a token: an ASCII letter, a digit or one of fifteen signs. -/
def isTokenChar (c : Char) : Bool :=
  c.isAlphanum || "!#$%&'*+-.^_\x60|~".toList.contains c

/-- Whether a text is a token: token characters, at least one. -/
def isToken (s : String) : Bool :=
  !s.toList.isEmpty && s.toList.all isTokenChar

/-- A header field. -/
structure Field where
  /-- The name in lower case. -/
  name : String
  /-- The value. -/
  value : List UInt8
  deriving DecidableEq, Repr

/-- Why a field cannot be sent. -/
inductive FieldError where
  | badName
  | badValue
  deriving DecidableEq, Repr

/-- A field with a text as its value. -/
def Field.ofText (name value : String) : Field :=
  ⟨name, Utf8.encode value.toList⟩

/-- The field of a name and a value as they are sent; the name is judged first. -/
def Field.make? (name : String) (value : List UInt8) : Except FieldError Field :=
  if !isToken name then .error .badName
  else if !value.all isFieldByte then .error .badValue
  else .ok ⟨String.ofList (name.toList.map Char.toLower), value⟩

namespace Fields

/-- The values of a name, in order. -/
def values (name : String) (fields : List Field) : List (List UInt8) :=
  (fields.filter (·.name = name)).map (·.value)

/-- The first value of a name. -/
def first? (name : String) (fields : List Field) : Option (List UInt8) :=
  (values name fields).head?

/-- Whether there is a field of the name. -/
def has (name : String) (fields : List Field) : Bool :=
  fields.any (·.name = name)

/-- The fields with one more, unless the name is already there. -/
def addIfAbsent (field : Field) (fields : List Field) : List Field :=
  if has field.name fields then fields else fields ++ [field]

/-- The fields with one in place of all those of its name. -/
def replace (field : Field) (fields : List Field) : List Field :=
  fields.filter (·.name ≠ field.name) ++ [field]

end Fields

end Signpost.Http
