/-!
# TOML values

What a TOML document says once it has been read.  The document as a whole is a table.

* A float keeps its spelling, and a date or time is kept in its normal written form: nothing here
  computes with either.
* An array of tables that is written with headers is an array like any other.
-/

namespace Signpost.Toml

/-- A TOML value. -/
inductive Value where
  | string (text : String)
  | integer (value : Int)
  | float (spelling : String)
  | boolean (value : Bool)
  | datetime (text : String)
  | array (items : List Value)
  | table (entries : List (String × Value))

end Signpost.Toml
