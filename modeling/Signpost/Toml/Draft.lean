import Signpost.Toml.Value

/-!
# Tables under construction

A TOML table may be written in several places, and the rules on which places may add to it depend on
how it came into being.  A draft keeps track of that.

* An **opened** table is written out: the document itself, a table with a header of its own, a table
  in braces, or an element of an array of tables.  Dotted keys elsewhere cannot add to it.
* An **implied** table exists only because it lies on the way to a header.  It may be opened later.
* A **dotted** table exists because dotted keys assign into it.  More dotted keys may add to it, and
  headers may add tables below it, but it cannot be opened.

`Draft.edit` changes the table at the end of a path and makes the tables that are missing on the
way; a path through an array of tables means the latest element.  The other operations are edits
with a rule for the last step.
-/

namespace Signpost.Toml

/-- How a table under construction came into being. -/
inductive Origin where
  | opened
  | implied
  | dotted
  deriving DecidableEq, Repr

/-- Part of a document under construction. -/
inductive Draft where
  /-- A finished value. -/
  | value (v : Value)
  /-- A table that may still grow. -/
  | table (origin : Origin) (entries : List (String × Draft))
  /-- An array of tables that may still grow. -/
  | series (elements : List (List (String × Draft)))

namespace Draft

/-- The entries of a table under construction. -/
abbrev Entries := List (String × Draft)

/-- Puts a draft in the place of the one that the key has. -/
def replace (key : String) (d : Draft) (entries : Entries) : Entries :=
  entries.map fun e => if e.1 = key then (key, d) else e

/-- Adds a draft under a key that must be new. -/
def addNew? (key : String) (d : Draft) (entries : Entries) : Option Entries :=
  if (entries.lookup key).isSome then none else some (entries ++ [(key, d)])

/-- Changes the table at the end of a path.  `byDots` tells a path of dotted keys, which cannot go
through an opened table, from the path of a header. -/
def edit (byDots : Bool) (change : Origin → Entries → Option Entries) :
    List String → Origin → Entries → Option Entries
  | [], origin, entries => change origin entries
  | key :: path, _, entries =>
    match entries.lookup key with
    | none => do
      let origin := if byDots then .dotted else .implied
      let inner ← edit byDots change path origin []
      return entries ++ [(key, .table origin inner)]
    | some (.value _) => none
    | some (.table origin inner) => do
      if byDots ∧ origin = .opened then none
      let inner ← edit byDots change path origin inner
      return replace key (.table origin inner) entries
    | some (.series elements) => do
      let inner ← edit byDots change path .opened (← elements.getLast?)
      return replace key (.series (elements.dropLast ++ [inner])) entries

/-- Assigns a value to a key with dots before its last part.  The table that gets the value must be
dotted itself, and the last part must be new there. -/
def assign? (path : List String) (key : String) (v : Value) (entries : Entries) :
    Option Entries :=
  edit true (fun origin inner =>
    if path ≠ [] ∧ origin ≠ .dotted then none
    else addNew? key (.value v) inner) path .opened entries

/-- Makes all assignments of a table. -/
def assignAll? (assignments : List (List String × String × Value)) (entries : Entries) :
    Option Entries :=
  assignments.foldlM (fun entries (path, key, v) => assign? path key v entries) entries

/-- Opens the table of a header and makes its assignments.  The table must be new or implied. -/
def openTable? (path : List String) (key : String)
    (assignments : List (List String × String × Value)) (entries : Entries) : Option Entries :=
  edit false (fun _ inner =>
    match inner.lookup key with
    | none => do return inner ++ [(key, .table .opened (← assignAll? assignments []))]
    | some (.table .implied children) => do
      return replace key (.table .opened (← assignAll? assignments children)) inner
    | some _ => none) path .opened entries

/-- Adds an element to the array of tables of a header, which must be new or such an array, and
makes the assignments of the element. -/
def addElement? (path : List String) (key : String)
    (assignments : List (List String × String × Value)) (entries : Entries) : Option Entries :=
  edit false (fun _ inner =>
    match inner.lookup key with
    | none => do return inner ++ [(key, .series [← assignAll? assignments []])]
    | some (.series elements) => do
      return replace key (.series (elements ++ [← assignAll? assignments []])) inner
    | some _ => none) path .opened entries

mutual

/-- The value that a finished draft stands for. -/
def toValue : Draft → Value
  | .value v => v
  | .table _ entries => .table (entriesToValues entries)
  | .series elements => .array (elementsToValues elements)

/-- The values of the entries of a finished table. -/
def entriesToValues : List (String × Draft) → List (String × Value)
  | [] => []
  | (key, d) :: rest => (key, d.toValue) :: entriesToValues rest

/-- The values of the elements of a finished array of tables. -/
def elementsToValues : List (List (String × Draft)) → List Value
  | [] => []
  | entries :: rest => .table (entriesToValues entries) :: elementsToValues rest

end

end Draft

end Signpost.Toml
