import Signpost.Toml.Draft
import Signpost.Toml.Scalar

/-!
# TOML documents

A document is a list of blocks.  Each but the first begins with a header, which names a table or
asks for a new element of an array of tables; the lines below it assign values to keys.
`Document.blocks` reads that list, and `Document.build?` puts the tables together.

* Arrays may run over several lines, and a comma may follow their last item.
* Tables in braces stay on one line, and no comma may follow their last entry.
* Arrays and tables in braces may be nested to a depth of `Reader.maxDepth`.
-/

namespace Signpost.Toml

namespace Reader

/-- Splits a key into the path to a table and the key in that table. -/
def splitKey : List String → Option (List String × String)
  | [] => none
  | [key] => some ([], key)
  | part :: rest => (splitKey rest).map fun (path, key) => (part :: path, key)

/-- The path to a table and the key in that table. -/
def pathAndKey : Reader (List String × String) := do
  match splitKey (← key) with
  | some split => return split
  | none => failure

/-- How deep values may be nested. -/
def maxDepth : Nat := 79

/-- An assignment whose value is read by the given reader. -/
def assignment (value : Reader Value) : Reader (List String × String × Value) := do
  let (path, key) ← pathAndKey
  char '='
  spaces
  return (path, key, ← value)

/-- An array of items that are read by the given reader. -/
def array (item : Reader Value) : Reader Value := do
  char '['
  let items ← optional (separated1 (do layout; let v ← item; layout; return v) (char ','))
  if items.isSome then
    let _ ← optional (char ',')
  layout
  char ']'
  return .array (items.getD [])

/-- A table in braces whose values are read by the given reader. -/
def bracedTable (item : Reader Value) : Reader Value := do
  char '\x7b'
  let entries ← optional
    (separated1 (do let entry ← assignment item; spaces; return entry) (char ','))
  spaces
  char '\x7d'
  match Draft.assignAll? (entries.getD []) [] with
  | some entries => return .table (Draft.entriesToValues entries)
  | none => failure

/-- A value with so many levels of nesting at most. -/
def value : (depth : Nat) → Reader Value
  | 0 => scalar
  | depth + 1 => scalar <|> array (value depth) <|> bracedTable (value depth)

end Reader

/-- What a block of a document adds to. -/
inductive Heading where
  /-- The document itself. -/
  | document
  /-- The table with the given path and key. -/
  | table (path : List String) (key : String)
  /-- A new element of the array of tables with the given path and key. -/
  | element (path : List String) (key : String)

/-- A header with the assignments below it. -/
structure Block where
  /-- What the block adds to. -/
  heading : Heading
  /-- The assignments, each with the path and key it assigns to. -/
  assignments : List (List String × String × Value)

namespace Document

open Reader

/-- Lines that say nothing: spaces, a comment, a line end. -/
def emptyLines : Reader Unit := do
  let _ ← many (do let _ ← optional comment; newline; spaces)

/-- A header line. -/
def heading : Reader Heading :=
  (do
    exactly "[["
    let (path, key) ← pathAndKey
    exactly "]]"
    lineEnd
    return .element path key)
  <|> do
    char '['
    let (path, key) ← pathAndKey
    char ']'
    lineEnd
    return .table path key

/-- The assignments of a block with the empty lines after them. -/
def assignments : Reader (List (List String × String × Value)) := do
  skip
  many do
    let entry ← assignment (value maxDepth)
    lineEnd
    skip
    return entry
where
  /-- Spaces, comments and empty lines. -/
  skip : Reader Unit := do
    spaces
    emptyLines
    let _ ← optional do
      comment
      atEnd

/-- All blocks of a document, which may begin with a byte order mark. -/
def blocks : Reader (List Block) := do
  let _ ← optional (char '\uFEFF')
  let top ← assignments
  let rest ← many do
    let heading ← heading
    return ⟨heading, ← assignments⟩
  atEnd
  return ⟨.document, top⟩ :: rest

/-- Adds a block to the tables built so far. -/
def addBlock? (entries : Draft.Entries) (block : Block) : Option Draft.Entries :=
  match block.heading with
  | .document => Draft.assignAll? block.assignments entries
  | .table path key => Draft.openTable? path key block.assignments entries
  | .element path key => Draft.addElement? path key block.assignments entries

/-- The tables that a list of blocks builds. -/
def build? (blocks : List Block) : Option (List (String × Value)) :=
  (blocks.foldlM addBlock? []).map Draft.entriesToValues

/-- The table that a text writes; nothing if the text is no TOML document. -/
def ofString? (text : String) : Option (List (String × Value)) := do
  let (blocks, _) ← Document.blocks text.toList
  build? blocks

end Document

end Signpost.Toml
