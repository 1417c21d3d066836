/-!
# Request targets

What a request asks for: a path with an optional query, a full address, an authority alone, or a
star.  Only the path matters to the service; the other parts just have to be well formed.

* A target that begins with a slash is a path and a query.
* A target with a scheme and `://` has an authority, which is not empty, and possibly a path and a
  query; an empty path then means `/`.
* Any other target is an authority and has no path.

A fragment is cut off.
-/

namespace Signpost.Http.Target

/-- A character that a path may hold.  Beyond ASCII all are good. -/
def isPathChar (c : Char) : Bool :=
  let n := c.toNat
  n = 0x21 || n = 0x22 || (0x24 ≤ n && n ≤ 0x3B) || n = 0x3D || (0x40 ≤ n && n ≤ 0x5F)
    || (0x61 ≤ n && n ≤ 0x7E) || 0x80 ≤ n

/-- A character that a query may hold.  Beyond ASCII all are good. -/
def isQueryChar (c : Char) : Bool :=
  let n := c.toNat
  n = 0x21 || (0x24 ≤ n && n ≤ 0x3B) || n = 0x3D || (0x3F ≤ n && n ≤ 0x7E) || 0x80 ≤ n

/-- The path of a text that is a path, a query and a fragment, each but the first optional. -/
def pathOf? (cs : List Char) : Option String :=
  let text := cs.takeWhile (· ≠ '#')
  let path := text.takeWhile (· ≠ '?')
  let query := (text.dropWhile (· ≠ '?')).drop 1
  if path.all isPathChar && query.all isQueryChar
  then some (if path = [] then "/" else String.ofList path) else none

/-- A character that an authority may hold, the percent sign aside. -/
def isAuthorityChar (c : Char) : Bool :=
  c.isAlphanum || "!$&'()*+,-.:;=@[]_~".toList.contains c

/-- What has been seen of an authority. -/
structure Authority where
  /-- Colons after the user and outside brackets. -/
  colons : Nat := 0
  /-- Whether a bracket has been opened. -/
  opened : Bool := false
  /-- Whether a bracket has been closed. -/
  closed : Bool := false
  /-- Whether there is a percent sign after the user and outside brackets. -/
  hasPercent : Bool := false
  /-- Whether the latest character is an at sign. -/
  endsInAt : Bool := false

/-- One more character of an authority. -/
def Authority.step? (a : Authority) (c : Char) : Option Authority :=
  let a := { a with endsInAt := false }
  match c with
  | ':' => if a.colons < 8 then some { a with colons := a.colons + 1 } else none
  | '[' => if a.hasPercent || a.opened then none else some { a with opened := true }
  | ']' =>
    if !a.opened || a.closed then none
    else some { a with closed := true, colons := 0, hasPercent := false }
  | '@' => some { a with endsInAt := true, colons := 0, hasPercent := false }
  | '%' => some { a with hasPercent := true }
  | c => if isAuthorityChar c then some a else none

/-- Whether a text is an authority; it may be empty. -/
def isAuthority (cs : List Char) : Bool :=
  match cs.foldlM Authority.step? {} with
  | some a => a.opened = a.closed && a.colons ≤ 1 && !a.endsInAt && !a.hasPercent
  | none => false

/-- The path after a scheme: an authority that is not empty comes first. -/
def pathAfterScheme? (cs : List Char) : Option String :=
  let isEnd (c : Char) : Bool := c = '/' || c = '?' || c = '#'
  let authority := cs.takeWhile fun c => !isEnd c
  if authority ≠ [] && isAuthority authority then pathOf? (cs.dropWhile fun c => !isEnd c)
  else none

/-- A character of a scheme. -/
def isSchemeChar (c : Char) : Bool :=
  c.isAlphanum || c = '+' || c = '-' || c = '.' || c = '~'

/-- The scheme of a text and what follows its `://`. -/
def scheme? (cs : List Char) : Option (List Char × List Char) :=
  match cs.dropWhile isSchemeChar with
  | ':' :: '/' :: '/' :: rest => some (cs.takeWhile isSchemeChar, rest)
  | _ => none

/-- The longest scheme. -/
def maxScheme : Nat := 64

/-- The longest target, in bytes. -/
def maxTarget : Nat := 65534

/-- The path of a target, empty if it has none; nothing for a text that is no target. -/
def path? (target : String) : Option String :=
  if maxTarget < target.utf8ByteSize then none
  else
    match target.toList with
    | [] => none
    | ['*'] => some "*"
    | '/' :: cs => pathOf? ('/' :: cs)
    | cs =>
      match scheme? cs with
      | some (scheme, rest) =>
        if scheme.length ≤ maxScheme then pathAfterScheme? rest else none
      | none => if isAuthority cs then some "" else none

end Signpost.Http.Target
