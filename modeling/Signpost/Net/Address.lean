import Signpost.Text.Digits

/-!
# Network addresses

The written forms of IP and socket addresses.

* An IPv4 address is four numbers up to 255, with no leading zeros, divided by dots.
* An IPv6 address is eight groups of one to four hexadecimal digits, divided by colons.  Once, two
  colons may stand for one or more groups of zeros, and the last two groups may be written as an
  IPv4 address.
* A socket address is an IPv4 address, or an IPv6 address in brackets, followed by a colon and a
  port.  Inside the brackets a `%` and a number may follow, the scope of the address.

A reader takes as much as it can from the head of a text and returns what is left of it.
`SocketAddress.ofString?` wants nothing to be left; `SocketAddress.render` writes an address the
way it is reported.
-/

namespace Signpost.Net

open Signpost.Text

/-! ## Reading -/

/-- The text after the given character, which has to come first. -/
def afterChar? (c : Char) : List Char → Option (List Char)
  | [] => none
  | d :: cs => if d = c then some cs else none

/-- A number of the base with at most `width` digits. -/
def number? (base width : Nat) (cs : List Char) : Option (Nat × List Char) :=
  let ds := cs.takeWhile (isDigitOf base)
  if ds = [] ∨ width < ds.length then none
  else some (numeral base ds, cs.dropWhile (isDigitOf base))

/-- A decimal number up to `limit` with any number of digits. -/
def bounded? (limit : Nat) (cs : List Char) : Option (Nat × List Char) := do
  let (n, rest) ← number? 10 cs.length cs
  if n ≤ limit then some (n, rest) else none

/-- A number up to 255 without leading zeros. -/
def octet? (cs : List Char) : Option (Nat × List Char) := do
  let (n, rest) ← number? 10 3 cs
  if n ≤ 255 ∧ ¬(cs.head? = some '0' ∧ rest.length + 1 < cs.length) then some (n, rest) else none

/-- Four octets divided by dots, as one number below `2 ^ 32`. -/
def ipv4? (cs : List Char) : Option (Nat × List Char) := do
  let (a, cs) ← octet? cs
  let (b, cs) ← octet? (← afterChar? '.' cs)
  let (c, cs) ← octet? (← afterChar? '.' cs)
  let (d, cs) ← octet? (← afterChar? '.' cs)
  some (((a * 256 + b) * 256 + c) * 256 + d, cs)

/-- The groups at the head of a text, up to `room` of them: the groups, whether the last two were
written as an IPv4 address, and the text that is left.  Each group but the first has a colon
before it. -/
def groups : (room : Nat) → (isFirst : Bool) → List Char → List Nat × Bool × List Char
  | 0, _, cs => ([], false, cs)
  | room + 1, isFirst, cs =>
    match if isFirst then some cs else afterChar? ':' cs with
    | none => ([], false, cs)
    | some body =>
      match if 1 ≤ room then ipv4? body else none with
      | some (v4, rest) => ([v4 / 65536, v4 % 65536], true, rest)
      | none =>
        match number? 16 4 body with
        | some (group, rest) =>
          let (more, isV4, rest) := groups room false rest
          (group :: more, isV4, rest)
        | none => ([], false, cs)

/-- The eight groups of an IPv6 address. -/
def ipv6? (cs : List Char) : Option (List Nat × List Char) :=
  let (head, isV4, rest) := groups 8 true cs
  if head.length = 8 then some (head, rest)
  else if isV4 then none
  else do
    let rest ← afterChar? ':' (← afterChar? ':' rest)
    let (tail, _, rest) := groups (7 - head.length) true rest
    some (head ++ List.replicate (8 - head.length - tail.length) 0 ++ tail, rest)

/-- A port with its colon. -/
def port? (cs : List Char) : Option (Nat × List Char) := do
  bounded? 65535 (← afterChar? ':' cs)

/-- The IPv4 address for which the groups of an IPv6 address stand. -/
def embeddedV4? : List Nat → Option Nat
  | [0, 0, 0, 0, 0, 0xFFFF, a, b] => some (a * 65536 + b)
  | _ => none

/-- An IP address together with a port. -/
inductive SocketAddress where
  /-- An IPv4 address, as one number, and a port. -/
  | v4 (address port : Nat)
  /-- The groups of an IPv6 address, its scope and a port. -/
  | v6 (address : List Nat) (scope port : Nat)
  deriving DecidableEq, Repr

namespace SocketAddress

/-- An IPv4 address and a port. -/
def readV4? (cs : List Char) : Option (SocketAddress × List Char) := do
  let (address, cs) ← ipv4? cs
  let (port, cs) ← port? cs
  some (.v4 address port, cs)

/-- The scope of an address; zero if none is written. -/
def readScope? (cs : List Char) : Option (Nat × List Char) :=
  match afterChar? '%' cs with
  | none => some (0, cs)
  | some digits => bounded? 4294967295 digits

/-- An IPv6 address in brackets and a port. -/
def readV6? (cs : List Char) : Option (SocketAddress × List Char) := do
  let (address, cs) ← ipv6? (← afterChar? '[' cs)
  let (scope, cs) ← readScope? cs
  let (port, cs) ← port? (← afterChar? ']' cs)
  some (.v6 address scope port, cs)

/-- The address that a text writes, if the whole text writes one. -/
def ofString? (s : String) : Option SocketAddress :=
  match (readV4? s.toList).or (readV6? s.toList) with
  | some (address, []) => some address
  | _ => none

/-- The port. -/
def port : SocketAddress → Nat
  | .v4 _ port => port
  | .v6 _ _ port => port

/-- The same address with another port. -/
def withPort : SocketAddress → Nat → SocketAddress
  | .v4 address _, port => .v4 address port
  | .v6 address scope _, port => .v6 address scope port

/-- The groups of an IPv6 address; an IPv4 address has none. -/
def v6Groups : SocketAddress → List Nat
  | .v4 _ _ => []
  | .v6 address _ _ => address

/-- The IPv4 address that an address is or stands for. -/
def v4Part? : SocketAddress → Option Nat
  | .v4 address _ => some address
  | .v6 address _ _ => embeddedV4? address

/-- Whether an address is the IPv6 address of zeros, which stands for all addresses of a host. -/
def isUnspecifiedV6 : SocketAddress → Bool
  | .v4 _ _ => false
  | .v6 address _ _ => address.all (· = 0)

end SocketAddress

/-! ## Writing -/

/-- An IPv4 address as four numbers divided by dots. -/
def renderV4 (address : Nat) : String :=
  ".".intercalate
    ([address / 16777216, address / 65536 % 256, address / 256 % 256, address % 256].map
      (digits 10 1))

/-- The length of the zeros at the head of a list of groups. -/
def leadingZeros (gs : List Nat) : Nat :=
  (gs.takeWhile (· = 0)).length

/-- The start and the length of the first longest run of zeros. -/
def longestZeros : List Nat → Nat × Nat
  | [] => (0, 0)
  | g :: gs =>
    let (start, length) := longestZeros gs
    if length ≤ leadingZeros (g :: gs) ∧ 0 < leadingZeros (g :: gs)
    then (0, leadingZeros (g :: gs)) else (start + 1, length)

/-- Groups in hexadecimal, divided by colons. -/
def renderGroups (gs : List Nat) : String :=
  ":".intercalate (gs.map (digits 16 1))

/-- An IPv6 address.  The first longest run of two or more groups of zeros is left out, and an
address that stands for an IPv4 address shows it. -/
def renderV6 (gs : List Nat) : String :=
  match embeddedV4? gs with
  | some address => "::ffff:" ++ renderV4 address
  | none =>
    let (start, length) := longestZeros gs
    if length ≤ 1 then renderGroups gs
    else renderGroups (gs.take start) ++ "::" ++ renderGroups (gs.drop (start + length))

/-- A socket address as it is reported. -/
def SocketAddress.render : SocketAddress → String
  | .v4 address port => renderV4 address ++ ":" ++ digits 10 1 port
  | .v6 address scope port =>
    let zone := if scope = 0 then "" else "%" ++ digits 10 1 scope
    "[" ++ renderV6 address ++ zone ++ "]:" ++ digits 10 1 port

end Signpost.Net
