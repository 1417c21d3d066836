import Signpost.Net.Address
import Signpost.Net.DomainName
import Signpost.Text.Utf8

/-!
# Web addresses

Whether a text is a good address, or a good reference relative to a page of the local host; and if
it is not, what is wrong with it.

Addresses fall into three kinds.  Those of the **web** (`http`, `https`, `ws`, `wss` and `ftp`)
always name a host, however many slashes stand before it, and a backslash counts as a slash.
Those of the **file** kind name a host only after two slashes.  All **other** addresses name a
host, one that is not interpreted, only after exactly `//`.  Nothing can be wrong outside the
*authority* of an address: user, host and port.

* `Url.fault?` is the first fault of a text, or nothing if the text is good.
-/

namespace Signpost.Net.Url

open Signpost.Text

/-- What is wrong with an address. -/
inductive Fault where
  | emptyHost
  | badPort
  | badIpv4
  | badIpv6
  | badDomain
  | badDomainCharacter
  deriving DecidableEq, Repr

/-- The wording of a fault. -/
def Fault.message : Fault → String
  | emptyHost => "empty host"
  | badPort => "invalid port number"
  | badIpv4 => "invalid IPv4 address"
  | badIpv6 => "invalid IPv6 address"
  | badDomain => "invalid international domain name"
  | badDomainCharacter => "invalid domain character"

/-- The kinds of addresses. -/
inductive Kind where
  | web
  | file
  | other
  deriving DecidableEq, Repr

/-- The kind of a scheme in lower case. -/
def Kind.ofScheme (scheme : String) : Kind :=
  if ["http", "https", "ws", "wss", "ftp"].contains scheme then .web
  else if scheme = "file" then .file
  else .other

/-- Whether a backslash counts as a slash. -/
def Kind.isSpecial (kind : Kind) : Bool :=
  kind ≠ .other

/-- A slash of either kind. -/
def isSlash (c : Char) : Bool :=
  c = '/' || c = '\\'

/-- Whether the character ends the authority. -/
def endsAuthority (kind : Kind) (c : Char) : Bool :=
  c = '/' || c = '?' || c = '#' || (kind.isSpecial && c = '\\')

/-! ## Hosts -/

/-- The bytes of a text, each `%` with two hexadecimal digits read as the byte it writes. -/
def percentDecode : List UInt8 → List UInt8
  | [] => []
  | [b] => [b]
  | [b, h] => [b, h]
  | b :: h :: l :: rest =>
    let digit (b : UInt8) : Option Nat :=
      let c := Char.ofNat b.toNat
      if isDigitOf 16 c then digit? c else none
    match if b = 0x25 then digit h else none, digit l with
    | some high, some low => UInt8.ofNat (high * 16 + low) :: percentDecode rest
    | _, _ => b :: percentDecode (h :: l :: rest)

/-- The fault of an IPv6 address that is followed by its closing bracket. -/
def bracketedFault? (inner : List Char) : Option Fault :=
  match ipv6? (inner.dropLast) with
  | some (_, []) => if inner.getLast? = some ']' then none else some .badIpv6
  | _ => some .badIpv6

/-- The fault of a host that is looked up. -/
def hostFault? (host : List Char) : Option Fault :=
  match host with
  | '[' :: inner => bracketedFault? inner
  | _ =>
    match (Utf8.decode? (percentDecode (Utf8.encode host))).bind DomainName.mapped? with
    | none => some .badDomain
    | some [] => some .emptyHost
    | some name =>
      if DomainName.endsInNumber name && (DomainName.ipv4OfName? name).isNone then some .badIpv4
      else none

/-- The fault of a host that is not interpreted. -/
def opaqueHostFault? (host : List Char) : Option Fault :=
  match host with
  | '[' :: inner => bracketedFault? inner
  | _ =>
    if host.any fun c => "\x00\t\n\r #/:<>?@[\\]^|".toList.contains c
    then some .badDomainCharacter else none

/-! ## Authorities -/

/-- The host at the head of a text and what follows it.  It runs to the end of the authority, or to
a colon outside brackets. -/
def splitHost (kind : Kind) : (inBrackets : Bool) → List Char → List Char × List Char
  | _, [] => ([], [])
  | inBrackets, c :: cs =>
    if endsAuthority kind c || (c = ':' && !inBrackets) then ([], c :: cs)
    else
      let (host, rest) := splitHost kind (c = '[' || (inBrackets && c ≠ ']')) cs
      (c :: host, rest)

/-- The fault of what follows a host: a port, if there is a colon. -/
def portFault? : List Char → Option Fault
  | ':' :: cs =>
    let ds := cs.takeWhile Char.isDigit
    if 65535 < numeral 10 ds then some .badPort
    else
      match cs.dropWhile Char.isDigit with
      | [] => none
      | c :: _ => if endsAuthority .web c then none else some .badPort
  | _ => none

/-- Splits an authority at the last `@` before its end: the user, if there is one, and the rest. -/
def splitUser (kind : Kind) (cs : List Char) : Option (List Char) × List Char :=
  let authority := cs.takeWhile fun c => !endsAuthority kind c
  match authority.reverse.dropWhile (· ≠ '@') with
  | [] => (none, cs)
  | _ :: user => (some user.reverse, cs.drop (user.length + 1))

/-- Whether the text before the `@` says anything: a lone colon does not. -/
def namesUser : Option (List Char) → Bool
  | none | some [] | some [':'] => false
  | some _ => true

/-- The fault of the authority at the head of a text. -/
def authorityFault? (kind : Kind) (cs : List Char) : Option Fault :=
  let (user, rest) := splitUser kind cs
  let (host, afterHost) := splitHost kind false rest
  if user = some [] ∧ rest.head?.any (endsAuthority kind) then some .emptyHost
  else if host = [] ∧ (kind = .web ∨ afterHost.head? = some ':') then some .emptyHost
  else
    match if kind = .other then opaqueHostFault? host else hostFault? host with
    | some fault => some fault
    | none =>
      match portFault? afterHost with
      | some fault => some fault
      | none => if host = [] ∧ namesUser user then some .emptyHost else none

/-- Whether a host is a drive letter, which a file address may have in its place. -/
def isDrive : List Char → Bool
  | [letter, mark] => letter.isAlpha && (mark = ':' || mark = '|')
  | _ => false

/-- The fault of a file address after its scheme. -/
def fileFault? : List Char → Option Fault
  | a :: b :: cs =>
    let host := cs.takeWhile fun c => !endsAuthority .file c
    if isSlash a && isSlash b && host ≠ [] && !isDrive host then hostFault? host else none
  | _ => none

/-! ## Whole texts -/

/-- The scheme of a text, in lower case, and what follows its colon. -/
def scheme? (cs : List Char) : Option (String × List Char) :=
  let isSchemeChar (c : Char) : Bool := c.isAlphanum || c = '+' || c = '-' || c = '.'
  match cs.takeWhile isSchemeChar, cs.dropWhile isSchemeChar with
  | c :: scheme, ':' :: rest =>
    if c.isAlpha then some (String.ofList ((c :: scheme).map Char.toLower), rest) else none
  | _, _ => none

/-- The fault of an address after its scheme. -/
def absoluteFault? (kind : Kind) (cs : List Char) : Option Fault :=
  match kind with
  | .web => authorityFault? .web (cs.dropWhile isSlash)
  | .file => fileFault? cs
  | .other =>
    match cs with
    | '/' :: '/' :: authority => authorityFault? .other authority
    | _ => none

/-- The fault of a reference relative to a page of the web.  Two slashes begin an authority; more
of them are passed over unless the first two are plain slashes. -/
def relativeFault? (cs : List Char) : Option Fault :=
  match cs with
  | '/' :: '/' :: authority => authorityFault? .web authority
  | a :: b :: _ =>
    if isSlash a && isSlash b then authorityFault? .web (cs.dropWhile isSlash) else none
  | _ => none

/-- A text as it is read: controls and spaces are cut off its ends, tabs and line ends taken out. -/
def cleaned (cs : List Char) : List Char :=
  let isEdge (c : Char) : Bool := c.toNat ≤ 0x20
  (((cs.dropWhile isEdge).reverse.dropWhile isEdge).reverse).filter
    fun c => !(c = '\t' || c = '\n' || c = '\r')

/-- The first fault of an address, or of a relative reference; nothing if the text is good. -/
def fault? (cs : List Char) : Option Fault :=
  match scheme? (cleaned cs) with
  | some (scheme, rest) => absoluteFault? (Kind.ofScheme scheme) rest
  | none => relativeFault? (cleaned cs)

end Signpost.Net.Url
