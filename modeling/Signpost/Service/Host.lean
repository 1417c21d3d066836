import Signpost.Http.Request
import Signpost.Net.Address
import Signpost.Settings.Loading

/-!
# The host of the service

What the service depends on but does not decide: the settings file, the environment, the addresses
it can listen on, and whether anybody can reach it.

Two rules about addresses hold on every host or on a kind of hosts: which two addresses cannot be
listened on at the same time (`collide`), and which addresses can be listened on where no network is
up (`offlineFault?`).
-/

namespace Signpost

open Net (SocketAddress)

/-- Why an address cannot be listened on. -/
inductive BindFault where
  | inUse
  | notLocal
  /-- The address stands for a group of hosts, or lacks the scope it needs. -/
  | badAddress
  /-- There is no network interface for the scope of the address. -/
  | noDevice
  /-- The host has no sockets to listen on. -/
  | noSockets
  deriving DecidableEq, Repr

/-- The wording of a fault. -/
def BindFault.message : BindFault → String
  | inUse => "Address already in use (os error 98)"
  | notLocal => "Cannot assign requested address (os error 99)"
  | badAddress => "Invalid argument (os error 22)"
  | noDevice => "No such device (os error 19)"
  | noSockets => "Function not implemented (os error 38)"

/-- What the service finds where it runs. -/
structure Host where
  /-- The settings file at the start. -/
  settingsFile : FileState
  /-- What the reader of documents says of a malformed file. -/
  parseDetail : FileState → Option String := fun _ => none
  /-- The log filter that the environment asks for. -/
  filterVariable : Option String
  /-- Why an address cannot be listened on; nothing if it can. -/
  bindFault? : SocketAddress → Option BindFault
  /-- The port that is assigned to a listener that asks for any port. -/
  assignedPort : Nat
  /-- Whether there is a network over which requests arrive. -/
  isReachable : Bool

/-- Whether listening on the one address takes all requests for the other, whatever their ports.
The unspecified IPv6 address takes the requests of both families, the unspecified IPv4 address
those of its own, and any other address those for itself. -/
def takesFrom (a b : SocketAddress) : Bool :=
  match a.v4Part?, b.v4Part? with
  | some x, some y => x = 0 || x = y
  | none, none => a.isUnspecifiedV6 || a.v6Groups = b.v6Groups
  | none, some _ => a.isUnspecifiedV6
  | some _, none => false

/-- Whether two addresses cannot be listened on at the same time. -/
def collide (a b : SocketAddress) : Bool :=
  a.port = b.port && a.port ≠ 0 && (takesFrom a b || takesFrom b a)

/-- Why an address cannot be listened on where the only network interface, the first, is down.
Then no IPv6 address belongs to the host, and IPv4 addresses are not checked.  An address that is
local to a link needs the number of an interface for its scope. -/
def offlineFault? (address : SocketAddress) : Option BindFault :=
  match address with
  | .v4 _ _ => none
  | .v6 groups scope _ =>
    let first := groups.headD 0
    if address.v4Part?.isSome || address.isUnspecifiedV6 then none
    else if 0xFF00 ≤ first then some .badAddress
    else if 0xFE80 ≤ first && first < 0xFEC0 then
      if scope = 0 then some .badAddress else if scope = 1 then some .notLocal else some .noDevice
    else some .notLocal

/-- A host on which the only network interface is down and some addresses are taken. -/
def Host.offline (settingsFile : FileState) (filterVariable : Option String)
    (taken : List SocketAddress) (assignedPort : Nat) : Host where
  settingsFile
  filterVariable
  bindFault? address := if taken.any (collide · address) then some .inUse else offlineFault? address
  assignedPort
  isReachable := false

/-- The address that a listener gets. -/
def Host.assign (host : Host) (address : SocketAddress) : SocketAddress :=
  if address.port = 0 then address.withPort host.assignedPort else address

end Signpost
