/-
Internet addresses and the order in which they are listed.

An endpoint is an address with a port; an IPv6 endpoint may name the link it
is reached through (its scope). All IPv4 addresses come before all IPv6
addresses, and addresses of one kind are ordered by their number.
-/
namespace LanRelay

/-- An IPv4 address, the most significant byte first. -/
structure Ipv4 where
  a : UInt8
  b : UInt8
  c : UInt8
  d : UInt8
deriving DecidableEq, Repr, Inhabited

/-- An IPv6 address: eight 16-bit groups, the most significant first. -/
structure Ipv6 where
  groups : List UInt16
  eight : groups.length = 8
deriving DecidableEq, Repr

/-- An address of either kind. -/
inductive IpAddr where
  | v4 (ip : Ipv4)
  | v6 (ip : Ipv6)
deriving DecidableEq, Repr

/-- An IPv4 address with a port. -/
structure Endpoint4 where
  ip : Ipv4
  port : UInt16
deriving DecidableEq, Repr, Inhabited

/-- An address with a port. The scope of an IPv6 endpoint is zero when no link
is named. -/
inductive Endpoint where
  | v4 (endpoint : Endpoint4)
  | v6 (ip : Ipv6) (port : UInt16) (scope : UInt32)
deriving DecidableEq, Repr

namespace Ipv4

/-- The address 0.0.0.0, which stands for no address in particular. -/
def unspecified : Ipv4 := ⟨0, 0, 0, 0⟩

/-- The loopback address 127.0.0.1. -/
def loopback : Ipv4 := ⟨127, 0, 0, 1⟩

def isUnspecified (ip : Ipv4) : Bool := ip == unspecified

/-- An address in 224.0.0.0/4 names a group of hosts. -/
def isMulticast (ip : Ipv4) : Bool := 224 ≤ ip.a && ip.a ≤ 239

/-- The bytes of an address, most significant first; listing by them is
listing by number. -/
def key (ip : Ipv4) : List Nat := [ip.a, ip.b, ip.c, ip.d].map UInt8.toNat

end Ipv4

namespace Ipv6

def isUnspecified (ip : Ipv6) : Bool := ip.groups.all (· == 0)

def key (ip : Ipv6) : List Nat := ip.groups.map UInt16.toNat

/-- The address with the given groups, if there are eight. -/
def ofGroups? (groups : List UInt16) : Option Ipv6 :=
  if h : groups.length = 8 then some ⟨groups, h⟩ else none

end Ipv6

namespace IpAddr

/-- The address that stands for no address in particular. -/
def isUnspecified : IpAddr → Bool
  | v4 ip => ip.isUnspecified
  | v6 ip => ip.isUnspecified

end IpAddr

namespace Endpoint

/-- The endpoint of an address and a port, reached through no link in
particular. -/
def ofIp (ip : IpAddr) (port : UInt16) : Endpoint :=
  match ip with
  | .v4 ip => v4 ⟨ip, port⟩
  | .v6 ip => v6 ip port 0

def ip : Endpoint → IpAddr
  | v4 endpoint => .v4 endpoint.ip
  | v6 ip _ _ => .v6 ip

def port : Endpoint → UInt16
  | v4 endpoint => endpoint.port
  | v6 _ port _ => port

/-- The numbers that order endpoints: kind, address, port, scope. -/
def key : Endpoint → List Nat
  | v4 endpoint => 4 :: endpoint.ip.key ++ [endpoint.port.toNat]
  | v6 ip port scope => 6 :: ip.key ++ [port.toNat, scope.toNat]

/-- One endpoint is listed before another. -/
def before (x y : Endpoint) : Bool := decide (x.key < y.key)

/-- Put an endpoint into a strictly ordered list; one that is already there is
not put in twice. -/
def insert (x : Endpoint) : List Endpoint → List Endpoint
  | [] => [x]
  | y :: ys =>
      if x.before y then x :: y :: ys
      else if y.before x then y :: insert x ys
      else y :: ys

/-- The distinct endpoints of a list, in order. -/
def sortDistinct (xs : List Endpoint) : List Endpoint :=
  xs.foldr insert []

end Endpoint

end LanRelay
