import LanRelay.Net.Address
import LanRelay.Text.Digits

/-
The text forms of addresses.

An IPv6 address is written with its longest run of zero groups left out (the
first of equally long ones, and never a run of one), and an address in
`::ffff:0:0/96` ends in the IPv4 address it stands for.
-/
namespace LanRelay

open LanRelay.Text

def Ipv4.render (ip : Ipv4) : String :=
  ".".intercalate (ip.key.map toString)

namespace Ipv6

/-- The length of the run of zeros at the head. -/
def zeroRun : List UInt16 → Nat
  | [] => 0
  | g :: gs => if g = 0 then zeroRun gs + 1 else 0

/-- Where the longest run of zeros starts, and its length; the first one if
several are equally long. -/
def longestZeroRun : List UInt16 → Nat × Nat
  | [] => (0, 0)
  | g :: gs =>
      let here := zeroRun (g :: gs)
      let later := longestZeroRun gs
      if later.2 ≤ here then (0, here) else (later.1 + 1, later.2)

/-- Groups in hexadecimal with colons between them. -/
def renderGroups (groups : List UInt16) : String :=
  ":".intercalate (groups.map fun g => hexNumeral g.toNat)

/-- The IPv4 address that an address in `::ffff:0:0/96` stands for. -/
def mappedIpv4? (ip : Ipv6) : Option Ipv4 :=
  match ip.groups with
  | [0, 0, 0, 0, 0, 0xffff, high, low] =>
      some ⟨UInt8.ofNat (high.toNat / 256), UInt8.ofNat high.toNat,
        UInt8.ofNat (low.toNat / 256), UInt8.ofNat low.toNat⟩
  | _ => none

def render (ip : Ipv6) : String :=
  match ip.mappedIpv4? with
  | some ipv4 => "::ffff:" ++ ipv4.render
  | none =>
      let (start, length) := longestZeroRun ip.groups
      if 1 < length then
        renderGroups (ip.groups.take start) ++ "::" ++
          renderGroups (ip.groups.drop (start + length))
      else renderGroups ip.groups

end Ipv6

def IpAddr.render : IpAddr → String
  | v4 ip => ip.render
  | v6 ip => ip.render

def Endpoint4.render (endpoint : Endpoint4) : String :=
  endpoint.ip.render ++ ":" ++ toString endpoint.port.toNat

def Endpoint.render : Endpoint → String
  | v4 endpoint => endpoint.render
  | v6 ip port scope =>
      let link := if scope = 0 then "" else "%" ++ toString scope.toNat
      "[" ++ ip.render ++ link ++ "]:" ++ toString port.toNat

end LanRelay
