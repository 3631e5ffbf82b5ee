import LanRelay.Net.Address
import LanRelay.Text.Digits

/-
Reading addresses.

The bytes of an IPv4 address have no leading zeros. An IPv6 address has up to
four hexadecimal digits in a group, may leave out one run of groups with `::`,
and may end in an IPv4 address. A port or a scope may have leading zeros.
Every reader consumes its input from the front and hands back the rest.
-/
namespace LanRelay

open LanRelay.Text

namespace Address

/-- A reader of the front of a text; it hands back what it leaves. -/
abbrev Reader (α : Type) := List Char → Option (α × List Char)

/-- Skip the one given character. -/
def skip (c : Char) : List Char → Option (List Char)
  | [] => none
  | d :: cs => if c = d then some cs else none

/-- A decimal byte of at most three digits without a leading zero. -/
def readByte : Reader UInt8 := fun cs =>
  match leadingDigits 10 cs with
  | ([], _) => none
  | (0 :: _ :: _, _) => none
  | (digits, rest) =>
      if digits.length ≤ 3 ∧ ofDigits 10 digits < 256 then
        some (UInt8.ofNat (ofDigits 10 digits), rest)
      else none

def readIpv4 : Reader Ipv4 := fun cs => do
  let (a, cs) ← readByte cs
  let (b, cs) ← readByte (← skip '.' cs)
  let (c, cs) ← readByte (← skip '.' cs)
  let (d, cs) ← readByte (← skip '.' cs)
  some (⟨a, b, c, d⟩, cs)

/-- A hexadecimal group of one to four digits. -/
def readGroup : Reader UInt16 := fun cs =>
  match leadingDigits 16 cs with
  | ([], _) => none
  | (digits, rest) =>
      if digits.length ≤ 4 then some (UInt16.ofNat (ofDigits 16 digits), rest)
      else none

/-- The two groups that an IPv4 address fills. -/
def groupsOfIpv4 (ip : Ipv4) : List UInt16 :=
  [UInt16.ofNat (256 * ip.a.toNat + ip.b.toNat),
    UInt16.ofNat (256 * ip.c.toNat + ip.d.toNat)]

/-- As many groups as there are, up to `room`, with colons between them; the
last two may be written as an IPv4 address, which the flag reports. The colon
in front of the first group is left out when `first` holds. -/
def readGroups (first : Bool) :
    (room : Nat) → List Char → List UInt16 × Bool × List Char
  | 0, cs => ([], false, cs)
  | room + 1, cs =>
      match if first then some cs else skip ':' cs with
      | none => ([], false, cs)
      | some front =>
          match if room = 0 then none else readIpv4 front with
          | some (ip, rest) => (groupsOfIpv4 ip, true, rest)
          | none =>
              match readGroup front with
              | none => ([], false, cs)
              | some (group, rest) =>
                  let (groups, ipv4, rest) := readGroups false room rest
                  (group :: groups, ipv4, rest)

def readIpv6 : Reader Ipv6 := fun cs => do
  let (front, ipv4, cs) := readGroups true 8 cs
  if front.length = 8 then
    let ip ← Ipv6.ofGroups? front
    return (ip, cs)
  if ipv4 then failure
  let cs ← skip ':' cs
  let cs ← skip ':' cs
  let (back, _, cs) := readGroups true (7 - front.length) cs
  let gap := List.replicate (8 - front.length - back.length) 0
  let ip ← Ipv6.ofGroups? (front ++ gap ++ back)
  return (ip, cs)

/-- A decimal number below `bound`; leading zeros are allowed. -/
def readNumber (bound : Nat) : Reader Nat := fun cs =>
  match leadingDigits 10 cs with
  | ([], _) => none
  | (digits, rest) =>
      if ofDigits 10 digits < bound then some (ofDigits 10 digits, rest)
      else none

def readPort : Reader UInt16 := fun cs => do
  let (port, cs) ← readNumber 65536 (← skip ':' cs)
  some (UInt16.ofNat port, cs)

/-- The scope after a percent sign; zero when there is none. -/
def readScope (cs : List Char) : UInt32 × List Char :=
  match do readNumber 4294967296 (← skip '%' cs) with
  | some (scope, rest) => (UInt32.ofNat scope, rest)
  | none => (0, cs)

def readEndpoint4 : Reader Endpoint4 := fun cs => do
  let (ip, cs) ← readIpv4 cs
  let (port, cs) ← readPort cs
  some (⟨ip, port⟩, cs)

def readEndpoint6 : Reader Endpoint := fun cs => do
  let (ip, cs) ← readIpv6 (← skip '[' cs)
  let (scope, cs) := readScope cs
  let (port, cs) ← readPort (← skip ']' cs)
  some (.v6 ip port scope, cs)

/-- What a reader makes of a whole text. -/
def whole? {α : Type} (read : Reader α) (text : String) : Option α :=
  match read text.toList with
  | some (value, []) => some value
  | _ => none

end Address

open Address

def Ipv4.parse? (text : String) : Option Ipv4 := whole? readIpv4 text

def Ipv6.parse? (text : String) : Option Ipv6 := whole? readIpv6 text

def IpAddr.parse? (text : String) : Option IpAddr :=
  (Ipv4.parse? text).map .v4 <|> (Ipv6.parse? text).map .v6

def Endpoint4.parse? (text : String) : Option Endpoint4 :=
  whole? readEndpoint4 text

def Endpoint.parse? (text : String) : Option Endpoint :=
  (Endpoint4.parse? text).map .v4 <|> whole? readEndpoint6 text

end LanRelay
