import NsProxy.Lib.Bytes

/-!
# Addresses

The address types of the standard library that the program passes around. An IPv4 address
is its 32-bit value; `octets` and the dotted text are read off that value.
-/

namespace NsProxy

/-- `std::net::Ipv4Addr`, by its big-endian value. -/
structure Ipv4Addr where
  /-- `u32::from(addr)`. -/
  bits : UInt32
  deriving DecidableEq, Repr

namespace Ipv4Addr

/-- `Ipv4Addr::new`. -/
def new (a b c d : UInt8) : Ipv4Addr := ⟨Bytes.u32FromBe a b c d⟩

/-- `Ipv4Addr::octets`. -/
def octets (addr : Ipv4Addr) : List UInt8 := Bytes.be32 addr.bits

/-- `Ipv4Addr::UNSPECIFIED`. -/
def unspecified : Ipv4Addr := ⟨0⟩

/-- The dotted text of an address. -/
def toText (addr : Ipv4Addr) : String :=
  ".".intercalate (addr.octets.map fun octet => toString octet.toNat)

/-- An address has four octets. -/
@[simp] theorem length_octets (addr : Ipv4Addr) : addr.octets.length = 4 := rfl

end Ipv4Addr

/-- `std::net::Ipv6Addr`, by its sixteen octets. -/
structure Ipv6Addr where
  /-- The octets, most significant first. -/
  octets : Vector UInt8 16
  deriving DecidableEq, Repr

namespace Ipv6Addr

/-- `Ipv6Addr::segments`: eight 16-bit groups. -/
def segments (addr : Ipv6Addr) : List UInt16 :=
  (List.range 8).map fun group =>
    Bytes.u16FromBe (addr.octets.toList.getD (2 * group) 0)
      (addr.octets.toList.getD (2 * group + 1) 0)

/-- Start and length of the first longest run of zero groups. -/
def longestZeroRun (groups : List UInt16) : Nat × Nat :=
  let step := fun (spans : (Nat × Nat) × (Nat × Nat)) (entry : UInt16 × Nat) =>
    let (longest, current) := spans
    if entry.1 = 0 then
      let current := if current.2 = 0 then (entry.2, 1) else (current.1, current.2 + 1)
      (if longest.2 < current.2 then current else longest, current)
    else (longest, (0, 0))
  (groups.zipIdx.foldl step ((0, 0), (0, 0))).1

/-- Groups in lower-case hexadecimal, separated by colons. -/
def groupsText (groups : List UInt16) : String :=
  ":".intercalate (groups.map fun group => String.ofList (Nat.toDigits 16 group.toNat))

/-- The text of an address: mapped IPv4 addresses keep their dotted form, and the first
longest run of at least two zero groups is elided. -/
def toText (addr : Ipv6Addr) : String :=
  match addr.octets.toList with
  | [0, 0, 0, 0, 0, 0, 0, 0, 0, 0, 0xFF, 0xFF, a, b, c, d] =>
    "::ffff:" ++ (Ipv4Addr.new a b c d).toText
  | _ =>
    let groups := addr.segments
    let (start, length) := longestZeroRun groups
    if 1 < length then
      groupsText (groups.take start) ++ "::" ++ groupsText (groups.drop (start + length))
    else groupsText groups

end Ipv6Addr

/-- `std::net::IpAddr`. -/
inductive IpAddr
  | v4 (addr : Ipv4Addr)
  | v6 (addr : Ipv6Addr)
  deriving DecidableEq, Repr

/-- The text of either kind of address. -/
def IpAddr.toText : IpAddr → String
  | v4 addr => addr.toText
  | v6 addr => addr.toText

/-- An address and a port: `SocketAddr` restricted to IPv4, and smoltcp's `IpEndpoint`. -/
structure Endpoint where
  /-- The address. -/
  addr : Ipv4Addr
  /-- The port. -/
  port : UInt16
  deriving DecidableEq, Repr

end NsProxy
