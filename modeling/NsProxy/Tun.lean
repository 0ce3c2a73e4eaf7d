import NsProxy.Net
import NsProxy.Smoltcp.SocketSet

/-!
# Packet inspection

`parse_tcp_syn` of `tun.rs`, with every index into the packet checked.
-/

namespace NsProxy.Tun

/-- The addresses and ports of a connection: source, then destination. -/
structure EndpointKey where
  /-- `src_ip`. -/
  srcIp : Ipv4Addr
  /-- `src_port`. -/
  srcPort : UInt16
  /-- `dst_ip`. -/
  dstIp : Ipv4Addr
  /-- `dst_port`. -/
  dstPort : UInt16
  deriving DecidableEq, Repr

/-- An index into a packet. -/
def index (packet : List UInt8) (position : Nat) : Run UInt8 :=
  match packet[position]? with
  | some byte => .ok byte
  | none => .error .indexOutOfRange

/-- Four consecutive bytes as an address. -/
def addressAt (packet : List UInt8) (position : Nat) : Run Ipv4Addr := do
  let a ← index packet position
  let b ← index packet (position + 1)
  let c ← index packet (position + 2)
  let d ← index packet (position + 3)
  return Ipv4Addr.new a b c d

/-- Two consecutive bytes as a port. -/
def portAt (packet : List UInt8) (position : Nat) : Run UInt16 := do
  let high ← index packet position
  let low ← index packet (position + 1)
  return Bytes.u16FromBe high low

/-- `parse_tcp_syn`. -/
def parseTcpSyn (packet : List UInt8) : Run (Option EndpointKey) := do
  if packet.length < 40 then return none
  else
    let first ← index packet 0
    if first >>> 4 ≠ 4 then return none
    else
      let ihl := (first &&& 0x0f).toNat * 4
      let protocol ← index packet 9
      if protocol ≠ 6 then return none
      else if packet.length < ihl + 20 then return none
      else
        let flags ← index packet (ihl + 13)
        if flags &&& 0x02 ≠ 0 ∧ flags &&& 0x10 = 0 then
          let srcIp ← addressAt packet 12
          let srcPort ← portAt packet ihl
          let dstIp ← addressAt packet 16
          let dstPort ← portAt packet (ihl + 2)
          return some ⟨srcIp, srcPort, dstIp, dstPort⟩
        else return none

/-! ## The packet format -/

/-- A byte of a packet, zero behind its end. -/
def byteAt (packet : List UInt8) (position : Nat) : UInt8 := packet.getD position 0

/-- The version field of an IP header. -/
def version (packet : List UInt8) : Nat := (byteAt packet 0).toNat / 16

/-- The header length field of an IPv4 header, in units of four bytes. -/
def headerLength (packet : List UInt8) : Nat := (byteAt packet 0).toNat % 16

/-- The fragment offset field of an IPv4 header, behind the three flags. -/
def fragmentOffset (packet : List UInt8) : Nat :=
  (byteAt packet 6).toNat % 32 * 256 + (byteAt packet 7).toNat

/-- The protocol field of an IPv4 header. -/
def protocol (packet : List UInt8) : Nat := (byteAt packet 9).toNat

/-- A flag of the TCP header behind the IPv4 header, by the number of its bit. -/
def tcpFlag (packet : List UInt8) (bit : Nat) : Bool :=
  (byteAt packet (headerLength packet * 4 + 13)).toNat.testBit bit

/-- An address in a packet. -/
def addressField (packet : List UInt8) (position : Nat) : Ipv4Addr :=
  Ipv4Addr.new (byteAt packet position) (byteAt packet (position + 1))
    (byteAt packet (position + 2)) (byteAt packet (position + 3))

/-- A port in a packet. -/
def portField (packet : List UInt8) (position : Nat) : UInt16 :=
  Bytes.u16FromBe (byteAt packet position) (byteAt packet (position + 1))

/-- The addresses of the IPv4 header and the ports of the TCP header behind it. -/
def endpointsOf (packet : List UInt8) : EndpointKey where
  srcIp := addressField packet 12
  srcPort := portField packet (headerLength packet * 4)
  dstIp := addressField packet 16
  dstPort := portField packet (headerLength packet * 4 + 2)

/-- The conditions that `parse_tcp_syn` checks: the bit of SYN is 1, that of ACK is 4. -/
def LooksLikeSyn (packet : List UInt8) : Prop :=
  40 ≤ packet.length ∧ version packet = 4 ∧ protocol packet = 6 ∧
    headerLength packet * 4 + 20 ≤ packet.length ∧
    tcpFlag packet 1 = true ∧ tcpFlag packet 4 = false

instance (packet : List UInt8) : Decidable (LooksLikeSyn packet) :=
  inferInstanceAs (Decidable (_ ∧ _))

/-- An IPv4 packet with a whole TCP header that opens a connection. -/
structure IsTcpSyn (packet : List UInt8) : Prop where
  /-- The packet is an IPv4 packet. -/
  version : version packet = 4
  /-- The header has at least its fixed part. -/
  headerLength : 5 ≤ headerLength packet
  /-- The header and a TCP header behind it are present. -/
  present : Tun.headerLength packet * 4 + 20 ≤ packet.length
  /-- The packet is the first fragment or the only one. -/
  unfragmented : fragmentOffset packet = 0
  /-- The payload is a TCP segment. -/
  protocol : protocol packet = 6
  /-- The segment asks for a connection. -/
  syn : tcpFlag packet 1 = true
  /-- The segment does not answer. -/
  ack : tcpFlag packet 4 = false

/-- Indexing inside the packet reads the byte there. -/
theorem index_eq {packet : List UInt8} {position : Nat} (inside : position < packet.length) :
    index packet position = .ok (byteAt packet position) := by
  unfold index byteAt
  rw [List.getD_eq_getElem?_getD, List.getElem?_eq_getElem inside]
  rfl

/-- Four bytes inside the packet are read as the address they spell. -/
theorem addressAt_eq {packet : List UInt8} {position : Nat}
    (inside : position + 3 < packet.length) :
    addressAt packet position = .ok (addressField packet position) := by
  have first := index_eq (show position < packet.length by omega)
  have second := index_eq (show position + 1 < packet.length by omega)
  have third := index_eq (show position + 2 < packet.length by omega)
  have fourth := index_eq inside
  unfold addressAt
  rw [first, second, third, fourth]
  rfl

/-- Two bytes inside the packet are read as the port they spell. -/
theorem portAt_eq {packet : List UInt8} {position : Nat}
    (inside : position + 1 < packet.length) :
    portAt packet position = .ok (portField packet position) := by
  have high := index_eq (show position < packet.length by omega)
  have low := index_eq inside
  unfold portAt
  rw [high, low]
  rfl

/-- The shift of the first byte gives the version. -/
theorem shift_version (packet : List UInt8) : byteAt packet 0 >>> 4 = 4 ↔ version packet = 4 := by
  apply Bytes.forall_byte (fun byte => byte >>> 4 = 4 ↔ byte.toNat / 16 = 4)
  decide +kernel

/-- The mask of the first byte gives the header length. -/
theorem mask_headerLength (packet : List UInt8) :
    (byteAt packet 0 &&& 0x0f).toNat = headerLength packet := by
  apply Bytes.forall_byte (fun byte => (byte &&& 0x0f).toNat = byte.toNat % 16)
  decide +kernel

/-- The byte at offset nine is 6 exactly where the header names TCP. -/
theorem protocol_eq (packet : List UInt8) : byteAt packet 9 = 6 ↔ protocol packet = 6 := by
  apply Bytes.forall_byte (fun byte => byte = 6 ↔ byte.toNat = 6)
  decide +kernel

/-- The masks of the flags give the two bits. -/
theorem mask_flags (packet : List UInt8) :
    (byteAt packet (headerLength packet * 4 + 13) &&& 0x02 ≠ 0 ∧
      byteAt packet (headerLength packet * 4 + 13) &&& 0x10 = 0) ↔
      tcpFlag packet 1 = true ∧ tcpFlag packet 4 = false := by
  apply Bytes.forall_byte (fun byte => (byte &&& 0x02 ≠ 0 ∧ byte &&& 0x10 = 0) ↔
    byte.toNat.testBit 1 = true ∧ byte.toNat.testBit 4 = false)
  decide +kernel

/-- No index of `parse_tcp_syn` is out of range, and it returns the endpoints of exactly the
packets that pass its checks. -/
theorem parseTcpSyn_eq (packet : List UInt8) :
    parseTcpSyn packet = .ok (if LooksLikeSyn packet then some (endpointsOf packet) else none) := by
  unfold parseTcpSyn
  by_cases short : packet.length < 40
  · have refused : ¬ LooksLikeSyn packet := by
      intro looks
      exact absurd looks.1 (by omega)
    rw [if_pos short, if_neg refused]
    rfl
  · rw [if_neg short, index_eq (show 0 < packet.length by omega),
      index_eq (show 9 < packet.length by omega)]
    simp only [bind, Except.bind, ne_eq, shift_version, mask_headerLength, protocol_eq, ite_not]
    by_cases four : version packet = 4
    · rw [if_pos four]
      by_cases tcp : protocol packet = 6
      · rw [if_pos tcp]
        by_cases long : packet.length < headerLength packet * 4 + 20
        · have refused : ¬ LooksLikeSyn packet := by
            intro looks
            exact absurd looks.2.2.2.1 (by omega)
          rw [if_pos long, if_neg refused]
          rfl
        · rw [if_neg long, index_eq (show headerLength packet * 4 + 13 < packet.length by omega),
            addressAt_eq (show 12 + 3 < packet.length by omega),
            portAt_eq (show headerLength packet * 4 + 1 < packet.length by omega),
            addressAt_eq (show 16 + 3 < packet.length by omega),
            portAt_eq (show headerLength packet * 4 + 2 + 1 < packet.length by omega)]
          have flags := mask_flags packet
          by_cases opens : tcpFlag packet 1 = true ∧ tcpFlag packet 4 = false
          · have looks : LooksLikeSyn packet := ⟨by omega, four, tcp, by omega, opens⟩
            rw [if_pos looks]
            simp only []
            rw [if_pos (flags.mpr opens)]
            rfl
          · have refused : ¬ LooksLikeSyn packet := fun looks => opens looks.2.2.2.2
            rw [if_neg refused]
            simp only []
            rw [if_neg fun masked => opens (flags.mp masked)]
            rfl
      · have refused : ¬ LooksLikeSyn packet := fun looks => tcp looks.2.2.1
        rw [if_neg tcp, if_neg refused]
        rfl
    · have refused : ¬ LooksLikeSyn packet := fun looks => four looks.2.1
      rw [if_neg four, if_neg refused]
      rfl

/-- The parser indexes no packet out of its bounds. -/
theorem parseTcpSyn_ok (packet : List UInt8) : ∃ result, parseTcpSyn packet = .ok result :=
  ⟨_, parseTcpSyn_eq packet⟩

/-- What the checks leave out: the size of the header and the place of the fragment. -/
theorem isTcpSyn_iff (packet : List UInt8) :
    IsTcpSyn packet ↔
      LooksLikeSyn packet ∧ 5 ≤ headerLength packet ∧ fragmentOffset packet = 0 := by
  constructor
  · intro syn
    have long : 40 ≤ packet.length := by
      have present := syn.present
      have fixed := syn.headerLength
      omega
    exact ⟨⟨long, syn.version, syn.protocol, syn.present, syn.syn, syn.ack⟩, syn.headerLength,
      syn.unfragmented⟩
  · intro both
    obtain ⟨⟨-, four, tcp, present, syn, ack⟩, fixed, unfragmented⟩ := both
    exact ⟨four, fixed, present, unfragmented, tcp, syn, ack⟩

/-- The endpoints are returned of a TCP SYN and of no other packet, without an index out of
range. -/
def Recognises (packet : List UInt8) : Prop :=
  (∃ result, parseTcpSyn packet = .ok result) ∧
    ∀ key, parseTcpSyn packet = .ok (some key) ↔ IsTcpSyn packet ∧ key = endpointsOf packet

/-- A packet is recognised exactly when, if it passes the checks, its header has the fixed part
and it is no later fragment. -/
theorem tcp_syn_recognised_iff (packet : List UInt8) :
    Recognises packet ↔
      (LooksLikeSyn packet → 5 ≤ headerLength packet ∧ fragmentOffset packet = 0) := by
  unfold Recognises
  simp only [parseTcpSyn_eq, isTcpSyn_iff, Except.ok.injEq]
  by_cases looks : LooksLikeSyn packet
  · simp only [looks, if_true, Option.some.injEq, true_and, exists_eq', forall_const]
    constructor
    · intro recognised
      exact ((recognised (endpointsOf packet)).mp rfl).1
    · intro fields key
      exact ⟨fun same => ⟨fields, same.symm⟩, fun both => both.2.symm⟩
  · simp [looks]

/-- A later fragment of a TCP segment whose payload has the bit of SYN in its fourteenth byte. -/
def laterFragment : List UInt8 :=
  [0x45, 0, 0, 40, 0, 1, 0, 185, 64, 6, 0, 0, 172, 23, 255, 255, 93, 184, 216, 34,
    97, 98, 99, 100, 101, 102, 103, 104, 105, 106, 107, 108, 109, 2, 110, 111, 112, 113, 114, 115]

/-- The payload of a fragment is read as a TCP header. -/
theorem later_fragment_taken_for_syn :
    parseTcpSyn laterFragment = .ok (some (endpointsOf laterFragment)) ∧
      ¬ Recognises laterFragment := by
  have taken : parseTcpSyn laterFragment = .ok (some (endpointsOf laterFragment)) := by
    rw [parseTcpSyn_eq, if_pos (by decide +kernel)]
  refine ⟨taken, ?_⟩
  intro recognised
  have fragment := ((recognised.2 _).mp taken).1.unfragmented
  revert fragment
  decide +kernel

end NsProxy.Tun
