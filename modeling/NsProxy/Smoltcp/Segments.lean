import NsProxy.Smoltcp.Buffers
import NsProxy.Smoltcp.Ingress

/-!
# A small stack

Sockets that take segments one after the other, as far as the connections of the program see
it: a listener takes a SYN to its port, a half-open connection is reset back to a listener, an
open one is reset, closed by its peer, or takes data. Nothing is lost on the way, and every
acknowledgement covers all that was sent.
-/

namespace NsProxy.Smoltcp

open Tun

/-- A TCP socket. -/
structure SegmentSocket where
  /-- The state. -/
  state : TcpState
  /-- The port of the listen endpoint. -/
  port : UInt16
  /-- The addresses of the last connection: the peer, then this side. -/
  peer : EndpointKey
  /-- The receive queue. -/
  rx : List UInt8
  /-- The length of the send queue. -/
  tx : Nat
  deriving DecidableEq

namespace SegmentSocket

/-- No connection yet. -/
def noPeer : EndpointKey := ⟨.unspecified, 0, .unspecified, 0⟩

/-- The four-tuple of a connection. -/
def tuple (socket : SegmentSocket) : Option EndpointKey :=
  match socket.state with
  | .closed | .listen => none
  | _ => some socket.peer

/-- The size of the send buffer. -/
def capacity : Nat := 65536

/-- This side may send. -/
def maySend (socket : SegmentSocket) : Bool :=
  socket.state = .established ∨ socket.state = .closeWait

/-- The peer may send, or bytes wait. -/
def mayRecv (socket : SegmentSocket) : Bool :=
  socket.state = .established ∨ socket.state = .finWait1 ∨ socket.state = .finWait2 ∨ socket.rx ≠ []

/-- `send_slice`. -/
def sendSlice (socket : SegmentSocket) (bytes : List UInt8) : Option Nat × SegmentSocket :=
  if socket.maySend then
    let count := min bytes.length (capacity - socket.tx)
    (some count, { socket with tx := socket.tx + count })
  else (none, socket)

/-- What a successful `send_slice` takes is queued. -/
theorem sendSlice_some {socket next : SegmentSocket} {bytes : List UInt8} {count : Nat}
    (sent : socket.sendSlice bytes = (some count, next)) :
    count ≤ bytes.length ∧ next = { socket with tx := socket.tx + count } := by
  unfold sendSlice at sent
  split at sent
  · simp only [Prod.mk.injEq, Option.some.injEq] at sent
    obtain ⟨taken, rest⟩ := sent
    rw [taken] at rest
    exact ⟨by omega, rest.symm⟩
  · simp at sent

/-- `send_slice` leaves everything else alone. -/
theorem sendSlice_keeps (socket : SegmentSocket) (bytes : List UInt8) :
    (socket.sendSlice bytes).2.rx = socket.rx ∧ (socket.sendSlice bytes).2.state = socket.state ∧
      (socket.sendSlice bytes).2.port = socket.port ∧
      (socket.sendSlice bytes).2.tuple = socket.tuple := by
  unfold sendSlice
  split <;> exact ⟨rfl, rfl, rfl, rfl⟩

/-- The four-tuple and the flags of a TCP packet, and its data. -/
structure Segment where
  /-- The four-tuple. -/
  tuple : EndpointKey
  /-- The flags. -/
  flags : UInt8
  /-- The data. -/
  payload : List UInt8

/-- Read a packet with a TCP segment. -/
def Segment.read (packet : List UInt8) : Run Segment := do
  let first ← index packet 0
  let ihl := (first &&& 0x0f).toNat * 4
  let srcIp ← addressAt packet 12
  let srcPort ← portAt packet ihl
  let dstIp ← addressAt packet 16
  let dstPort ← portAt packet (ihl + 2)
  let offset ← index packet (ihl + 12)
  let flags ← index packet (ihl + 13)
  return ⟨⟨srcIp, srcPort, dstIp, dstPort⟩, flags,
    packet.drop (ihl + (offset >>> 4).toNat * 4)⟩

/-- RST. -/
def Segment.resets (segment : Segment) : Bool := segment.flags &&& 0x04 ≠ 0

/-- FIN. -/
def Segment.ends (segment : Segment) : Bool := segment.flags &&& 0x01 ≠ 0

/-- The SYN of a packet without an ACK. -/
def synOf (packet : List UInt8) : Option EndpointKey :=
  match parseTcpSyn packet with
  | .ok (some key) => some key
  | _ => none

/-- Whether a socket takes a packet. -/
def accepts (socket : SegmentSocket) (packet : List UInt8) : Bool :=
  match socket.state with
  | .closed => false
  | .listen => (synOf packet).any fun key => key.dstPort = socket.port
  | _ => synOf packet = some socket.peer ∨
    (Segment.read packet).toOption.any fun segment => segment.tuple = socket.peer

/-- Data and the end of the peer's data on an open connection. -/
def hear (socket : SegmentSocket) (segment : Segment) : SegmentSocket :=
  { socket with
    state := if segment.ends then .closeWait else .established
    rx := socket.rx ++ segment.payload
    tx := 0 }

/-- A segment on a connection. -/
def onSegment (socket : SegmentSocket) (segment : Segment) : SegmentSocket :=
  match socket.state with
  | .synReceived =>
    if segment.resets then { socket with state := .listen }
    else socket.hear segment
  | .established =>
    if segment.resets then { socket with state := .closed }
    else socket.hear segment
  | .closeWait =>
    if segment.resets then { socket with state := .closed }
    else { socket with tx := 0 }
  | _ => socket

/-- Take a packet that the socket accepts. -/
def take (socket : SegmentSocket) (packet : List UInt8) : SegmentSocket :=
  match socket.state with
  | .listen => { socket with state := .synReceived, peer := (synOf packet).getD socket.peer }
  | _ =>
    match Segment.read packet with
    | .ok segment => if (synOf packet).isSome then socket else socket.onSegment segment
    | .error _ => socket

end SegmentSocket

/-- The TCP sockets of the small stack. -/
def segmentTcp : TcpApi where
  Socket := SegmentSocket
  new := ⟨.closed, 0, SegmentSocket.noPeer, [], 0⟩
  listen socket port :=
    if socket.state = .closed ∧ port ≠ 0 then some { socket with state := .listen, port := port }
    else none
  state := SegmentSocket.state
  localEndpoint socket := socket.tuple.map fun tuple => ⟨tuple.dstIp, tuple.dstPort⟩
  remoteEndpoint socket := socket.tuple.map fun tuple => ⟨tuple.srcIp, tuple.srcPort⟩
  abort socket := { socket with state := .closed, rx := [], tx := 0 }
  mayRecv := SegmentSocket.mayRecv
  canRecv socket := socket.rx ≠ []
  maySend := SegmentSocket.maySend
  canSend socket := socket.maySend && socket.tx < SegmentSocket.capacity
  sendQueue := SegmentSocket.tx
  recvQueue socket := socket.rx.length
  sendSlice := SegmentSocket.sendSlice
  recvData socket := if socket.mayRecv then some socket.rx else none
  recvConsume socket count := { socket with rx := socket.rx.drop count }

/-- The small stack's sockets move bytes as documented. -/
def segmentTcpBuffers : TcpBuffers segmentTcp where
  rx := SegmentSocket.rx
  recvData_begins socket data passed := by
    simp only [segmentTcp, Option.ite_none_right_eq_some, Option.some.injEq] at passed
    rw [passed.2]
  recvConsume_rx _ _ _ _ _ := rfl
  recvData_some socket able := by
    simp only [segmentTcp, ne_eq, decide_not, Bool.not_eq_true', decide_eq_false_iff_not] at able
    refine ⟨socket.rx, ?_, able⟩
    simp [segmentTcp, SegmentSocket.mayRecv, able]
  recvConsume_state _ _ := rfl
  recvConsume_sendQueue _ _ := rfl
  sendSlice_count _ _ _ _ sent := (SegmentSocket.sendSlice_some sent).1
  sendSlice_sendQueue _ _ _ _ sent :=
    congrArg SegmentSocket.tx (SegmentSocket.sendSlice_some sent).2
  sendSlice_rx socket bytes := (SegmentSocket.sendSlice_keeps socket bytes).1
  sendSlice_state socket bytes := (SegmentSocket.sendSlice_keeps socket bytes).2.1
  abort_state _ := rfl
  mayRecv_iff socket := by simp [segmentTcp, SegmentSocket.mayRecv]
  canRecv_iff socket := by simp [segmentTcp]
  maySend_iff socket := by simp [segmentTcp, SegmentSocket.maySend]
  maySend_of_canSend socket able := by
    simp only [segmentTcp, Bool.and_eq_true] at able
    exact able.1
  recvQueue_eq _ := rfl

/-- The lowest handle whose socket takes a packet. -/
def firstAccepting {udp : UdpApi} (sockets : SocketSet segmentTcp udp) (packet : List UInt8) :
    Option SocketHandle :=
  (List.range (sockets.keys.sup id + 1)).find? fun handle =>
    match sockets.lookup handle with
    | some (.tcp socket) => SegmentSocket.accepts socket packet
    | _ => false

/-- One packet goes to the lowest socket that takes it. -/
def receiveSegment {udp : UdpApi} (sockets : SocketSet segmentTcp udp) (packet : List UInt8) :
    SocketSet segmentTcp udp :=
  match firstAccepting sockets packet with
  | none => sockets
  | some handle =>
    match sockets.lookup handle with
    | some (.tcp socket) => sockets.insert handle (.tcp (SegmentSocket.take socket packet))
    | _ => sockets

/-- Sockets stay under their handles. -/
theorem receiveSegment_kind {udp : UdpApi} (sockets : SocketSet segmentTcp udp)
    (packet : List UInt8) (handle : SocketHandle) :
    ((receiveSegment sockets packet).lookup handle).map AnySocket.kind =
      (sockets.lookup handle).map AnySocket.kind := by
  unfold receiveSegment
  split
  · rfl
  · split
    · rename_i chosen _ socket found
      rw [HashMap.lookup_insert_if]
      split
      · rename_i same
        rw [same, found]
        rfl
      · rfl
    · rfl

/-- The small stack: `poll` takes the packets in order. -/
def segmentStack : StackApi where
  tcp := segmentTcp
  udp := queueUdp 16
  dnsSocket := ([], [])
  Interface := Unit
  connect interface (socket : SegmentSocket) remote source :=
    (if socket.state = .closed ∧ remote.port ≠ 0 ∧ source.port ≠ 0 then
      some { socket with
        state := .synSent, peer := ⟨remote.addr, remote.port, source.addr, source.port⟩ }
    else none, interface)
  freeHandle := lowestFree
  freeHandle_fresh := lowestFree_notMem
  poll _ interface packets sockets := (interface, [], packets.foldl receiveSegment sockets)
  poll_kind _ _ packets sockets handle := by
    induction packets generalizing sockets with
    | nil => rfl
    | cons packet rest ih =>
      rw [List.foldl_cons, ih]
      exact receiveSegment_kind sockets packet handle

/-- The buffers of the small stack. -/
def segmentBuffers : TcpBuffers segmentStack.tcp := segmentTcpBuffers

/-- What the small stack lets one see of its sockets. -/
def segmentView : SocketView segmentStack where
  tuple := SegmentSocket.tuple
  listenPort := SegmentSocket.port

/-- A segment on a connection gives no four-tuple. -/
theorem onSegment_keeps (socket : SegmentSocket) (segment : SegmentSocket.Segment) :
    segmentView.Keeps socket (socket.onSegment segment) := by
  have heard (opened : socket.tuple = some socket.peer) :
      segmentView.Keeps socket (socket.hear segment) := by
    refine ⟨rfl, .inl ?_⟩
    show (socket.hear segment).tuple = socket.tuple
    rw [opened]
    unfold SegmentSocket.tuple SegmentSocket.hear
    cases segment.ends <;> rfl
  unfold SegmentSocket.onSegment
  split
  · rename_i state
    split
    · exact ⟨rfl, .inr rfl⟩
    · exact heard (by simp [SegmentSocket.tuple, state])
  · rename_i state
    split
    · exact ⟨rfl, .inr rfl⟩
    · exact heard (by simp [SegmentSocket.tuple, state])
  · split
    · exact ⟨rfl, .inr rfl⟩
    · exact ⟨rfl, .inl rfl⟩
  · exact SocketView.Keeps.refl segmentView socket

/-- A packet gives a four-tuple only to a listener, by its SYN. -/
theorem take_cases (socket : SegmentSocket) (packet : List UInt8)
    (accepted : socket.accepts packet = true) :
    segmentView.Keeps socket (socket.take packet) ∨
      ∃ key, SegmentSocket.synOf packet = some key ∧ segmentView.Listens socket key.dstPort ∧
        (socket.take packet).port = socket.port ∧ (socket.take packet).tuple = some key := by
  unfold SegmentSocket.accepts at accepted
  unfold SegmentSocket.take
  split at accepted
  · contradiction
  · rename_i listening
    right
    cases read : SegmentSocket.synOf packet with
    | none => simp [read] at accepted
    | some key =>
      simp only [read, Option.any_some, decide_eq_true_eq] at accepted
      rw [listening]
      exact ⟨key, rfl, ⟨listening, accepted.symm⟩, rfl, rfl⟩
  · rename_i _ other
    left
    split
    · rename_i listening
      exact absurd listening other
    · split
      · split
        · exact SocketView.Keeps.refl segmentView socket
        · exact onSegment_keeps socket _
      · exact SocketView.Keeps.refl segmentView socket

/-- A socket that refuses a SYN neither listens on its port nor carries its four-tuple. -/
theorem refuses_syn {socket : SegmentSocket} {packet : List UInt8} {key : EndpointKey}
    (read : SegmentSocket.synOf packet = some key) (refused : socket.accepts packet = false) :
    ¬ segmentView.Listens socket key.dstPort ∧ ¬ segmentView.Carries socket key := by
  unfold SegmentSocket.accepts at refused
  constructor
  · rintro ⟨listening, port⟩
    have listens : socket.state = .listen := listening
    have same : socket.port = key.dstPort := port
    simp [listens, read, same] at refused
  · rintro ⟨⟨opened, unlistening⟩, carried⟩
    have tuple : socket.tuple = some key := carried
    unfold SegmentSocket.tuple at tuple
    split at refused
    · rename_i closed
      exact opened closed
    · rename_i listening
      exact unlistening listening
    · have same : socket.peer = key := by
        split at tuple
        · contradiction
        · contradiction
        · exact Option.some.inj tuple
      simp [same, read] at refused

/-- A SYN that is read as a segment has its four-tuple. -/
theorem read_tuple_of_syn {packet : List UInt8} {key : EndpointKey}
    {segment : SegmentSocket.Segment} (syn : SegmentSocket.synOf packet = some key)
    (read : SegmentSocket.Segment.read packet = .ok segment) : segment.tuple = key := by
  unfold SegmentSocket.synOf at syn
  rw [parseTcpSyn_eq] at syn
  by_cases looks : LooksLikeSyn packet
  · rw [if_pos looks] at syn
    obtain ⟨long, -, -, present, -⟩ := looks
    unfold SegmentSocket.Segment.read at read
    rw [index_eq (show 0 < packet.length by omega)] at read
    simp only [bind, Except.bind, mask_headerLength] at read
    rw [addressAt_eq (show 12 + 3 < packet.length by omega),
      portAt_eq (show headerLength packet * 4 + 1 < packet.length by omega),
      addressAt_eq (show 16 + 3 < packet.length by omega),
      portAt_eq (show headerLength packet * 4 + 2 + 1 < packet.length by omega),
      index_eq (show headerLength packet * 4 + 12 < packet.length by omega),
      index_eq (show headerLength packet * 4 + 13 < packet.length by omega)] at read
    rw [← Except.ok.inj read, ← Option.some.inj syn]
    rfl
  · rw [if_neg looks] at syn
    contradiction

/-- A socket that accepts a SYN listens on its port or carries its four-tuple. -/
theorem accepts_syn {socket : SegmentSocket} {packet : List UInt8} {key : EndpointKey}
    (syn : SegmentSocket.synOf packet = some key) (accepted : socket.accepts packet = true) :
    segmentView.Listens socket key.dstPort ∨ segmentView.Carries socket key := by
  unfold SegmentSocket.accepts at accepted
  split at accepted
  · contradiction
  · rename_i listening
    simp only [syn, Option.any_some, decide_eq_true_eq] at accepted
    exact .inl ⟨listening, accepted.symm⟩
  · rename_i opened unlistening
    refine .inr ⟨⟨opened, unlistening⟩, ?_⟩
    have same : socket.peer = key := by
      rw [decide_eq_true_eq] at accepted
      rcases accepted with own | heard
      · exact Option.some.inj (own.symm.trans syn)
      · cases read : SegmentSocket.Segment.read packet with
        | error panic => simp [read, Except.toOption] at heard
        | ok segment =>
          simp only [read, Except.toOption, Option.any_some, decide_eq_true_eq] at heard
          rw [← heard]
          exact read_tuple_of_syn syn read
    show socket.tuple = some key
    unfold SegmentSocket.tuple
    split
    · contradiction
    · contradiction
    · rw [same]

/-- One packet changes only the lowest socket that takes it. -/
theorem receiveSegment_cases {udp : UdpApi} {sockets : SocketSet segmentTcp udp}
    (packet : List UInt8) {handle : SocketHandle} {socket : segmentTcp.Socket}
    (found : sockets.lookup handle = some (.tcp socket)) :
    (receiveSegment sockets packet).lookup handle = some (.tcp socket) ∨
      ((receiveSegment sockets packet).lookup handle =
          some (.tcp (SegmentSocket.take socket packet)) ∧
        SegmentSocket.accepts socket packet = true ∧
        ∀ lower < handle, ∀ other, sockets.lookup lower = some (.tcp other) →
          SegmentSocket.accepts other packet = false) := by
  unfold receiveSegment
  cases first : firstAccepting sockets packet with
  | none => exact .inl found
  | some chosen =>
    unfold firstAccepting at first
    rw [List.find?_range_eq_some] at first
    obtain ⟨taken, -, lowest⟩ := first
    dsimp only
    split
    · rename_i taker read
      rw [read] at taken
      rw [HashMap.lookup_insert_if]
      by_cases same : handle = chosen
      · rw [same, read] at found
        obtain rfl : taker = socket := by simpa using found
        refine .inr ⟨by rw [if_pos same], taken, ?_⟩
        intro lower below other present
        rw [same] at below
        have refused := lowest lower below
        rw [present] at refused
        simpa using refused
      · rw [if_neg same]
        exact .inl found
    · exact .inl found

/-- The lowest listener takes a SYN that no lower socket carries. -/
theorem receiveSegment_syn {udp : UdpApi} {sockets : SocketSet segmentTcp udp}
    {packet : List UInt8} {key : EndpointKey} {handle : SocketHandle} {socket : segmentTcp.Socket}
    (syn : SegmentSocket.synOf packet = some key)
    (found : sockets.lookup handle = some (.tcp socket))
    (listens : segmentView.Listens socket key.dstPort)
    (lowest : ∀ lower < handle, ∀ other, sockets.lookup lower = some (.tcp other) →
      ¬ segmentView.Listens other key.dstPort ∧ ¬ segmentView.Carries other key) :
    (receiveSegment sockets packet).lookup handle =
      some (.tcp (SegmentSocket.take socket packet)) := by
  have accepted : SegmentSocket.accepts socket packet = true := by
    have listening : SegmentSocket.state socket = .listen := listens.1
    have port : SegmentSocket.port socket = key.dstPort := listens.2
    unfold SegmentSocket.accepts
    simp [listening, syn, port]
  have inside : handle ≤ sockets.keys.sup id :=
    Finset.le_sup (f := id) ((HashMap.mem_keys_iff _ _).mpr ⟨_, found⟩)
  have first : firstAccepting sockets packet = some handle := by
    unfold firstAccepting
    rw [List.find?_range_eq_some]
    refine ⟨by rw [found]; exact accepted, List.mem_range.mpr (Nat.lt_succ_of_le inside), ?_⟩
    intro lower below
    split
    · rename_i other present
      have refused := lowest lower below other present
      rw [Bool.not_eq_true', Bool.eq_false_iff]
      intro taken
      exact (accepts_syn syn taken).elim refused.1 refused.2
    · rfl
  unfold receiveSegment
  rw [first]
  dsimp only
  rw [found]
  exact Finmap.lookup_insert sockets

/-- The small stack takes packets as documented. -/
def segmentIngress : Ingress segmentStack where
  toSocketView := segmentView
  syn := SegmentSocket.synOf
  receive state packet := (state.1, receiveSegment state.2 packet)
  transmit _ state := state
  poll_eq now interface packets sockets := by
    show packets.foldl receiveSegment sockets = _
    induction packets generalizing sockets with
    | nil => rfl
    | cons packet rest ih => exact ih (receiveSegment sockets packet)
  syn_read packet key read := by
    unfold SegmentSocket.synOf at read
    split at read
    · rename_i found parsed
      rw [parsed, Option.some.inj read]
    · contradiction
  tuple_some (socket : SegmentSocket) opened unlistening := by
    refine ⟨socket.peer, ?_⟩
    show socket.tuple = _
    unfold SegmentSocket.tuple
    split
    · rename_i closed
      exact absurd closed opened
    · rename_i listening
      exact absurd listening unlistening
    · rfl
  receive_socket state packet handle socket found := by
    rcases receiveSegment_cases packet found with same | ⟨taken, accepted, lowest⟩
    · exact ⟨socket, same, .inl (SocketView.Keeps.refl segmentView socket)⟩
    · refine ⟨_, taken, ?_⟩
      rcases take_cases socket packet accepted with kept | ⟨key, syn, listens, port, tuple⟩
      · exact .inl kept
      · refine .inr ⟨key, syn, ⟨⟨socket, found, listens⟩, ?_⟩, port, tuple⟩
        intro lower below other present
        exact refuses_syn syn (lowest lower below other present)
  transmit_socket _ _ _ socket found := ⟨socket, found, SocketView.Keeps.refl segmentView socket⟩
  listen_some port nonzero := by
    refine ⟨(⟨.listen, port, SegmentSocket.noPeer, [], 0⟩ : SegmentSocket), ?_⟩
    simp [segmentStack, segmentTcp, nonzero]
  listen_new port socket made := by
    simp only [segmentStack, segmentTcp] at made
    split at made
    · rw [← Option.some.inj made]
      exact ⟨rfl, rfl⟩
    · contradiction
  abort_keeps _ := ⟨rfl, .inr rfl⟩
  recvConsume_keeps _ _ := ⟨rfl, .inl rfl⟩
  sendSlice_keeps socket bytes := by
    have kept := SegmentSocket.sendSlice_keeps socket bytes
    exact ⟨kept.2.2.1, .inl kept.2.2.2⟩

/-- A listener of the small stack has no four-tuple, and takes that of its SYN. -/
theorem segmentIngress_listening : segmentIngress.Listening where
  idle (socket : SegmentSocket) listening := by
    show socket.tuple = none
    unfold SegmentSocket.tuple
    rw [show socket.state = .listen from listening]
  takes state packet key handle syn takes := by
    obtain ⟨⟨socket, found, listens⟩, lowest⟩ := takes
    refine ⟨SegmentSocket.take socket packet, receiveSegment_syn syn found listens lowest, ?_⟩
    have listening : SegmentSocket.state socket = .listen := listens.1
    have read : SegmentSocket.synOf packet = some key := syn
    show (SegmentSocket.take socket packet).tuple = some key
    unfold SegmentSocket.take
    rw [listening]
    simp [SegmentSocket.tuple, read]

end NsProxy.Smoltcp
