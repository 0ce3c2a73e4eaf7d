import NsProxy.FakeDns.Fifo
import NsProxy.FakeDns.Packet
import NsProxy.Proxy.Target
import NsProxy.Smoltcp.Udp

/-!
# The DNS interceptor

`DnsInterceptor` of `event_loop/dns.rs`: the receive loop over the intercepted socket and the
reverse lookup of a destination. The loop body is `answer`, the part of an iteration that
does not touch the socket; `answerAll` runs it over a list of datagrams, and the loop is
proved to be that run whenever every datagram fits the receive buffer.
-/

namespace NsProxy.EventLoop

open Smoltcp

/-- `DnsInterceptor`: the handle of the intercepted socket and the fake-address mapping. -/
structure DnsInterceptor where
  /-- `handle`. -/
  handle : SocketHandle
  /-- `fake_dns`. -/
  fakeDns : FakeDns

namespace DnsInterceptor

/-- Size of the receive buffer `dns_buf`. -/
def dnsBufSize : Nat := 1500

/-- The response to one received payload, and the mapping after it; malformed payloads have
none. -/
def answer (dns : DnsInterceptor) (payload : List UInt8) :
    DnsInterceptor × Option (List UInt8) :=
  match FakeDns.parseQuery payload with
  | none => (dns, none)
  | some (id, domain, qtype) =>
    if qtype = 1 then
      let (fakeDns, ip) := dns.fakeDns.resolve domain
      ({ dns with fakeDns := fakeDns }, some (FakeDns.buildAResponse id domain ip))
    else (dns, some (FakeDns.buildEmptyResponse id domain qtype))

/-- Send a response if the socket can send; the result of the send is ignored. -/
def respond (udp : UdpApi) (socket : udp.Socket) (endpoint : Endpoint) :
    Option (List UInt8) → udp.Socket
  | none => socket
  | some response =>
    if udp.canSend socket then (udp.sendSlice socket response endpoint).2 else socket

/-- Responding leaves the receive queue alone. -/
theorem respond_rx (udp : UdpApi) (socket : udp.Socket) (endpoint : Endpoint)
    (response : Option (List UInt8)) :
    udp.rx (respond udp socket endpoint response) = udp.rx socket := by
  cases response with
  | none => rfl
  | some response =>
    simp only [respond]
    split
    · exact udp.sendSlice_rx socket response endpoint
    · rfl

/-- A receive shortens the queue of a socket that can receive. -/
theorem recvSlice_shortens (udp : UdpApi) (socket : udp.Socket) (size : Nat)
    (ready : udp.canRecv socket = true) :
    (udp.rx (udp.recvSlice socket size).2).length < (udp.rx socket).length := by
  obtain ⟨datagram, rest, queued⟩ :=
    List.exists_cons_of_ne_nil ((udp.canRecv_iff socket).mp ready)
  rw [(udp.recvSlice_dequeues socket size datagram rest queued).1, queued]
  simp

/-- `DnsInterceptor::process` on its own socket. -/
def process (udp : UdpApi) (dns : DnsInterceptor) (socket : udp.Socket) :
    DnsInterceptor × udp.Socket :=
  if _ : udp.canRecv socket = true then
    match (udp.recvSlice socket dnsBufSize).1 with
    | none => (dns, (udp.recvSlice socket dnsBufSize).2)
    | some datagram =>
      process udp (dns.answer datagram.payload).1
        (respond udp (udp.recvSlice socket dnsBufSize).2 datagram.endpoint
          (dns.answer datagram.payload).2)
  else (dns, socket)
termination_by (udp.rx socket).length
decreasing_by
  rw [respond_rx]
  exact recvSlice_shortens udp socket dnsBufSize ‹_›

/-- `DnsInterceptor::target_for`. -/
def targetFor (dns : DnsInterceptor) (addr : Ipv4Addr) (port : UInt16) : ProxyTarget :=
  if FakeDns.isFakeIp addr then
    match dns.fakeDns.lookup addr with
    | some domain => .domain domain port
    | none => .ip (.v4 addr) port
  else .ip (.v4 addr) port

/-- Every response that this call attempts to send is accepted by the transmit buffer. -/
def RepliesAccepted (udp : UdpApi) (dns : DnsInterceptor) (socket : udp.Socket) : Prop :=
  if _ : udp.canRecv socket = true then
    match (udp.recvSlice socket dnsBufSize).1 with
    | none => True
    | some datagram =>
      (∀ response, (dns.answer datagram.payload).2 = some response →
        udp.canSend (udp.recvSlice socket dnsBufSize).2 = true ∧
        (udp.sendSlice (udp.recvSlice socket dnsBufSize).2 response datagram.endpoint).1 = true) ∧
      RepliesAccepted udp (dns.answer datagram.payload).1
        (respond udp (udp.recvSlice socket dnsBufSize).2 datagram.endpoint
          (dns.answer datagram.payload).2)
  else True
termination_by (udp.rx socket).length
decreasing_by
  rw [respond_rx]
  exact recvSlice_shortens udp socket dnsBufSize ‹_›

/-! ## The loop as a run over its datagrams -/

/-- The state after a list of datagrams, and the responses to them in order, each addressed
to the sender of its datagram. -/
def answerAll (dns : DnsInterceptor) : List Datagram → DnsInterceptor × List Datagram
  | [] => (dns, [])
  | datagram :: rest =>
    let (next, response) := dns.answer datagram.payload
    let (last, responses) := answerAll next rest
    (last, (response.map fun bytes => ⟨bytes, datagram.endpoint⟩).toList ++ responses)

/-- A run over two lists is a run over the first and then over the second. -/
theorem answerAll_append (dns : DnsInterceptor) (first second : List Datagram) :
    dns.answerAll (first ++ second) =
      (((dns.answerAll first).1.answerAll second).1,
        (dns.answerAll first).2 ++ ((dns.answerAll first).1.answerAll second).2) := by
  induction first generalizing dns with
  | nil => rfl
  | cons datagram rest ih => simp [answerAll, ih, List.append_assoc]

/-- The receive loop is the run over the queued datagrams, and it empties the queue. -/
theorem process_eq_answerAll (udp : UdpApi) (queue : List Datagram) (dns : DnsInterceptor)
    (socket : udp.Socket) (queued : udp.rx socket = queue)
    (fits : ∀ datagram ∈ queue, datagram.payload.length ≤ dnsBufSize) :
    (process udp dns socket).1 = (dns.answerAll queue).1 ∧
      udp.rx (process udp dns socket).2 = [] := by
  induction queue generalizing dns socket with
  | nil =>
    have idle : ¬ udp.canRecv socket = true := by
      rw [udp.canRecv_iff, queued]
      simp
    rw [process, dif_neg idle]
    exact ⟨rfl, queued⟩
  | cons datagram rest ih =>
    have ready : udp.canRecv socket = true := by
      rw [udp.canRecv_iff, queued]
      simp
    have received := udp.recvSlice_returns socket dnsBufSize datagram rest queued
      (fits datagram List.mem_cons_self)
    have dequeued := (udp.recvSlice_dequeues socket dnsBufSize datagram rest queued).1
    rw [process, dif_pos ready]
    simp only [received]
    have next := ih (dns.answer datagram.payload).1
      (respond udp (udp.recvSlice socket dnsBufSize).2 datagram.endpoint
        (dns.answer datagram.payload).2)
      (by rw [respond_rx, dequeued]) fun other member => fits other (List.mem_cons_of_mem _ member)
    simpa [answerAll] using next

/-- When the transmit buffer accepts every response, the loop appends exactly the responses
of the run, in order. -/
theorem process_transmits (udp : UdpApi) (queue : List Datagram) (dns : DnsInterceptor)
    (socket : udp.Socket) (queued : udp.rx socket = queue)
    (fits : ∀ datagram ∈ queue, datagram.payload.length ≤ dnsBufSize)
    (accepted : RepliesAccepted udp dns socket) :
    udp.tx (process udp dns socket).2 = udp.tx socket ++ (dns.answerAll queue).2 := by
  induction queue generalizing dns socket with
  | nil =>
    have idle : ¬ udp.canRecv socket = true := by
      rw [udp.canRecv_iff, queued]
      simp
    rw [process, dif_neg idle]
    simp [answerAll]
  | cons datagram rest ih =>
    have ready : udp.canRecv socket = true := by
      rw [udp.canRecv_iff, queued]
      simp
    have received := udp.recvSlice_returns socket dnsBufSize datagram rest queued
      (fits datagram List.mem_cons_self)
    obtain ⟨dequeued, kept⟩ := udp.recvSlice_dequeues socket dnsBufSize datagram rest queued
    rw [RepliesAccepted, dif_pos ready] at accepted
    simp only [received] at accepted
    rw [process, dif_pos ready]
    simp only [received]
    rw [ih _ _ (by rw [respond_rx, dequeued])
      (fun other member => fits other (List.mem_cons_of_mem _ member)) accepted.2]
    cases response : (dns.answer datagram.payload).2 with
    | none => simp [answerAll, respond, response, kept]
    | some bytes =>
      obtain ⟨ready, sent⟩ := accepted.1 bytes response
      rw [show respond udp (udp.recvSlice socket dnsBufSize).2 datagram.endpoint (some bytes) =
        (udp.sendSlice (udp.recvSlice socket dnsBufSize).2 bytes datagram.endpoint).2 from by
          simp [respond, ready], udp.sendSlice_tx _ _ _ sent, kept]
      simp [answerAll, response, List.append_assoc]

end DnsInterceptor

end NsProxy.EventLoop
