import NsProxy.Net

/-!
# UDP sockets of the stack

The stack itself is not part of the program. The program's view of a UDP socket is a record
of the operations it calls, together with what the documentation of those operations
promises: a receive takes the oldest datagram off the queue, a successful send appends one.
How many replies the transmit buffer takes stays open.
-/

namespace NsProxy.Smoltcp

/-- `SocketHandle`: an index into the socket set. -/
abbrev SocketHandle : Type := Nat

/-- One datagram with the endpoint it came from, or goes to. -/
structure Datagram where
  /-- The payload. -/
  payload : List UInt8
  /-- `UdpMetadata::endpoint`. -/
  endpoint : Endpoint
  deriving DecidableEq

/-- The operations of `udp::Socket` that the program uses, with their documented behaviour. -/
structure UdpApi where
  /-- `udp::Socket`. -/
  Socket : Type
  /-- Datagrams waiting to be received, oldest first. -/
  rx : Socket → List Datagram
  /-- Datagrams waiting to be transmitted, oldest first. -/
  tx : Socket → List Datagram
  /-- `can_recv`. -/
  canRecv : Socket → Bool
  /-- `recv_slice` into a buffer of the given size; `none` is an error. -/
  recvSlice : Socket → Nat → Option Datagram × Socket
  /-- `can_send`. -/
  canSend : Socket → Bool
  /-- `send_slice`; `false` is an error. -/
  sendSlice : Socket → List UInt8 → Endpoint → Bool × Socket
  /-- A socket can receive while a datagram waits. -/
  canRecv_iff : ∀ socket, canRecv socket = true ↔ rx socket ≠ []
  /-- A receive dequeues one datagram, whether or not it fits the buffer. -/
  recvSlice_dequeues : ∀ socket size datagram rest, rx socket = datagram :: rest →
    rx (recvSlice socket size).2 = rest ∧ tx (recvSlice socket size).2 = tx socket
  /-- A datagram that fits the buffer is returned with its sender. -/
  recvSlice_returns : ∀ socket size datagram rest, rx socket = datagram :: rest →
    datagram.payload.length ≤ size → (recvSlice socket size).1 = some datagram
  /-- Sending does not touch the receive queue. -/
  sendSlice_rx : ∀ socket payload endpoint,
    rx (sendSlice socket payload endpoint).2 = rx socket
  /-- A successful send enqueues one datagram. -/
  sendSlice_tx : ∀ socket payload endpoint, (sendSlice socket payload endpoint).1 = true →
    tx (sendSlice socket payload endpoint).2 = tx socket ++ [⟨payload, endpoint⟩]

/-- A socket of two queues whose transmit queue takes `limit` datagrams. -/
def queueUdp (limit : Nat) : UdpApi where
  Socket := List Datagram × List Datagram
  rx := Prod.fst
  tx := Prod.snd
  canRecv socket := !socket.1.isEmpty
  recvSlice socket size :=
    match socket.1 with
    | [] => (none, socket)
    | datagram :: rest =>
      (if datagram.payload.length ≤ size then some datagram else none, (rest, socket.2))
  canSend socket := socket.2.length < limit
  sendSlice socket payload endpoint :=
    if socket.2.length < limit then (true, (socket.1, socket.2 ++ [⟨payload, endpoint⟩]))
    else (false, socket)
  canRecv_iff socket := by simp
  recvSlice_dequeues := by
    intro socket size datagram rest queued
    simp [queued]
  recvSlice_returns := by
    intro socket size datagram rest queued fits
    simp [queued, fits]
  sendSlice_rx := by
    intro socket payload endpoint
    split <;> rfl
  sendSlice_tx := by
    intro socket payload endpoint sent
    split at sent
    · rename_i room
      simp [room]
    · contradiction

end NsProxy.Smoltcp
