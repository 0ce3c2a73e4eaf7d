import NsProxy.Smoltcp.Tcp

/-!
# The buffers of a TCP socket

What the relays rely on in the stack: the receive queue is read from its front, the send buffer
takes bytes from the front of what it is offered, and the predicates of a socket are those of its
state and its buffers.
-/

namespace NsProxy.Smoltcp

/-- The documented behaviour of the operations that move bytes. -/
structure TcpBuffers (tcp : TcpApi) where
  /-- The bytes of the receive queue, oldest first. -/
  rx : tcp.Socket → List UInt8
  /-- `recv` passes bytes from the front of the queue. -/
  recvData_begins : ∀ socket data, tcp.recvData socket = some data → data <+: rx socket
  /-- `recv` consumes as many bytes as its closure reports. -/
  recvConsume_rx : ∀ socket data count, tcp.recvData socket = some data → count ≤ data.length →
    rx (tcp.recvConsume socket count) = (rx socket).drop count
  /-- While bytes wait, `recv` passes some of them. -/
  recvData_some : ∀ socket, tcp.canRecv socket = true →
    ∃ data, tcp.recvData socket = some data ∧ data ≠ []
  /-- `recv` does not change the state. -/
  recvConsume_state : ∀ socket count, tcp.state (tcp.recvConsume socket count) = tcp.state socket
  /-- `recv` leaves the send queue alone. -/
  recvConsume_sendQueue : ∀ socket count,
    tcp.sendQueue (tcp.recvConsume socket count) = tcp.sendQueue socket
  /-- `send_slice` takes at most what it is offered. -/
  sendSlice_count : ∀ socket bytes count next, tcp.sendSlice socket bytes = (some count, next) →
    count ≤ bytes.length
  /-- What `send_slice` takes is queued. -/
  sendSlice_sendQueue : ∀ socket bytes count next,
    tcp.sendSlice socket bytes = (some count, next) →
      tcp.sendQueue next = tcp.sendQueue socket + count
  /-- `send_slice` leaves the receive queue alone. -/
  sendSlice_rx : ∀ socket bytes, rx (tcp.sendSlice socket bytes).2 = rx socket
  /-- `send_slice` does not change the state. -/
  sendSlice_state : ∀ socket bytes,
    tcp.state (tcp.sendSlice socket bytes).2 = tcp.state socket
  /-- `abort` closes the socket. -/
  abort_state : ∀ socket, tcp.state (tcp.abort socket) = .closed
  /-- `may_recv`: the other side may still send, or bytes wait. -/
  mayRecv_iff : ∀ socket, tcp.mayRecv socket = true ↔ tcp.state socket = .established ∨
    tcp.state socket = .finWait1 ∨ tcp.state socket = .finWait2 ∨ rx socket ≠ []
  /-- `can_recv`: bytes wait. -/
  canRecv_iff : ∀ socket, tcp.canRecv socket = true ↔ rx socket ≠ []
  /-- `may_send`: this side may still send. -/
  maySend_iff : ∀ socket, tcp.maySend socket = true ↔ tcp.state socket = .established ∨
    tcp.state socket = .closeWait
  /-- `can_send` needs `may_send`. -/
  maySend_of_canSend : ∀ socket, tcp.canSend socket = true → tcp.maySend socket = true
  /-- `recv_queue`. -/
  recvQueue_eq : ∀ socket, tcp.recvQueue socket = (rx socket).length

namespace TcpBuffers

variable {tcp : TcpApi}

/-- An aborted socket sends nothing more. -/
theorem maySend_abort (buffers : TcpBuffers tcp) (socket : tcp.Socket) :
    tcp.maySend (tcp.abort socket) = false := by
  rw [Bool.eq_false_iff, Ne, buffers.maySend_iff, buffers.abort_state]
  simp

end TcpBuffers

end NsProxy.Smoltcp
