import NsProxy.Net

/-!
# TCP sockets of the stack

The operations of `tcp::Socket` that the program calls. The stack itself is not part of the
program: what an operation does to a socket stays open here, and what a result needs to know
about it is a hypothesis of that result.
-/

namespace NsProxy.Smoltcp

/-- `tcp::State`. -/
inductive TcpState
  | closed
  | listen
  | synSent
  | synReceived
  | established
  | finWait1
  | finWait2
  | closeWait
  | closing
  | lastAck
  | timeWait
  deriving DecidableEq, Repr

/-- The operations of `tcp::Socket` that the program uses. -/
structure TcpApi where
  /-- `tcp::Socket`. -/
  Socket : Type
  /-- A socket with empty buffers of `TCP_BUF_SIZE` bytes, as `new_tcp_socket` makes it. -/
  new : Socket
  /-- `listen` on a port of any address; `none` is an error. -/
  listen : Socket → UInt16 → Option Socket
  /-- `state`. -/
  state : Socket → TcpState
  /-- `local_endpoint`. -/
  localEndpoint : Socket → Option Endpoint
  /-- `remote_endpoint`. -/
  remoteEndpoint : Socket → Option Endpoint
  /-- `abort`. -/
  abort : Socket → Socket
  /-- `may_recv`. -/
  mayRecv : Socket → Bool
  /-- `can_recv`. -/
  canRecv : Socket → Bool
  /-- `may_send`. -/
  maySend : Socket → Bool
  /-- `can_send`. -/
  canSend : Socket → Bool
  /-- `send_queue`. -/
  sendQueue : Socket → Nat
  /-- `recv_queue`. -/
  recvQueue : Socket → Nat
  /-- `send_slice`: the number of bytes taken from the front; `none` is an error. -/
  sendSlice : Socket → List UInt8 → Option Nat × Socket
  /-- The bytes that `recv` passes to its closure; `none` is an error. -/
  recvData : Socket → Option (List UInt8)
  /-- What `recv` does with the number of bytes that its closure reports. -/
  recvConsume : Socket → Nat → Socket

end NsProxy.Smoltcp
