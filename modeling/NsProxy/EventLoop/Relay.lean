import NsProxy.EventLoop.Outbound
import NsProxy.Smoltcp.Buffers

/-!
# The moves of bytes in a relay

Both relays move bytes between a stack socket and a stream in the same two ways: what the socket
has received is written to the stream from inside `recv`, and what waits in a buffer is passed to
`send_slice`. Here is what either does, whatever the calls return.
-/

namespace NsProxy.EventLoop

open Smoltcp Tokio

namespace Relay

variable {stack : StackApi}

/-- An error other than `WouldBlock`. -/
def isFailure {α : Type} : Except IoError α → Bool
  | .error (.other _) => true
  | _ => false

/-- What a read brings into the free space of a buffer fits there. -/
theorem length_append_returned {buffer : List UInt8} {result : Except IoError (List UInt8)}
    (fits : ∀ bytes, result = .ok bytes → bytes.length ≤ tcpBufSize - buffer.length)
    (small : buffer.length ≤ tcpBufSize) :
    (buffer ++ ProxyStream.returned result).length ≤ tcpBufSize := by
  rw [List.length_append]
  cases result with
  | ok bytes =>
    have short := fits bytes rfl
    show buffer.length + bytes.length ≤ tcpBufSize
    omega
  | error error => exact small

/-! ## From the socket to the stream -/

/-- `recv` with a closure that writes to a stream, when it is called: the stream and the socket
after it, and whether the write failed. -/
def writeStream (called : Bool) (stream : TcpStream) (socket : stack.tcp.Socket) :
    TcpStream × stack.tcp.Socket × Bool :=
  if called then
    match stack.tcp.recvData socket with
    | none => (stream, socket, false)
    | some [] => (stream, stack.tcp.recvConsume socket 0, false)
    | some data =>
      let (result, next) := stream.tryWrite data
      (next, stack.tcp.recvConsume socket (TcpStream.taken result), isFailure result)
  else (stream, socket, false)

/-- The number of bytes that the stream takes of what `recv` passes. -/
def writeCount (called : Bool) (stream : TcpStream) (socket : stack.tcp.Socket) : Nat :=
  if called then
    match stack.tcp.recvData socket with
    | none | some [] => 0
    | some data => TcpStream.taken (stream.tryWrite data).1
  else 0

/-- What the write leaves: bytes from the front of the receive queue went to the stream. -/
structure Wrote (buffers : TcpBuffers stack.tcp) (stream next : TcpStream)
    (socket used : stack.tcp.Socket) (failed : Bool) (count : Nat) : Prop where
  /-- Nothing is read. -/
  incoming : next.incoming = stream.incoming
  /-- The bytes are written. -/
  written : next.written = stream.written ++ (buffers.rx socket).take count
  /-- The bytes are consumed. -/
  consumed : buffers.rx used = (buffers.rx socket).drop count
  /-- The state is kept. -/
  state : stack.tcp.state used = stack.tcp.state socket
  /-- The send queue is left alone. -/
  sendQueue : stack.tcp.sendQueue used = stack.tcp.sendQueue socket
  /-- A failed write takes nothing. -/
  failed : failed = true → count = 0

/-- Nothing is written. -/
theorem wrote_nothing (buffers : TcpBuffers stack.tcp) (stream : TcpStream)
    (socket : stack.tcp.Socket) : Wrote buffers stream stream socket socket false 0 where
  incoming := rfl
  written := by rw [List.take_zero, List.append_nil]
  consumed := rfl
  state := rfl
  sendQueue := rfl
  failed _ := rfl

/-- A failed call has taken nothing. -/
theorem taken_of_isFailure {result : Except IoError Nat} (failed : isFailure result = true) :
    TcpStream.taken result = 0 := by
  cases result with
  | ok count => contradiction
  | error error => rfl

/-- The write takes bytes from the front of the receive queue alone. -/
theorem writeStream_wrote (buffers : TcpBuffers stack.tcp) (called : Bool) (stream : TcpStream)
    (socket : stack.tcp.Socket) :
    Wrote buffers stream (writeStream called stream socket).1 socket
      (writeStream called stream socket).2.1 (writeStream called stream socket).2.2
      (writeCount called stream socket) := by
  unfold writeStream writeCount
  cases called with
  | false => exact wrote_nothing buffers stream socket
  | true =>
    rw [if_pos rfl, if_pos rfl]
    cases passed : stack.tcp.recvData socket with
    | none => exact wrote_nothing buffers stream socket
    | some data =>
      cases data with
      | nil =>
        have same : buffers.rx (stack.tcp.recvConsume socket 0) = buffers.rx socket :=
          buffers.recvConsume_rx socket [] 0 passed (Nat.le_refl _)
        exact ⟨rfl, by simp, same, buffers.recvConsume_state socket 0,
          buffers.recvConsume_sendQueue socket 0, fun _ => rfl⟩
      | cons byte bytes =>
        obtain ⟨small, written⟩ := stream.written_tryWrite (byte :: bytes)
        obtain ⟨rest, parts⟩ := buffers.recvData_begins socket (byte :: bytes) passed
        constructor
        · exact stream.incoming_tryWrite (byte :: bytes)
        · show (stream.tryWrite (byte :: bytes)).2.written = _
          rw [written, ← parts, List.take_append_of_le_length small]
        · exact buffers.recvConsume_rx socket (byte :: bytes) _ passed small
        · exact buffers.recvConsume_state socket _
        · exact buffers.recvConsume_sendQueue socket _
        · exact taken_of_isFailure

/-! ## From the buffer to the socket -/

/-- The bytes that `send_slice` is offered. -/
def offered (buffer : List UInt8) (socket : stack.tcp.Socket) : List UInt8 :=
  buffer.take (min (tcpBufSize - stack.tcp.sendQueue socket) buffer.length)

/-- `send_slice` is called. -/
def Sends (buffer : List UInt8) (socket : stack.tcp.Socket) : Prop :=
  (buffer ≠ [] ∧ stack.tcp.canSend socket = true) ∧
    0 < min (tcpBufSize - stack.tcp.sendQueue socket) buffer.length

instance (buffer : List UInt8) (socket : stack.tcp.Socket) : Decidable (Sends buffer socket) :=
  inferInstanceAs (Decidable (_ ∧ _))

/-- What becomes of the buffer and the socket, and whether the send failed. -/
def sendBuffer (buffer : List UInt8) (socket : stack.tcp.Socket) :
    List UInt8 × stack.tcp.Socket × Bool :=
  if Sends buffer socket then
    match stack.tcp.sendSlice socket (offered buffer socket) with
    | (some sent, socket) => (buffer.drop sent, socket, false)
    | (none, socket) => (buffer, socket, true)
  else (buffer, socket, false)

/-- The bytes that the send buffer takes: the first of those it is offered. -/
def handedBy (buffer : List UInt8) (socket : stack.tcp.Socket) : List UInt8 :=
  if Sends buffer socket then
    match (stack.tcp.sendSlice socket (offered buffer socket)).1 with
    | some sent => (offered buffer socket).take sent
    | none => []
  else []

/-- What the send leaves: the send buffer has taken bytes from the front of those that wait. -/
structure Sent (buffers : TcpBuffers stack.tcp) (buffer left : List UInt8)
    (socket used : stack.tcp.Socket) (failed : Bool) (handed : List UInt8) : Prop where
  /-- The bytes come from the front of those that wait. -/
  parts : buffer = handed ++ left
  /-- The bytes are queued. -/
  queued : failed = false →
    stack.tcp.sendQueue used = stack.tcp.sendQueue socket + handed.length
  /-- The state is kept. -/
  state : stack.tcp.state used = stack.tcp.state socket
  /-- The receive queue is left alone. -/
  rx : buffers.rx used = buffers.rx socket

/-- The send takes bytes from the front of the buffer alone. -/
theorem sendBuffer_sent (buffers : TcpBuffers stack.tcp) (buffer : List UInt8)
    (socket : stack.tcp.Socket) :
    Sent buffers buffer (sendBuffer buffer socket).1 socket (sendBuffer buffer socket).2.1
      (sendBuffer buffer socket).2.2 (handedBy buffer socket) := by
  unfold sendBuffer handedBy
  by_cases sends : Sends buffer socket
  · have rx := buffers.sendSlice_rx socket (offered buffer socket)
    have state := buffers.sendSlice_state socket (offered buffer socket)
    rw [if_pos sends, if_pos sends]
    rcases outcome : stack.tcp.sendSlice socket (offered buffer socket) with ⟨result, next⟩
    rw [outcome] at rx state
    cases result with
    | none => exact ⟨rfl, by simp, state, rx⟩
    | some count =>
      have small := buffers.sendSlice_count socket _ count next outcome
      have taken : (offered buffer socket).take count = buffer.take count := by
        unfold offered at small ⊢
        rw [List.length_take] at small
        rw [List.take_take]
        congr 1
        omega
      have long : count ≤ buffer.length := by
        unfold offered at small
        rw [List.length_take] at small
        omega
      constructor
      · show buffer = (offered buffer socket).take count ++ buffer.drop count
        rw [taken, List.take_append_drop]
      · intro _
        show stack.tcp.sendQueue next = _ + ((offered buffer socket).take count).length
        rw [buffers.sendSlice_sendQueue socket _ count next outcome, taken, List.length_take]
        omega
      · exact state
      · exact rx
  · rw [if_neg sends, if_neg sends]
    exact ⟨rfl, fun _ => rfl, rfl, rfl⟩

end Relay

end NsProxy.EventLoop
