import NsProxy.EventLoop.OutboundRelay
import NsProxy.EventLoop.PublishedRelay
import NsProxy.Lib.Readiness

/-!
# What a relay tries and what it waits for

`shuttle_established` calls a stream under conditions on its buffers and the stack socket, and
`poll_ready` polls the stream under conditions of its own. Here are the calls of one round and
the polls of one connection, for both directions of relay, and that they agree: a stream is
polled for reading exactly when a round would read from it, and likewise for writing.
-/

namespace NsProxy.EventLoop

open Smoltcp Tokio

/-- A direction in which a stream can be ready. -/
inductive Direction
  | read
  | write
  deriving DecidableEq, Repr

/-- A call on a stream. -/
inductive StreamCall
  | tryRead (size : Nat)
  | tryWrite (bytes : List UInt8)
  deriving DecidableEq, Repr

/-- The direction of a call. -/
def StreamCall.direction : StreamCall → Direction
  | tryRead _ => .read
  | tryWrite _ => .write

/-- A call that a round makes, with whether the stream is ready for it at that moment. -/
structure Attempt where
  /-- The call. -/
  call : StreamCall
  /-- The stream is ready. -/
  ready : Bool
  deriving DecidableEq, Repr

/-- The direction of an attempt. -/
def Attempt.direction (attempt : Attempt) : Direction := attempt.call.direction

/-- A kind of stream: in which directions it is ready, and what a call leaves of it. -/
structure StreamKind (σ : Type) where
  /-- Readiness. -/
  ready : σ → Direction → Bool
  /-- The stream after a call. -/
  after : σ → StreamCall → σ

/-- `TcpStream`. -/
def StreamKind.tcp : StreamKind TcpStream where
  ready
    | stream, .read => stream.readReady
    | stream, .write => stream.writeReady
  after
    | stream, .tryRead size => (stream.tryRead size).2
    | stream, .tryWrite bytes => (stream.tryWrite bytes).2

/-- `ProxyStream`: what was read ahead counts as ready, and writes go to the socket. -/
def StreamKind.proxy : StreamKind ProxyStream where
  ready
    | stream, .read => stream.pollReadReady
    | stream, .write => stream.inner.writeReady
  after
    | stream, .tryRead size => (stream.tryRead size).2
    | stream, .tryWrite bytes => { stream with inner := (stream.inner.tryWrite bytes).2 }

/-- Attempts are made one after the other on a stream, and nothing else happens to it. -/
inductive StreamKind.Made {σ : Type} (kind : StreamKind σ) : σ → List Attempt → σ → Prop
  | nil (stream : σ) : Made kind stream [] stream
  | cons {stream last : σ} {call : StreamCall} {rest : List Attempt}
    (later : Made kind (kind.after stream call) rest last) :
    Made kind stream (⟨call, kind.ready stream call.direction⟩ :: rest) last

/-- One call is one attempt, made on the stream as it finds it. -/
theorem StreamKind.Made.single {σ : Type} (kind : StreamKind σ) (stream : σ) (call : StreamCall) :
    kind.Made stream [⟨call, kind.ready stream call.direction⟩] (kind.after stream call) :=
  .cons (.nil _)

/-- Attempts made one after the other compose. -/
theorem StreamKind.Made.append {σ : Type} {kind : StreamKind σ} {first second third : σ}
    {left right : List Attempt} (one : kind.Made first left second)
    (two : kind.Made second right third) : kind.Made first (left ++ right) third := by
  induction one with
  | nil stream => exact two
  | cons later ih => exact .cons (ih two)

/-! ## The parts of a round -/

/-- An attempt that is made under a condition. -/
def attemptIf (made : Prop) [Decidable made] (call : StreamCall) (ready : Bool) : List Attempt :=
  if made then [⟨call, ready⟩] else []

/-- The attempt of a guarded call is there exactly where the guard holds. -/
theorem attemptIf_iff {made : Prop} [Decidable made] {call : StreamCall} {ready : Bool}
    {way : Direction} {flag : Bool} :
    (∃ attempt ∈ attemptIf made call ready, attempt.direction = way ∧ attempt.ready = flag) ↔
      (made ∧ way = call.direction) ∧ ready = flag := by
  unfold attemptIf
  by_cases holds : made
  · rw [if_pos holds]
    simp [Attempt.direction, holds, eq_comm]
  · rw [if_neg holds]
    simp [holds]

/-- The directions that are polled under a condition each. -/
def pollsIf (read write : Prop) [Decidable read] [Decidable write] : List Direction :=
  (if read then [.read] else []) ++ if write then [.write] else []

/-- A direction is polled exactly where its own guard holds. -/
theorem mem_pollsIf {read write : Prop} [Decidable read] [Decidable write] {way : Direction} :
    way ∈ pollsIf read write ↔ (read ∧ way = .read) ∨ (write ∧ way = .write) := by
  unfold pollsIf
  rw [List.mem_append]
  apply or_congr
  · by_cases holds : read
    · simp [holds]
    · simp [holds]
  · by_cases holds : write
    · simp [holds]
    · simp [holds]

namespace Relay

variable {stack : StackApi}

/-- The write to a stream inside `recv`, when that is called: it is tried on the bytes that `recv`
passes, if there are any. -/
def writeAttempts (called : Bool) (stream : TcpStream) (socket : stack.tcp.Socket) :
    List Attempt :=
  if called then
    match stack.tcp.recvData socket with
    | none => []
    | some [] => []
    | some data => [⟨.tryWrite data, stream.writeReady⟩]
  else []

/-- Either nothing is tried and the stream stays, or one write is. -/
theorem writeAttempts_cases (called : Bool) (stream : TcpStream) (socket : stack.tcp.Socket) :
    (writeAttempts called stream socket = [] ∧ (writeStream called stream socket).1 = stream) ∨
    ∃ data, writeAttempts called stream socket = [⟨.tryWrite data, stream.writeReady⟩] ∧
      (writeStream called stream socket).1 = (stream.tryWrite data).2 := by
  unfold writeAttempts writeStream
  cases called with
  | false => exact Or.inl ⟨rfl, rfl⟩
  | true =>
    rw [if_pos rfl, if_pos rfl]
    cases stack.tcp.recvData socket with
    | none => exact Or.inl ⟨rfl, rfl⟩
    | some data =>
      cases data with
      | nil => exact Or.inl ⟨rfl, rfl⟩
      | cons byte bytes => exact Or.inr ⟨byte :: bytes, rfl, rfl⟩

/-- The write is tried exactly when the socket has bytes. -/
theorem writeAttempts_iff (buffers : TcpBuffers stack.tcp) {called : Bool} {stream : TcpStream}
    {socket : stack.tcp.Socket} (able : called = stack.tcp.canRecv socket) {way : Direction}
    {flag : Bool} :
    (∃ attempt ∈ writeAttempts called stream socket,
      attempt.direction = way ∧ attempt.ready = flag) ↔
      (stack.tcp.canRecv socket = true ∧ way = .write) ∧ stream.writeReady = flag := by
  unfold writeAttempts
  rw [able]
  cases holds : stack.tcp.canRecv socket with
  | false => simp
  | true =>
    obtain ⟨data, passed, nonempty⟩ := buffers.recvData_some socket holds
    rw [passed]
    cases data with
    | nil => contradiction
    | cons byte bytes => simp [Attempt.direction, StreamCall.direction, eq_comm]

end Relay

/-! ## Outbound connections -/

namespace OutboundTcp

open Outbound

variable {stack : StackApi}

/-- The write of a round. -/
def writeAttempts (context : ForwardContext) (socket : stack.tcp.Socket) : List Attempt :=
  Relay.writeAttempts (stack.tcp.mayRecv socket && stack.tcp.canRecv socket) context.stream.inner
    socket

/-- The read of a round. -/
def readAttempts (context : ForwardContext) : List Attempt :=
  attemptIf (context.proxyReadState = .open ∧ context.proxyToApp.length < tcpBufSize)
    (.tryRead (tcpBufSize - context.proxyToApp.length)) context.stream.pollReadReady

/-- The attempts of a round of `shuttle_established` on one connection. -/
def attempts (context : ForwardContext) (socket : stack.tcp.Socket) : List Attempt :=
  writeAttempts context socket ++ readAttempts (writeProxy context socket).1

/-- The polls of `poll_ready` on one connection. -/
def polls (context : ForwardContext) (socket : stack.tcp.Socket) : List Direction :=
  pollsIf (context.proxyReadState = .open ∧ context.proxyToApp.length < tcpBufSize)
    (stack.tcp.canRecv socket = true)

/-- The write to the proxy makes its attempts and does nothing else to the stream. -/
theorem made_writeProxy (context : ForwardContext) (socket : stack.tcp.Socket) :
    StreamKind.proxy.Made context.stream (writeAttempts context socket)
      (writeProxy context socket).1.stream := by
  rw [writeProxy_eq, writeAttempts, wroteProxy]
  rcases Relay.writeAttempts_cases (stack.tcp.mayRecv socket && stack.tcp.canRecv socket)
    context.stream.inner socket with ⟨nothing, same⟩ | ⟨data, tried, written⟩
  · rw [nothing, same]
    exact .nil _
  · rw [tried, written]
    exact .single .proxy context.stream (.tryWrite data)

/-- The read from the proxy makes its attempts and does nothing else to the stream. -/
theorem made_readProxy (context : ForwardContext) (socket : stack.tcp.Socket) :
    StreamKind.proxy.Made context.stream (readAttempts context)
      (readProxy context socket).1.stream := by
  unfold readAttempts attemptIf
  by_cases reads : context.proxyReadState = .open ∧ context.proxyToApp.length < tcpBufSize
  · have made := readProxy_made socket (show Reads context from reads) rfl
    rw [if_pos reads, made.1]
    exact .single .proxy context.stream (.tryRead (tcpBufSize - context.proxyToApp.length))
  · rw [if_neg reads, readProxy, if_neg reads]
    exact .nil _

/-- The attempts of a round are all that happens to the stream. -/
theorem made_shuttle (context : ForwardContext) (socket : stack.tcp.Socket) :
    StreamKind.proxy.Made context.stream (attempts context socket)
      (shuttle context socket).1.stream := by
  have wrote := made_writeProxy context socket
  have read := made_readProxy (writeProxy context socket).1 (writeProxy context socket).2
  have sent : (shuttle context socket).1.stream =
      (readProxy (writeProxy context socket).1 (writeProxy context socket).2).1.stream := by
    unfold shuttle
    simp only [sendApp_eq]
  rw [sent]
  exact wrote.append read

/-- A connection is polled for exactly what a round on it would try. -/
theorem polls_match (buffers : TcpBuffers stack.tcp) :
    Readiness.Matches Attempt.direction Attempt.ready
      (fun found : ForwardContext × stack.tcp.Socket => polls found.1 found.2)
      (fun found => StreamKind.proxy.ready found.1.stream)
      (fun found => attempts found.1 found.2) := by
  rintro ⟨context, socket⟩ way flag
  have called : (stack.tcp.mayRecv socket && stack.tcp.canRecv socket) =
      stack.tcp.canRecv socket := by
    rw [Bool.and_eq_right_iff_imp]
    intro able
    rw [buffers.mayRecv_iff]
    exact Or.inr (Or.inr (Or.inr ((buffers.canRecv_iff socket).mp able)))
  -- The write leaves alone what the read looks at.
  have writes := writeProxy_writes buffers context socket
  have stays : (writeProxy context socket).1.stream.pollReadReady =
      context.stream.pollReadReady := by
    rw [ProxyStream.pollReadReady, ProxyStream.hasBufferedData, TcpStream.readReady,
      writes.buffered, writes.incoming]
    rfl
  simp only [attempts, writeAttempts, readAttempts, polls, mem_pollsIf, List.mem_append,
    or_and_right, exists_or, Relay.writeAttempts_iff buffers called, attemptIf_iff,
    writes.proxyReadState, writes.proxyToApp, stays]
  cases way with
  | read => simp [StreamKind.proxy, StreamCall.direction]
  | write => simp [StreamKind.proxy, StreamCall.direction]

end OutboundTcp

/-! ## Published connections -/

namespace PublishedTcp

open Published

variable {stack : StackApi}

/-- The read of a round. -/
def readAttempts (context : ConnectionContext) : List Attempt :=
  attemptIf (context.closeAfterDrain = false ∧ context.hostToNamespace.length < tcpBufSize)
    (.tryRead (tcpBufSize - context.hostToNamespace.length)) context.stream.readReady

/-- The write of a round. -/
def writeAttempts (context : ConnectionContext) (socket : stack.tcp.Socket) : List Attempt :=
  Relay.writeAttempts (stack.tcp.canRecv socket) context.stream socket

/-- The attempts of a round of `shuttle_established` on one connection. -/
def attempts (context : ConnectionContext) (socket : stack.tcp.Socket) : List Attempt :=
  let (next, _) := readHost context
  let (next, socket, _) := sendNamespace next socket
  readAttempts context ++ writeAttempts next socket

/-- The polls of `poll_ready` on one connection. -/
def polls (context : ConnectionContext) (socket : stack.tcp.Socket) : List Direction :=
  pollsIf (context.closeAfterDrain = false ∧ context.hostToNamespace.length < tcpBufSize)
    (stack.tcp.canRecv socket = true)

/-- The read from the host makes its attempts and does nothing else to the stream. -/
theorem made_readHost (context : ConnectionContext) :
    StreamKind.tcp.Made context.stream (readAttempts context) (readHost context).1.stream := by
  unfold readAttempts attemptIf
  by_cases reads : context.closeAfterDrain = false ∧ context.hostToNamespace.length < tcpBufSize
  · have made := readHost_made (show Reads context from reads) rfl
    rw [if_pos reads, made.1]
    exact .single .tcp context.stream (.tryRead (tcpBufSize - context.hostToNamespace.length))
  · rw [if_neg reads, readHost, if_neg reads]
    exact .nil _

/-- The write to the host makes its attempts and does nothing else to the stream. -/
theorem made_writeHost (context : ConnectionContext) (socket : stack.tcp.Socket) :
    StreamKind.tcp.Made context.stream (writeAttempts context socket)
      (writeHost context socket).1.stream := by
  rw [writeHost_eq, writeAttempts]
  rcases Relay.writeAttempts_cases (stack.tcp.canRecv socket) context.stream socket with
    ⟨nothing, same⟩ | ⟨data, tried, written⟩
  · rw [nothing, same]
    exact .nil _
  · rw [tried, written]
    exact .single .tcp context.stream (.tryWrite data)

/-- The send into the namespace leaves the host stream alone. -/
theorem stream_sendNamespace (context : ConnectionContext) (socket : stack.tcp.Socket) :
    (sendNamespace context socket).1.stream = context.stream := by
  rw [sendNamespace_eq]

/-- The attempts of a round are all that happens to the stream. -/
theorem made_shuttle (context : ConnectionContext) (socket : stack.tcp.Socket) :
    StreamKind.tcp.Made context.stream (attempts context socket)
      (shuttle context socket).1.stream := by
  have read := made_readHost context
  have wrote := made_writeHost (sendNamespace (readHost context).1 socket).1
    (sendNamespace (readHost context).1 socket).2.1
  rw [stream_sendNamespace] at wrote
  have noted : (shuttle context socket).1.stream =
      (writeHost (sendNamespace (readHost context).1 socket).1
        (sendNamespace (readHost context).1 socket).2.1).1.stream := by
    unfold shuttle
    obtain ⟨mark, marked, -⟩ := noteNamespaceEof_eq
      (writeHost (sendNamespace (readHost context).1 socket).1
        (sendNamespace (readHost context).1 socket).2.1).1
      (writeHost (sendNamespace (readHost context).1 socket).1
        (sendNamespace (readHost context).1 socket).2.1).2.1
    simp only [marked]
  rw [noted]
  exact read.append wrote

/-- The read leaves the readiness for writing alone. -/
theorem writeReady_readHost (context : ConnectionContext) :
    (readHost context).1.stream.writeReady = context.stream.writeReady := by
  by_cases reads : Reads context
  · rw [(readHost_made reads rfl).1]
    exact context.stream.writeReady_tryRead _
  · unfold Reads at reads
    rw [readHost, if_neg reads]

/-- Sending to the namespace leaves what it sent alone. -/
theorem canRecv_sendNamespace (buffers : TcpBuffers stack.tcp) (context : ConnectionContext)
    (socket : stack.tcp.Socket) :
    stack.tcp.canRecv (sendNamespace context socket).2.1 = stack.tcp.canRecv socket := by
  have sent := Relay.sendBuffer_sent buffers context.hostToNamespace socket
  rw [Bool.eq_iff_iff, buffers.canRecv_iff, buffers.canRecv_iff, sendNamespace_eq, sent.rx]

/-- A connection is polled for exactly what a round on it would try. -/
theorem polls_match (buffers : TcpBuffers stack.tcp) :
    Readiness.Matches Attempt.direction Attempt.ready
      (fun found : ConnectionContext × stack.tcp.Socket => polls found.1 found.2)
      (fun found => StreamKind.tcp.ready found.1.stream)
      (fun found => attempts found.1 found.2) := by
  rintro ⟨context, socket⟩ way flag
  have wrote := @Relay.writeAttempts_iff stack buffers _ (readHost context).1.stream _
    (canRecv_sendNamespace buffers (readHost context).1 socket).symm way flag
  rw [canRecv_sendNamespace buffers, writeReady_readHost] at wrote
  simp only [attempts, writeAttempts, readAttempts, polls, mem_pollsIf, List.mem_append,
    or_and_right, exists_or, canRecv_sendNamespace buffers, stream_sendNamespace, wrote,
    attemptIf_iff]
  cases way with
  | read => simp [StreamKind.tcp, StreamCall.direction]
  | write => simp [StreamKind.tcp, StreamCall.direction]

end PublishedTcp

end NsProxy.EventLoop
