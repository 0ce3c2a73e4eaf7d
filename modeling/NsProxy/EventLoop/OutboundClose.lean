import NsProxy.EventLoop.OutboundRelay

/-!
# What an outbound connection leaves behind when it closes

A run without a failed call and without a reset, round by round. `shuttle_established` closes
the connection when the proxy has ended and everything it sent was delivered, and also when the
application has ended and everything it sent was written. Neither condition looks at the other
direction, so a round closes without loss exactly when the other direction is empty too.
-/

namespace NsProxy.EventLoop

open Smoltcp Tokio Outbound

namespace OutboundTcp

variable {stack : StackApi}

/-! ## Runs without failures -/

/-- A round in which no call fails, on a socket that was not reset. -/
structure CleanRound (context : ForwardContext) (socket : stack.tcp.Socket) : Prop where
  /-- The application may have ended its direction. -/
  state : stack.tcp.state socket = .established ∨ stack.tcp.state socket = .closeWait
  /-- The write does not fail. -/
  write : writeFails context socket = false
  /-- The read does not fail. -/
  read : readFails (writeProxy context socket).1 = false
  /-- The send does not fail. -/
  send : sendFails (readProxy (writeProxy context socket).1 (writeProxy context socket).2).1
    (readProxy (writeProxy context socket).1 (writeProxy context socket).2).2 = false

/-- The next round of a connection: the stack may have received bytes, and whatever else. -/
def Follows (buffers : TcpBuffers stack.tcp) (round next : ForwardContext × stack.tcp.Socket) :
    Prop :=
  ∃ used more, shuttle round.1 round.2 = (next.1, used, false) ∧
    buffers.rx next.2 = buffers.rx used ++ more

/-- The rounds of a connection from its start on. -/
structure CleanRun (buffers : TcpBuffers stack.tcp)
    (rounds : List (ForwardContext × stack.tcp.Socket)) : Prop where
  /-- The upstream connection is new. -/
  starts : ∀ round ∈ rounds.head?, ∃ stream, round.1 = ⟨stream, [], .open⟩
  /-- Each round goes on to the next. -/
  follows : rounds.IsChain (Follows buffers)
  /-- No round fails. -/
  clean : ∀ round ∈ rounds, CleanRound round.1 round.2

/-- Nothing is left in a buffer, a send queue or a receive queue. -/
def Lossless (buffers : TcpBuffers stack.tcp) (left : ForwardContext × stack.tcp.Socket) : Prop :=
  left.1.proxyToApp = [] ∧ stack.tcp.sendQueue left.2 = 0 ∧ buffers.rx left.2 = []

/-- Then all that was read from the proxy was handed over, and all that was received from the
application was written. -/
theorem Lossless.delivered {buffers : TcpBuffers stack.tcp} {point : Point}
    {context : ForwardContext} {socket : stack.tcp.Socket} {account : Account}
    (lossless : Lossless buffers (context, socket))
    (reached : Connection.Reachable buffers (.established point context socket account))
    (unbroken : account.aborted = none) :
    account.handed = account.fetched ∧
      context.stream.inner.written = account.base ++ account.received := by
  have exact : Exact buffers point context socket account := reached.sound buffers
  have toProxy := exact.toProxy
  unfold Account.queue at toProxy
  rw [unbroken, Option.getD_none] at toProxy
  exact ⟨exact.toApp.drained lossless.1, toProxy.drained lossless.2.2⟩

/-! ## The condition, before a round -/

/-- The proxy has ended, or the read of this round finds its end. -/
def ProxyEnds (context : ForwardContext) : Prop :=
  context.proxyReadState = .eof ∨ ReadsEof context

/-- Nothing from the proxy waits, is unacknowledged, or is brought by the read of this round. -/
def ProxyIdle (context : ForwardContext) (socket : stack.tcp.Socket) : Prop :=
  context.proxyToApp = [] ∧ stack.tcp.sendQueue socket = 0 ∧ readBytes context = []

/-- The write of this round takes all that was received. -/
def TakesAll (buffers : TcpBuffers stack.tcp) (context : ForwardContext)
    (socket : stack.tcp.Socket) : Prop :=
  (buffers.rx socket).length ≤ writeCount context socket

/-- When one direction is over in a round, so is the other. -/
def EndsTogether (buffers : TcpBuffers stack.tcp) (context : ForwardContext)
    (socket : stack.tcp.Socket) : Prop :=
  (ProxyEnds context ∧ ProxyIdle context socket → TakesAll buffers context socket) ∧
    (stack.tcp.state socket = .closeWait ∧ TakesAll buffers context socket →
      ProxyIdle context socket)

/-! ## What a clean round does -/

/-- The write leaves what the read will do as it was. -/
theorem readBytes_writeProxy (buffers : TcpBuffers stack.tcp) (context : ForwardContext)
    (socket : stack.tcp.Socket) :
    readBytes (writeProxy context socket).1 = readBytes context ∧
      (ReadsEof (writeProxy context socket).1 ↔ ReadsEof context) := by
  have writes := writeProxy_writes buffers context socket
  have same := ProxyStream.tryRead_congr writes.buffered writes.incoming
  have called : Reads (writeProxy context socket).1 ↔ Reads context := by
    unfold Reads
    rw [writes.proxyToApp, writes.proxyReadState]
  constructor
  · unfold readBytes
    by_cases reads : Reads context
    · rw [if_pos reads, if_pos (called.mpr reads), writes.proxyToApp, same]
    · rw [if_neg reads, if_neg (called.not.mpr reads)]
  · unfold ReadsEof
    rw [called, writes.proxyToApp, same]

/-- What the transfers of a clean round leave. -/
structure Transfers (buffers : TcpBuffers stack.tcp) (context : ForwardContext)
    (socket : stack.tcp.Socket) : Prop where
  /-- The state of the socket is kept. -/
  state : stack.tcp.state (transfer context socket).2 = stack.tcp.state socket
  /-- What the write does not take stays queued. -/
  rx : buffers.rx (transfer context socket).2 =
    (buffers.rx socket).drop (writeCount context socket)
  /-- The bytes from the proxy are queued or wait. -/
  toApp : ∃ handed, context.proxyToApp ++ readBytes context =
      handed ++ (transfer context socket).1.proxyToApp ∧
    stack.tcp.sendQueue (transfer context socket).2 = stack.tcp.sendQueue socket + handed.length
  /-- The end is known when it was or is found. -/
  eof : (transfer context socket).1.proxyReadState = .eof ↔ ProxyEnds context

/-- A clean round moves bytes and aborts nothing. -/
theorem CleanRound.transfers (buffers : TcpBuffers stack.tcp) {context : ForwardContext}
    {socket : stack.tcp.Socket} (clean : CleanRound context socket) :
    Transfers buffers context socket := by
  have writes := writeProxy_writes buffers context socket
  have reads := readProxy_readsOn (writeProxy context socket).1 (writeProxy context socket).2
  have sends := sendApp_sendsOn buffers
    (readProxy (writeProxy context socket).1 (writeProxy context socket).2).1
    (readProxy (writeProxy context socket).1 (writeProxy context socket).2).2
  obtain ⟨brought, ends⟩ := readBytes_writeProxy buffers context socket
  have kept := reads.kept clean.read
  obtain ⟨state, rx⟩ := sends.kept clean.send
  obtain ⟨written, queued⟩ := writes.kept clean.write
  constructor
  · exact state.trans (by rw [kept, written])
  · exact rx.trans (by rw [kept, writes.consumed clean.write])
  · have handed := sends.handed
    have before : stack.tcp.sendQueue
        (readProxy (writeProxy context socket).1 (writeProxy context socket).2).2 =
        stack.tcp.sendQueue socket := by rw [kept, queued]
    rw [reads.proxyToApp, writes.proxyToApp, brought] at handed
    rw [← before]
    exact ⟨_, handed, sends.queued clean.send⟩
  · have eof := reads.eof
    rw [writes.proxyReadState, ends] at eof
    show (sendApp _ _).1.proxyReadState = .eof ↔ _
    rw [sends.proxyReadState]
    exact eof

/-- The receive queue is empty after the round when the write takes all of it. -/
theorem Transfers.rx_nil {buffers : TcpBuffers stack.tcp} {context : ForwardContext}
    {socket : stack.tcp.Socket} (transfers : Transfers buffers context socket) :
    buffers.rx (transfer context socket).2 = [] ↔ TakesAll buffers context socket := by
  rw [transfers.rx, List.drop_eq_nil_iff]
  exact Iff.rfl

/-- Nothing from the proxy is left after the round when nothing was there and nothing came. -/
theorem Transfers.idle {buffers : TcpBuffers stack.tcp} {context : ForwardContext}
    {socket : stack.tcp.Socket} (transfers : Transfers buffers context socket) :
    ((transfer context socket).1.proxyToApp = [] ∧
      stack.tcp.sendQueue (transfer context socket).2 = 0) ↔ ProxyIdle context socket := by
  obtain ⟨handed, parts, queue⟩ := transfers.toApp
  have lengths := congrArg List.length parts
  rw [List.length_append, List.length_append] at lengths
  unfold ProxyIdle
  rw [← List.length_eq_zero_iff, ← List.length_eq_zero_iff, ← List.length_eq_zero_iff]
  omega

/-- When a clean round closes the connection. -/
theorem CleanRound.closing_iff (buffers : TcpBuffers stack.tcp) {context : ForwardContext}
    {socket : stack.tcp.Socket} (clean : CleanRound context socket) :
    (shuttle context socket).2.2 = true ↔
      (ProxyEnds context ∧ ProxyIdle context socket) ∨
        (stack.tcp.state socket = .closeWait ∧ TakesAll buffers context socket) := by
  have transfers := clean.transfers buffers
  have maySend : stack.tcp.maySend (transfer context socket).2 = true := by
    rw [buffers.maySend_iff, transfers.state]
    exact clean.state
  have mayRecv : stack.tcp.mayRecv (transfer context socket).2 = false ↔
      stack.tcp.state socket = .closeWait ∧ TakesAll buffers context socket := by
    rw [Bool.eq_false_iff, Ne, buffers.mayRecv_iff, transfers.state, ← transfers.rx_nil]
    rcases clean.state with opened | half
    · simp [opened]
    · simp [half]
  have drained : Drained (transfer context socket).1 (transfer context socket).2 ↔
      ProxyEnds context ∧ ProxyIdle context socket := by
    rw [drained_def, transfers.eof, ← transfers.idle, maySend]
    simp
  rw [shuttle_eq]
  show (closeIfDone _ _).2 = true ↔ _
  rw [closeIfDone_iff buffers, drained, mayRecv, maySend]
  simp

/-- When a clean round leaves nothing behind. -/
theorem CleanRound.lossless_iff (buffers : TcpBuffers stack.tcp) {context : ForwardContext}
    {socket : stack.tcp.Socket} (clean : CleanRound context socket) :
    Lossless buffers (transfer context socket) ↔
      ProxyIdle context socket ∧ TakesAll buffers context socket := by
  have transfers := clean.transfers buffers
  unfold Lossless
  rw [← and_assoc, transfers.idle, transfers.rx_nil]

/-- A run without a failure or a reset closes without loss exactly when in every round the two
directions end together: a round that sees the proxy ended and idle writes all that was
received, and a round that writes all that was received from an application that has ended
finds the proxy idle. -/
theorem outbound_close_lossless_iff (buffers : TcpBuffers stack.tcp)
    {rounds : List (ForwardContext × stack.tcp.Socket)} (run : CleanRun buffers rounds) :
    (∀ round ∈ rounds, (shuttle round.1 round.2).2.2 = true →
      Lossless buffers (transfer round.1 round.2)) ↔
      ∀ round ∈ rounds, EndsTogether buffers round.1 round.2 := by
  apply forall₂_congr
  intro round member
  have clean := run.clean round member
  rw [clean.closing_iff buffers, clean.lossless_iff buffers]
  unfold EndsTogether
  tauto

/-- One clean round is a run. -/
theorem cleanRun_single (buffers : TcpBuffers stack.tcp) (stream : ProxyStream)
    {socket : stack.tcp.Socket} (clean : CleanRound ⟨stream, [], .open⟩ socket) :
    CleanRun buffers [(⟨stream, [], .open⟩, socket)] where
  starts round first := by
    rw [List.head?_cons, Option.mem_some_iff] at first
    rw [← first]
    exact ⟨stream, rfl⟩
  follows := List.isChain_singleton _
  clean round member := by
    rw [List.mem_singleton.mp member]
    exact clean

/-- A proxy that has ended. -/
def endedStream : ProxyStream := .new ⟨[], [], []⟩ []

/-- A socket of the small stack with two bytes from its application. -/
def askingSocket : segmentStack.tcp.Socket :=
  (⟨.established, 80, SegmentSocket.noPeer, [104, 105], 0⟩ : SegmentSocket)

/-- The proxy has ended and takes the last bytes of the application, and nothing is left. -/
theorem outbound_close_lossless_iff_ended :
    (shuttle ⟨endedStream, [], .open⟩ askingSocket).2.2 = true ∧
      Lossless segmentBuffers
        (transfer ⟨endedStream, [], .open⟩ askingSocket) := by
  have clean : @CleanRound segmentStack ⟨endedStream, [], .open⟩ askingSocket :=
    ⟨.inl rfl, by decide, by decide, by decide⟩
  have together : EndsTogether segmentBuffers ⟨endedStream, [], .open⟩
      askingSocket := by
    constructor
    · intro _
      show 2 ≤ _
      decide
    · intro half
      exact absurd half.1 (by decide)
  have closes : (shuttle ⟨endedStream, [], .open⟩ askingSocket).2.2 = true := by decide
  have lossless := (outbound_close_lossless_iff segmentBuffers
    (cleanRun_single segmentBuffers endedStream clean)).mpr
    (fun round member => by rw [List.mem_singleton.mp member]; exact together)
  exact ⟨closes,
    lossless (⟨endedStream, [], .open⟩, askingSocket) (List.mem_singleton_self _) closes⟩

/-- A proxy with one byte to send. -/
def answerStream : ProxyStream := .new ⟨[.data [1] (by simp)], [], []⟩ []

/-- A socket of the small stack whose application has ended and whose bytes were read. -/
def halfClosed : segmentStack.tcp.Socket :=
  (⟨.closeWait, 80, SegmentSocket.noPeer, [], 0⟩ : SegmentSocket)

/-- The application ends its direction before the proxy answers: the round that hands the answer
to the send buffer closes the connection, and the answer was not acknowledged. -/
theorem outbound_close_loses_answer :
    CleanRun segmentBuffers [(⟨answerStream, [], .open⟩, halfClosed)] ∧
      (shuttle ⟨answerStream, [], .open⟩ halfClosed).2.2 = true ∧
      ¬ Lossless segmentBuffers
        (transfer ⟨answerStream, [], .open⟩ halfClosed) := by
  refine ⟨cleanRun_single segmentBuffers answerStream ⟨.inr rfl, ?_, ?_, ?_⟩, ?_, ?_⟩
  · decide
  · decide
  · decide
  · decide
  · intro lossless
    exact absurd lossless.2.1 (by decide)

end OutboundTcp

end NsProxy.EventLoop
