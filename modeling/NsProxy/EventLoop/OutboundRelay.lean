import Mathlib.Logic.Relation
import NsProxy.EventLoop.OutboundChanges
import NsProxy.EventLoop.Relay
import NsProxy.Lib.Pipe
import NsProxy.Smoltcp.Segments

/-!
# The relay of one outbound connection

One connection from the moment its listen socket exists: the stack receives bytes for it at any
moment between ticks, the upstream connection appears at some point, and from then on every
tick takes it through the four parts of `shuttle_established`. At each of these points both
directions are exact pipes: nothing is lost, repeated or reordered, whatever the reads, writes
and sends return.
-/

namespace NsProxy.EventLoop

open Smoltcp Tokio Outbound

namespace OutboundTcp

variable {stack : StackApi}

/-! ## What the calls of one round return -/

/-- `recv` is called, and its closure writes to the proxy. -/
def wroteProxy (context : ForwardContext) (socket : stack.tcp.Socket) :
    TcpStream × stack.tcp.Socket × Bool :=
  Relay.writeStream (stack.tcp.mayRecv socket && stack.tcp.canRecv socket) context.stream.inner
    socket

/-- The number of bytes that the proxy takes of what `recv` passes. -/
def writeCount (context : ForwardContext) (socket : stack.tcp.Socket) : Nat :=
  Relay.writeCount (stack.tcp.mayRecv socket && stack.tcp.canRecv socket) context.stream.inner
    socket

/-- The write to the proxy fails, and the socket is aborted. -/
def writeFails (context : ForwardContext) (socket : stack.tcp.Socket) : Bool :=
  (wroteProxy context socket).2.2

/-- `try_read` is called. -/
def Reads (context : ForwardContext) : Prop :=
  context.proxyReadState = .open ∧ context.proxyToApp.length < tcpBufSize

instance (context : ForwardContext) : Decidable (Reads context) :=
  inferInstanceAs (Decidable (_ ∧ _))

/-- The read from the proxy fails, and the socket is aborted. -/
def readFails (context : ForwardContext) : Bool :=
  decide (Reads context) &&
    Relay.isFailure (context.stream.tryRead (tcpBufSize - context.proxyToApp.length)).1

/-- The bytes that the read from the proxy brings. -/
def readBytes (context : ForwardContext) : List UInt8 :=
  if Reads context then
    ProxyStream.returned (context.stream.tryRead (tcpBufSize - context.proxyToApp.length)).1
  else []

/-- The send fails, and the socket is aborted. -/
def sendFails (context : ForwardContext) (socket : stack.tcp.Socket) : Bool :=
  (Relay.sendBuffer context.proxyToApp socket).2.2

/-- The bytes that the send buffer takes. -/
def handedBy (context : ForwardContext) (socket : stack.tcp.Socket) : List UInt8 :=
  Relay.handedBy context.proxyToApp socket

/-! ## The runs of one connection -/

/-- Where `shuttle_established` stands with a connection. -/
inductive Point
  /-- Between two rounds. -/
  | top
  /-- After the write to the proxy. -/
  | wrote
  /-- After the read from the proxy. -/
  | read
  /-- After the send to the application. -/
  | sent
  deriving DecidableEq, Repr

/-- What was done with the bytes of a connection. -/
structure Account where
  /-- What the proxy had still to send when the upstream connection was there. -/
  promised : List UInt8
  /-- What the reads from the proxy have brought. -/
  fetched : List UInt8
  /-- What the send buffer has taken. -/
  handed : List UInt8
  /-- What was written to the proxy before the relay started. -/
  base : List UInt8
  /-- What the stack has received from the application. -/
  received : List UInt8
  /-- The receive queue of a socket that was aborted in this round, at that moment. -/
  aborted : Option (List UInt8)

/-- A call may fail, and the socket is aborted with its receive queue. -/
def Account.abortIf (account : Account) (failed : Bool) (queue : List UInt8) : Account :=
  { account with aborted := account.aborted.or (if failed then some queue else none) }

/-- The bytes from the application that were not read: those in the receive queue, also when an
abort has discarded it. -/
def Account.queue (account : Account) (rx : List UInt8) : List UInt8 := account.aborted.getD rx

/-- One connection. -/
inductive Connection (stack : StackApi)
  /-- The upstream connection is not there yet. -/
  | waiting (socket : stack.tcp.Socket) (received : List UInt8)
  /-- `State::Established`. -/
  | established (point : Point) (context : ForwardContext) (socket : stack.tcp.Socket)
    (account : Account)
  /-- `State::Closing`. -/
  | closing

/-- A step of a connection. -/
inductive Connection.Step (buffers : TcpBuffers stack.tcp) :
    Connection stack → Connection stack → Prop
  /-- The stack receives bytes before the upstream connection is there. -/
  | heardEarly {socket next : stack.tcp.Socket} {received : List UInt8} (more : List UInt8)
    (queued : buffers.rx next = buffers.rx socket ++ more) :
    Step buffers (.waiting socket received) (.waiting next (received ++ more))
  /-- The upstream connection is there. -/
  | connected {socket : stack.tcp.Socket} {received : List UInt8} (stream : ProxyStream) :
    Step buffers (.waiting socket received)
      (.established .top ⟨stream, [], .open⟩ socket
        ⟨stream.unread, [], [], stream.inner.written, received, none⟩)
  /-- There will be no upstream connection. -/
  | dropped {socket : stack.tcp.Socket} {received : List UInt8} :
    Step buffers (.waiting socket received) .closing
  /-- The stack receives bytes between two rounds. -/
  | heard {context : ForwardContext} {socket next : stack.tcp.Socket} {account : Account}
    (more : List UInt8) (queued : buffers.rx next = buffers.rx socket ++ more) :
    Step buffers (.established .top context socket account)
      (.established .top context next { account with received := account.received ++ more })
  /-- `shuttle_established`: bytes for the proxy. -/
  | write {context : ForwardContext} {socket : stack.tcp.Socket} {account : Account} :
    Step buffers (.established .top context socket account)
      (.established .wrote (writeProxy context socket).1 (writeProxy context socket).2
        (account.abortIf (writeFails context socket) (buffers.rx socket)))
  /-- `shuttle_established`: bytes from the proxy. -/
  | read {context : ForwardContext} {socket : stack.tcp.Socket} {account : Account} :
    Step buffers (.established .wrote context socket account)
      (.established .read (readProxy context socket).1 (readProxy context socket).2
        ({ account with fetched := account.fetched ++ readBytes context }.abortIf
          (readFails context) (buffers.rx socket)))
  /-- `shuttle_established`: bytes for the application. -/
  | send {context : ForwardContext} {socket : stack.tcp.Socket} {account : Account} :
    Step buffers (.established .read context socket account)
      (.established .sent (sendApp context socket).1 (sendApp context socket).2
        ({ account with handed := account.handed ++ handedBy context socket }.abortIf
          (sendFails context socket) (buffers.rx socket)))
  /-- `shuttle_established`: the connection goes on. -/
  | goOn {context : ForwardContext} {socket used : stack.tcp.Socket} {account : Account}
    (done : closeIfDone context socket = (used, false)) :
    Step buffers (.established .sent context socket account)
      (.established .top context used account)
  /-- `shuttle_established`: the connection is closing. -/
  | close {context : ForwardContext} {socket used : stack.tcp.Socket} {account : Account}
    (done : closeIfDone context socket = (used, true)) :
    Step buffers (.established .sent context socket account) .closing

/-- A connection that a run from a new listen socket reaches. -/
def Connection.Reachable (buffers : TcpBuffers stack.tcp) (connection : Connection stack) : Prop :=
  ∃ socket, buffers.rx socket = [] ∧
    Relation.ReflTransGen (Connection.Step buffers) (.waiting socket []) connection

/-! ## What each part does -/

/-- What the write leaves: some bytes from the front of the receive queue went to the proxy. -/
structure Writes (buffers : TcpBuffers stack.tcp) (context next : ForwardContext)
    (socket used : stack.tcp.Socket) (failed : Bool) (count : Nat) : Prop where
  /-- The other direction is left alone. -/
  proxyToApp : next.proxyToApp = context.proxyToApp
  /-- The other direction is left alone. -/
  proxyReadState : next.proxyReadState = context.proxyReadState
  /-- Nothing is read. -/
  buffered : next.stream.buffered = context.stream.buffered
  /-- Nothing is read. -/
  incoming : next.stream.inner.incoming = context.stream.inner.incoming
  /-- The bytes are written. -/
  written : next.stream.inner.written =
    context.stream.inner.written ++ (buffers.rx socket).take count
  /-- The bytes are consumed. -/
  consumed : failed = false → buffers.rx used = (buffers.rx socket).drop count
  /-- The rest of the socket is left alone. -/
  kept : failed = false → stack.tcp.state used = stack.tcp.state socket ∧
    stack.tcp.sendQueue used = stack.tcp.sendQueue socket
  /-- A failed write takes nothing, and the socket sends nothing more. -/
  aborted : failed = true → count = 0 ∧ stack.tcp.maySend used = false

/-- What the proxy still sends is what it was. -/
theorem Writes.unread {buffers : TcpBuffers stack.tcp} {context next : ForwardContext}
    {socket used : stack.tcp.Socket} {failed : Bool} {count : Nat}
    (writes : Writes buffers context next socket used failed count) :
    next.stream.unread = context.stream.unread := by
  unfold ProxyStream.unread TcpStream.remaining
  rw [writes.buffered, writes.incoming]

/-- The write, with its failure as a flag. -/
theorem writeProxy_eq (context : ForwardContext) (socket : stack.tcp.Socket) :
    writeProxy context socket =
      ({ context with stream := { context.stream with inner := (wroteProxy context socket).1 } },
        bif writeFails context socket then stack.tcp.abort (wroteProxy context socket).2.1
        else (wroteProxy context socket).2.1) := by
  unfold writeFails wroteProxy writeProxy Relay.writeStream
  by_cases called : (stack.tcp.mayRecv socket && stack.tcp.canRecv socket) = true
  · rw [if_pos called, if_pos called]
    cases stack.tcp.recvData socket with
    | none => rfl
    | some data =>
      cases data with
      | nil => rfl
      | cons byte bytes =>
        dsimp only
        rcases context.stream.inner.tryWrite (byte :: bytes) with ⟨result, next⟩
        cases result with
        | ok count => rfl
        | error error => cases error <;> rfl
  · rw [if_neg called, if_neg called]
    rfl

/-- The write takes bytes from the front of the receive queue alone. -/
theorem writeProxy_writes (buffers : TcpBuffers stack.tcp) (context : ForwardContext)
    (socket : stack.tcp.Socket) :
    Writes buffers context (writeProxy context socket).1 socket (writeProxy context socket).2
      (writeFails context socket) (writeCount context socket) := by
  have wrote : Relay.Wrote buffers context.stream.inner (wroteProxy context socket).1 socket
      (wroteProxy context socket).2.1 (writeFails context socket) (writeCount context socket) :=
    Relay.writeStream_wrote buffers _ context.stream.inner socket
  rw [writeProxy_eq]
  refine ⟨rfl, rfl, rfl, wrote.incoming, wrote.written, ?_, ?_, ?_⟩
  · intro fine
    rw [fine]
    exact wrote.consumed
  · intro fine
    rw [fine]
    exact ⟨wrote.state, wrote.sendQueue⟩
  · intro broken
    rw [broken]
    exact ⟨wrote.failed broken, buffers.maySend_abort _⟩

/-- The read finds the end of the proxy stream. -/
def ReadsEof (context : ForwardContext) : Prop :=
  Reads context ∧
    (context.stream.tryRead (tcpBufSize - context.proxyToApp.length)).1 = .ok []

/-- What the read leaves: the bytes it brings wait for the application. -/
structure ReadsOn (context next : ForwardContext) (socket used : stack.tcp.Socket)
    (failed : Bool) : Prop where
  /-- The bytes come from the front of the stream. -/
  unread : context.stream.unread = readBytes context ++ next.stream.unread
  /-- The bytes wait for the application. -/
  proxyToApp : next.proxyToApp = context.proxyToApp ++ readBytes context
  /-- Nothing is written. -/
  written : next.stream.inner.written = context.stream.inner.written
  /-- The buffer does not overflow. -/
  bounded : context.proxyToApp.length ≤ tcpBufSize → next.proxyToApp.length ≤ tcpBufSize
  /-- The end is recorded when it is found, and stays recorded. -/
  eof : next.proxyReadState = .eof ↔ context.proxyReadState = .eof ∨ ReadsEof context
  /-- Without a failure the socket is left alone. -/
  kept : failed = false → used = socket
  /-- After a failure the socket is aborted. -/
  aborted : failed = true → used = stack.tcp.abort socket

/-- A read that is made: the bytes go into the buffer, the end is recorded and a failure aborts the
socket. -/
theorem readProxy_made {context : ForwardContext} (socket : stack.tcp.Socket)
    (reads : Reads context) {result : Except IoError (List UInt8)} {stream : ProxyStream}
    (outcome : context.stream.tryRead (tcpBufSize - context.proxyToApp.length) = (result, stream)) :
    (readProxy context socket).1.stream = stream ∧
      (readProxy context socket).1.proxyToApp =
        context.proxyToApp ++ ProxyStream.returned result ∧
      ((readProxy context socket).1.proxyReadState = .eof ↔ result = .ok []) ∧
      (readProxy context socket).2 =
        if Relay.isFailure result then stack.tcp.abort socket else socket := by
  have opened : context.proxyReadState ≠ .eof := by simp [reads.1]
  unfold Reads at reads
  unfold readProxy
  rw [if_pos reads]
  dsimp only
  rw [outcome]
  cases result with
  | ok bytes =>
    cases bytes with
    | nil => exact ⟨rfl, (List.append_nil _).symm, by simp, rfl⟩
    | cons byte bytes => exact ⟨rfl, rfl, by simp [opened], rfl⟩
  | error error =>
    cases error with
    | wouldBlock => exact ⟨rfl, (List.append_nil _).symm, by simp [opened], rfl⟩
    | other message => exact ⟨rfl, (List.append_nil _).symm, by simp, rfl⟩

/-- The read appends what it brings to the bytes that wait for the application. -/
theorem readProxy_readsOn (context : ForwardContext) (socket : stack.tcp.Socket) :
    ReadsOn context (readProxy context socket).1 socket (readProxy context socket).2
      (readFails context) := by
  by_cases reads : Reads context
  · have unread := context.stream.unread_tryRead (tcpBufSize - context.proxyToApp.length)
    have written := context.stream.written_tryRead (tcpBufSize - context.proxyToApp.length)
    have opened : context.proxyReadState ≠ .eof := by simp [reads.1]
    rcases outcome : context.stream.tryRead (tcpBufSize - context.proxyToApp.length) with
      ⟨result, stream⟩
    rw [outcome] at unread written
    have brought : readBytes context = ProxyStream.returned result := by
      unfold readBytes
      rw [if_pos reads, outcome]
    have ends : ReadsEof context ↔ result = .ok [] := by
      unfold ReadsEof
      rw [outcome]
      exact ⟨And.right, fun empty => ⟨reads, empty⟩⟩
    have fails : readFails context = Relay.isFailure result := by
      unfold readFails
      rw [decide_eq_true reads, Bool.true_and, outcome]
    have fits : ∀ bytes, result = .ok bytes →
        bytes.length ≤ tcpBufSize - context.proxyToApp.length := by
      intro bytes returned
      apply ProxyStream.length_tryRead
      rw [outcome, returned]
    obtain ⟨after, waiting, ended, used⟩ := readProxy_made socket reads outcome
    constructor
    · rw [after, brought]
      exact unread
    · rw [waiting, brought]
    · rw [after]
      exact written
    · rw [waiting]
      exact Relay.length_append_returned fits
    · rw [ended, ends]
      simp [opened]
    · intro fine
      rw [used, ← fails, fine]
      rfl
    · intro broken
      rw [used, ← fails, broken]
      rfl
  · have brought : readBytes context = [] := by
      unfold readBytes
      rw [if_neg reads]
    have fails : readFails context = false := by
      unfold readFails
      rw [decide_eq_false reads, Bool.false_and]
    rw [fails]
    unfold Reads at reads
    unfold readProxy
    rw [if_neg reads]
    refine ⟨by rw [brought]; rfl, by rw [brought, List.append_nil], rfl, fun small => small, ?_,
      fun _ => rfl, by simp⟩
    constructor
    · exact Or.inl
    · rintro (known | ⟨also, -⟩)
      · exact known
      · exact absurd also reads

/-- What the send leaves: the send buffer has taken bytes from the front of those that wait. -/
structure SendsOn (buffers : TcpBuffers stack.tcp) (context next : ForwardContext)
    (socket used : stack.tcp.Socket) (failed : Bool) : Prop where
  /-- The stream is left alone. -/
  stream : next.stream = context.stream
  /-- The state of the stream is left alone. -/
  proxyReadState : next.proxyReadState = context.proxyReadState
  /-- The bytes come from the front of those that wait. -/
  handed : context.proxyToApp = handedBy context socket ++ next.proxyToApp
  /-- The bytes are queued. -/
  queued : failed = false → stack.tcp.sendQueue used =
    stack.tcp.sendQueue socket + (handedBy context socket).length
  /-- The rest of the socket is left alone. -/
  kept : failed = false → stack.tcp.state used = stack.tcp.state socket ∧
    buffers.rx used = buffers.rx socket
  /-- After a failure the socket sends nothing more. -/
  aborted : failed = true → stack.tcp.maySend used = false

/-- The send, with its failure as a flag. -/
theorem sendApp_eq (context : ForwardContext) (socket : stack.tcp.Socket) :
    sendApp context socket =
      ({ context with proxyToApp := (Relay.sendBuffer context.proxyToApp socket).1 },
        bif sendFails context socket then
          stack.tcp.abort (Relay.sendBuffer context.proxyToApp socket).2.1
        else (Relay.sendBuffer context.proxyToApp socket).2.1) := by
  unfold sendFails sendApp Relay.sendBuffer
  by_cases sends : Relay.Sends context.proxyToApp socket
  · rw [if_pos sends, if_pos sends.1]
    dsimp only
    rw [if_pos sends.2, show context.proxyToApp.take _ = Relay.offered context.proxyToApp socket
      from rfl]
    rcases stack.tcp.sendSlice socket (Relay.offered context.proxyToApp socket) with
      ⟨_ | count, next⟩ <;> rfl
  · rw [if_neg sends]
    by_cases able : context.proxyToApp ≠ [] ∧ stack.tcp.canSend socket = true
    · rw [if_pos able]
      dsimp only
      rw [if_neg fun room => sends ⟨able, room⟩]
      rfl
    · rw [if_neg able]
      rfl

/-- The send takes bytes from the front of those that wait alone. -/
theorem sendApp_sendsOn (buffers : TcpBuffers stack.tcp) (context : ForwardContext)
    (socket : stack.tcp.Socket) :
    SendsOn buffers context (sendApp context socket).1 socket (sendApp context socket).2
      (sendFails context socket) := by
  have sent : Relay.Sent buffers context.proxyToApp _ socket _ (sendFails context socket)
      (handedBy context socket) := Relay.sendBuffer_sent buffers context.proxyToApp socket
  rw [sendApp_eq]
  refine ⟨rfl, rfl, sent.parts, ?_, ?_, ?_⟩
  · intro fine
    rw [fine]
    exact sent.queued fine
  · intro fine
    rw [fine]
    exact ⟨sent.state, sent.rx⟩
  · intro broken
    rw [broken]
    exact buffers.maySend_abort _

/-- Nothing is left for the application, and the proxy will send nothing more. -/
def Drained (context : ForwardContext) (socket : stack.tcp.Socket) : Prop :=
  context.proxyReadState = .eof ∧ context.proxyToApp = [] ∧ stack.tcp.sendQueue socket = 0 ∧
    stack.tcp.maySend socket = true

/-- What it is for the proxy side to be drained. -/
theorem drained_def {context : ForwardContext} {socket : stack.tcp.Socket} :
    Drained context socket ↔ context.proxyReadState = .eof ∧ context.proxyToApp = [] ∧
      stack.tcp.sendQueue socket = 0 ∧ stack.tcp.maySend socket = true := Iff.rfl

/-- The connection closes when everything from the proxy was delivered, or when the socket cannot
receive or cannot send any more. -/
theorem closeIfDone_iff (buffers : TcpBuffers stack.tcp) (context : ForwardContext)
    (socket : stack.tcp.Socket) :
    (closeIfDone context socket).2 = true ↔ Drained context socket ∨
      stack.tcp.mayRecv socket = false ∨ stack.tcp.maySend socket = false := by
  unfold closeIfDone
  by_cases drained : Drained context socket
  · have closed := buffers.maySend_abort socket
    dsimp only
    rw [if_pos (drained_def.mp drained), closed]
    simp [drained]
  · dsimp only
    rw [if_neg (drained_def.not.mp drained)]
    cases stack.tcp.mayRecv socket <;> cases stack.tcp.maySend socket <;> simp [drained]

/-- A connection that goes on keeps its socket, which can still send. -/
theorem closeIfDone_goOn (buffers : TcpBuffers stack.tcp) {context : ForwardContext}
    {socket used : stack.tcp.Socket} (done : closeIfDone context socket = (used, false)) :
    used = socket ∧ stack.tcp.maySend socket = true := by
  have goes : ¬ (closeIfDone context socket).2 = true := by simp [done]
  rw [closeIfDone_iff buffers, not_or, not_or] at goes
  refine ⟨?_, by simpa using goes.2.2⟩
  have undrained := goes.1
  unfold closeIfDone at done
  dsimp only at done
  rw [if_neg (drained_def.not.mp undrained)] at done
  split at done
  · simp at done
  · exact (Prod.mk.inj done).1.symm

/-! ## The invariant -/

/-- Both directions of an established connection are exact. -/
structure Exact (buffers : TcpBuffers stack.tcp) (point : Point) (context : ForwardContext)
    (socket : stack.tcp.Socket) (account : Account) : Prop where
  /-- What was handed over and what waits for the application is what was read. -/
  toApp : Piped account.handed context.proxyToApp account.fetched
  /-- What was read is the front of what the proxy sends. -/
  fetched : Piped account.fetched context.stream.unread account.promised
  /-- What was written to the proxy and what was not read is what was received. -/
  toProxy : Piped context.stream.inner.written (account.queue (buffers.rx socket))
    (account.base ++ account.received)
  /-- The buffer is within its size. -/
  bounded : context.proxyToApp.length ≤ tcpBufSize
  /-- The recorded end is the end of the stream. -/
  eof : context.proxyReadState = .eof → context.stream.unread = []
  /-- A connection with an aborted socket does not go on to another round. -/
  top : point = .top → account.aborted = none
  /-- An aborted socket sends nothing more. -/
  aborted : account.aborted ≠ none → stack.tcp.maySend socket = false

/-- What holds of a connection at every point. -/
def Connection.Sound (buffers : TcpBuffers stack.tcp) : Connection stack → Prop
  | .waiting socket received => buffers.rx socket = received
  | .established point context socket account => Exact buffers point context socket account
  | .closing => True

/-- A call that does not fail keeps the account of aborts. -/
@[simp] theorem abortIf_false (account : Account) (queue : List UInt8) :
    account.abortIf false queue = account := by
  unfold Account.abortIf
  simp

/-- What was not read stays what it was, when it is what an abort finds. -/
theorem queue_abortIf (account : Account) (failed : Bool) {before after : List UInt8}
    (same : failed = false → account.aborted = none → after = before) :
    (account.abortIf failed before).queue after = account.queue before := by
  unfold Account.abortIf Account.queue
  cases failed with
  | false =>
    cases known : account.aborted with
    | none => simp [same rfl known]
    | some queue => simp
  | true => cases account.aborted <;> simp

/-- After a failure, or an earlier one, the socket sends nothing more. -/
theorem maySend_abortIf {account : Account} {failed : Bool} {queue : List UInt8}
    {used : stack.tcp.Socket} (broken : failed = true → stack.tcp.maySend used = false)
    (kept : failed = false → account.aborted ≠ none → stack.tcp.maySend used = false)
    (aborted : (account.abortIf failed queue).aborted ≠ none) :
    stack.tcp.maySend used = false := by
  cases failed with
  | true => exact broken rfl
  | false =>
    rw [abortIf_false] at aborted
    exact kept rfl aborted

/-- The write keeps both directions exact. -/
theorem exact_write (buffers : TcpBuffers stack.tcp) {context : ForwardContext}
    {socket : stack.tcp.Socket} {account : Account}
    (exact : Exact buffers .top context socket account) :
    Exact buffers .wrote (writeProxy context socket).1 (writeProxy context socket).2
      (account.abortIf (writeFails context socket) (buffers.rx socket)) := by
  have writes := writeProxy_writes buffers context socket
  have fresh := exact.top rfl
  have toProxy := exact.toProxy
  unfold Account.queue at toProxy
  rw [fresh, Option.getD_none] at toProxy
  constructor
  · rw [writes.proxyToApp]
    exact exact.toApp
  · rw [writes.unread]
    exact exact.fetched
  · cases failed : writeFails context socket with
    | true =>
      rw [writes.written, (writes.aborted failed).1, List.take_zero, List.append_nil]
      unfold Account.queue Account.abortIf
      rw [fresh]
      exact toProxy
    | false =>
      rw [abortIf_false, writes.written]
      unfold Account.queue
      rw [fresh, Option.getD_none, writes.consumed failed]
      exact toProxy.leave (writeCount context socket)
  · rw [writes.proxyToApp]
    exact exact.bounded
  · rw [writes.proxyReadState, writes.unread]
    exact exact.eof
  · intro top
    contradiction
  · apply maySend_abortIf fun broken => (writes.aborted broken).2
    intro _ earlier
    exact absurd fresh earlier

/-- The read keeps both directions exact, with the bytes it fetched on the account. -/
theorem exact_read (buffers : TcpBuffers stack.tcp) {context : ForwardContext}
    {socket : stack.tcp.Socket} {account : Account}
    (exact : Exact buffers .wrote context socket account) :
    Exact buffers .read (readProxy context socket).1 (readProxy context socket).2
      ({ account with fetched := account.fetched ++ readBytes context }.abortIf
        (readFails context) (buffers.rx socket)) := by
  have reads := readProxy_readsOn context socket
  constructor
  · rw [reads.proxyToApp]
    exact exact.toApp.enter (readBytes context)
  · have before := exact.fetched
    unfold Piped at before ⊢
    rw [← before, reads.unread]
    exact List.append_assoc _ _ _
  · rw [reads.written, queue_abortIf]
    · exact exact.toProxy
    · intro fine _
      rw [reads.kept fine]
  · exact reads.bounded exact.bounded
  · intro ended
    have consumed := reads.unread
    rcases reads.eof.mp ended with known | found
    · rw [exact.eof known] at consumed
      exact (List.append_eq_nil_iff.mp consumed.symm).2
    · have positive : 0 < tcpBufSize - context.proxyToApp.length := by
        have room := found.1.2
        omega
      rw [ProxyStream.unread_of_tryRead_nil positive found.2] at consumed
      exact (List.append_eq_nil_iff.mp consumed.symm).2
  · intro top
    contradiction
  · apply maySend_abortIf
    · intro broken
      rw [reads.aborted broken]
      exact buffers.maySend_abort socket
    · intro fine earlier
      rw [reads.kept fine]
      exact exact.aborted earlier

/-- The send keeps both directions exact, with the bytes it handed over on the account. -/
theorem exact_send (buffers : TcpBuffers stack.tcp) {context : ForwardContext}
    {socket : stack.tcp.Socket} {account : Account}
    (exact : Exact buffers .read context socket account) :
    Exact buffers .sent (sendApp context socket).1 (sendApp context socket).2
      ({ account with handed := account.handed ++ handedBy context socket }.abortIf
        (sendFails context socket) (buffers.rx socket)) := by
  have sends := sendApp_sendsOn buffers context socket
  constructor
  · have before := exact.toApp
    unfold Piped at before ⊢
    rw [← before, sends.handed]
    exact List.append_assoc _ _ _
  · rw [sends.stream]
    exact exact.fetched
  · rw [sends.stream, queue_abortIf]
    · exact exact.toProxy
    · intro fine _
      exact (sends.kept fine).2
  · have length := congrArg List.length sends.handed
    have bounded := exact.bounded
    rw [List.length_append] at length
    omega
  · rw [sends.proxyReadState, sends.stream]
    exact exact.eof
  · intro top
    contradiction
  · apply maySend_abortIf sends.aborted
    intro fine earlier
    have closed := exact.aborted earlier
    rw [Bool.eq_false_iff, Ne, buffers.maySend_iff, (sends.kept fine).1, ← buffers.maySend_iff,
      ← Ne, ← Bool.eq_false_iff]
    exact closed

/-- Every step keeps a connection sound. -/
theorem Connection.Step.sound (buffers : TcpBuffers stack.tcp) {before after : Connection stack}
    (step : Connection.Step buffers before after) (sound : before.Sound buffers) :
    after.Sound buffers := by
  cases step with
  | heardEarly more queued =>
    show buffers.rx _ = _
    rw [queued, show buffers.rx _ = _ from sound]
  | connected stream =>
    constructor
    · exact Piped.start []
    · exact Piped.start stream.unread
    · show stream.inner.written ++ buffers.rx _ = _
      rw [show buffers.rx _ = _ from sound]
    · exact Nat.zero_le _
    · intro ended
      contradiction
    · intro _
      rfl
    · intro none
      contradiction
  | dropped => trivial
  | heard more queued =>
    have exact : Exact buffers _ _ _ _ := sound
    have fresh := exact.top rfl
    refine ⟨exact.toApp, exact.fetched, ?_, exact.bounded, exact.eof, exact.top, ?_⟩
    · have before := exact.toProxy
      unfold Account.queue at before ⊢
      rw [fresh, Option.getD_none] at before ⊢
      rw [queued, ← List.append_assoc]
      exact before.enter more
    · intro earlier
      exact absurd fresh earlier
  | write => exact exact_write buffers sound
  | read => exact exact_read buffers sound
  | send => exact exact_send buffers sound
  | goOn done =>
    have exact : Exact buffers _ _ _ _ := sound
    obtain ⟨same, able⟩ := closeIfDone_goOn buffers done
    rw [same]
    refine ⟨exact.toApp, exact.fetched, exact.toProxy, exact.bounded, exact.eof, ?_, exact.aborted⟩
    intro _
    by_contra earlier
    rw [exact.aborted earlier] at able
    contradiction
  | close done => trivial

/-- Every connection that a run reaches is sound. -/
theorem Connection.Reachable.sound (buffers : TcpBuffers stack.tcp) {connection : Connection stack}
    (reached : Connection.Reachable buffers connection) : connection.Sound buffers := by
  obtain ⟨socket, empty, run⟩ := reached
  induction run with
  | refl => exact empty
  | tail _ step ih => exact step.sound buffers ih

/-! ## The connection under a handle -/

/-- The state under a handle after it was replaced. -/
theorem lookup_progress (outbound : OutboundTcp) (handle : SocketHandle) (events : List TaskEvent)
    (state : State) :
    (outbound.progress handle events state).states.lookup handle = some state := by
  unfold progress
  rw [HashMap.lookup_insert_if, if_pos rfl]

/-- What a round has done before its close conditions. -/
def transfer (context : ForwardContext) (socket : stack.tcp.Socket) :
    ForwardContext × stack.tcp.Socket :=
  let wrote := writeProxy context socket
  let read := readProxy wrote.1 wrote.2
  sendApp read.1 read.2

/-- A round makes its transfers and then looks at the close conditions. -/
theorem shuttle_eq (context : ForwardContext) (socket : stack.tcp.Socket) :
    shuttle context socket = ((transfer context socket).1,
      closeIfDone (transfer context socket).1 (transfer context socket).2) := rfl

/-- The transfers take a connection to the close conditions. -/
theorem transfer_steps (buffers : TcpBuffers stack.tcp) (context : ForwardContext)
    (socket : stack.tcp.Socket) (account : Account) :
    ∃ later, Relation.ReflTransGen (Connection.Step buffers)
      (.established .top context socket account)
      (.established .sent (transfer context socket).1 (transfer context socket).2 later) :=
  ⟨_, .head .write (.head .read (.single .send))⟩

/-- A round of `shuttle_established` takes a connection through all its parts. -/
theorem shuttle_steps (buffers : TcpBuffers stack.tcp) {context next : ForwardContext}
    {socket used : stack.tcp.Socket} {closing : Bool} (account : Account)
    (shuttled : shuttle context socket = (next, used, closing)) :
    ∃ later, Relation.ReflTransGen (Connection.Step buffers)
      (.established .top context socket account)
      (if closing then .closing else .established .top next used later) := by
  rw [shuttle_eq] at shuttled
  obtain ⟨moved, done⟩ := Prod.mk.inj shuttled
  obtain ⟨later, steps⟩ := transfer_steps buffers context socket account
  refine ⟨later, steps.tail ?_⟩
  rw [← moved]
  cases closing with
  | true => exact .close done
  | false => exact .goOn done

/-- A state without an upstream connection. -/
def AwaitsUpstream : State → Prop
  | .listening _ | .connecting _ => True
  | .established _ | .closing => False

/-- A connection is what a state of the component has under a handle. -/
def Connection.Shows (handle : SocketHandle) (state : OutboundTcp × stack.Sockets) :
    Connection stack → Prop
  | .waiting socket _ =>
    (∃ early, state.1.states.lookup handle = some early ∧ AwaitsUpstream early) ∧
    StackApi.getTcp state.2 handle = .ok socket
  | .established point context socket _ => point = .top ∧
    state.1.states.lookup handle = some (.established context) ∧
    StackApi.getTcp state.2 handle = .ok socket
  | .closing => state.1.states.lookup handle = some .closing

/-- A connection whose entry awaits its upstream is shown as waiting. -/
theorem Connection.Shows.waiting {handle : SocketHandle} {state : OutboundTcp × stack.Sockets}
    {connection : Connection stack} (shows : connection.Shows handle state) {early : State}
    (found : state.1.states.lookup handle = some early) (awaits : AwaitsUpstream early) :
    ∃ socket received, connection = .waiting socket received ∧
      StackApi.getTcp state.2 handle = .ok socket := by
  cases connection with
  | waiting socket received => exact ⟨socket, received, rfl, shows.2⟩
  | established point context socket account =>
    have same := shows.2.1.symm.trans found
    rw [← Option.some.inj same] at awaits
    contradiction
  | closing =>
    have same := Eq.trans (Eq.symm shows) found
    rw [← Option.some.inj same] at awaits
    contradiction

/-- A connection whose entry is established is shown with its context and socket. -/
theorem Connection.Shows.established {handle : SocketHandle}
    {state : OutboundTcp × stack.Sockets} {connection : Connection stack}
    (shows : connection.Shows handle state) {context : ForwardContext} {socket : stack.tcp.Socket}
    (found : state.1.states.lookup handle = some (.established context))
    (got : StackApi.getTcp state.2 handle = .ok socket) :
    ∃ account, connection = .established .top context socket account := by
  cases connection with
  | waiting other received =>
    obtain ⟨⟨early, earlier, awaits⟩, -⟩ := shows
    rw [found] at earlier
    rw [← Option.some.inj earlier] at awaits
    contradiction
  | established point other used account =>
    obtain ⟨top, earlier, same⟩ := shows
    rw [found] at earlier
    rw [got] at same
    rw [top, State.established.inj (Option.some.inj earlier), Except.ok.inj same]
    exact ⟨account, rfl⟩
  | closing =>
    have same := Eq.trans (Eq.symm shows) found
    simp at same

/-- What the component does under a handle are steps of the connection there, until the handle
is forgotten. -/
theorem Act.simulated {regex : RegexApi} {config : AppConfig regex} {dns : Option DnsInterceptor}
    (buffers : TcpBuffers stack.tcp) {handle : SocketHandle}
    {before after : OutboundTcp × stack.Sockets} (act : Act config dns handle before after)
    {connection : Connection stack} (shows : connection.Shows handle before) :
    after.1.states.lookup handle = none ∨
      ∃ next, Relation.ReflTransGen (Connection.Step buffers) connection next ∧
        next.Shows handle after := by
  cases act with
  | @started outbound _ _ _ _ task _ _ found _ _ _ _ _ _ =>
    obtain ⟨socket, received, rfl, got⟩ := shows.waiting found trivial
    have now := lookup_progress outbound handle [.spawned handle task] (.connecting task)
    exact .inr ⟨_, .refl, ⟨_, now, trivial⟩, got⟩
  | closed found _ _ =>
    obtain ⟨socket, received, rfl, got⟩ := shows.waiting found trivial
    exact .inr ⟨_, .single .dropped, lookup_progress _ _ _ _⟩
  | expired found _ _ =>
    obtain ⟨socket, received, rfl, got⟩ := shows.waiting found trivial
    exact .inr ⟨_, .single .dropped, lookup_progress _ _ _ _⟩
  | connected found stream =>
    obtain ⟨socket, received, rfl, got⟩ := shows.waiting found trivial
    exact .inr ⟨_, .single (.connected stream), rfl, lookup_progress _ _ _ _, got⟩
  | failed found _ _ =>
    obtain ⟨socket, received, rfl, got⟩ := shows.waiting found trivial
    exact .inr ⟨_, .single .dropped, lookup_progress _ _ _ _⟩
  | abandoned found _ _ =>
    obtain ⟨socket, received, rfl, got⟩ := shows.waiting found trivial
    exact .inr ⟨_, .single .dropped, lookup_progress _ _ _ _⟩
  | waiting found =>
    obtain ⟨socket, received, rfl, got⟩ := shows.waiting found trivial
    exact .inr ⟨_, .refl, ⟨_, lookup_progress _ _ _ _, trivial⟩, got⟩
  | @relayed _ _ _ _ _ _ closing found got shuttled =>
    obtain ⟨account, rfl⟩ := shows.established found got
    obtain ⟨later, steps⟩ := shuttle_steps buffers account shuttled
    refine .inr ⟨_, steps, ?_⟩
    cases closing with
    | true => exact lookup_progress _ _ _ _
    | false => exact ⟨rfl, lookup_progress _ _ _ _, StackApi.getTcp_set _ _ _⟩
  | removed found freed =>
    left
    show (Finmap.erase handle _).lookup handle = none
    rw [HashMap.lookup_erase_if, if_pos rfl]

/-! ## The pipes over whole runs -/

/-- The end of the proxy stream is recorded, or the connection is over. -/
def Connection.Ended : Connection stack → Prop
  | .waiting _ _ => False
  | .established _ context _ _ => context.proxyReadState = .eof
  | .closing => True

/-- The recorded end stays recorded. -/
theorem Connection.Step.ended (buffers : TcpBuffers stack.tcp) {before after : Connection stack}
    (step : Connection.Step buffers before after) (ended : before.Ended) : after.Ended := by
  cases step with
  | heardEarly _ _ => contradiction
  | connected _ => contradiction
  | dropped => contradiction
  | heard _ _ => exact ended
  | @write context socket account =>
    exact (writeProxy_writes buffers context socket).proxyReadState.trans ended
  | @read context socket account => exact (readProxy_readsOn context socket).eof.mpr (.inl ended)
  | @send context socket account =>
    exact (sendApp_sendsOn buffers context socket).proxyReadState.trans ended
  | goOn _ => exact ended
  | close _ => trivial

/-- Along every run of a connection and at every point of it, whatever the calls return: what was
handed to the send buffer and what waits in `proxy_to_app` is what was read from the proxy, which
is the front of what the proxy sends; what was written to the proxy and what the receive queue
holds is what was received from the application, from the first byte on; the buffer stays within
its size and every read has room for a byte. So the end of the stream is recorded only when
everything was read, and stays recorded. -/
theorem outbound_relay_exact (buffers : TcpBuffers stack.tcp) {point : Point}
    {context : ForwardContext} {socket : stack.tcp.Socket} {account : Account}
    (reached : Connection.Reachable buffers (.established point context socket account)) :
    Piped account.handed context.proxyToApp account.fetched ∧
    Piped account.fetched context.stream.unread account.promised ∧
    Piped context.stream.inner.written (account.queue (buffers.rx socket))
      (account.base ++ account.received) ∧
    (point = .top → account.queue (buffers.rx socket) = buffers.rx socket) ∧
    context.proxyToApp.length ≤ tcpBufSize ∧
    (Reads context → 0 < tcpBufSize - context.proxyToApp.length) ∧
    (context.proxyReadState = .eof → account.fetched = account.promised) ∧
    (context.proxyReadState = .eof → ∀ later, Relation.ReflTransGen (Connection.Step buffers)
      (.established point context socket account) later → later.Ended) := by
  have exact : Exact buffers point context socket account := reached.sound buffers
  refine ⟨exact.toApp, exact.fetched, exact.toProxy, ?_, exact.bounded, ?_, ?_, ?_⟩
  · intro top
    unfold Account.queue
    rw [exact.top top]
    rfl
  · intro reads
    have room := reads.2
    omega
  · intro ended
    exact exact.fetched.drained (exact.eof ended)
  · intro ended later run
    induction run with
    | refl => exact ended
    | tail _ step kept => exact step.ended buffers kept

/-- A proxy that sends three bytes and has room for one. -/
def narrowStream : ProxyStream := .new ⟨[.data [1, 2, 3] (by simp)], [.room 1 (by simp)], []⟩ []

/-- Two bytes arrive before the upstream connection is there, and the proxy takes one of them in
the round that reads its three bytes. -/
theorem outbound_relay_exact_partial_write :
    ∃ (context : ForwardContext) (socket : segmentStack.tcp.Socket) (account : Account),
      context.stream.inner.written = [104] ∧ account.received = [104, 105] ∧
      account.handed = [1, 2, 3] ∧
      Piped account.handed context.proxyToApp account.fetched ∧
      Piped context.stream.inner.written (account.queue (segmentBuffers.rx socket))
        (account.base ++ account.received) := by
  let fresh : SegmentSocket := ⟨.synReceived, 80, SegmentSocket.noPeer, [], 0⟩
  let asked : SegmentSocket := ⟨.established, 80, SegmentSocket.noPeer, [104, 105], 0⟩
  have early :=
    @Connection.Step.heardEarly segmentStack segmentBuffers fresh asked [] [104, 105] rfl
  have reached : Connection.Reachable segmentBuffers (.established .sent _ _ _) :=
    ⟨fresh, rfl, .head early (.head (.connected narrowStream)
      (.head .write (.head .read (.single .send))))⟩
  have exact := outbound_relay_exact segmentBuffers reached
  exact ⟨_, _, _, by decide, by decide, by decide, exact.1, exact.2.2.1⟩

end OutboundTcp

end NsProxy.EventLoop
