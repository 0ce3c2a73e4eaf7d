import Mathlib.Logic.Relation
import NsProxy.EventLoop.Published
import NsProxy.EventLoop.Relay
import NsProxy.Lib.Pipe
import NsProxy.Smoltcp.Segments

/-!
# The relay of one published connection

One connection from the moment its socket connects to the namespace: the stack receives bytes
for it at any moment between ticks, `poll_connecting` finds it open at some point, and from then
on every tick takes it through the parts of `shuttle_established`. At each of these points both
directions are exact pipes, and unless a call fails or the namespace socket is gone the
connection closes only when both pipes are empty.
-/

namespace NsProxy.EventLoop

open Smoltcp Tokio Published

namespace PublishedTcp

variable {stack : StackApi}

/-! ## What the calls of one round return -/

/-- `try_read` is called. -/
def Reads (context : ConnectionContext) : Prop :=
  context.closeAfterDrain = false ∧ context.hostToNamespace.length < tcpBufSize

instance (context : ConnectionContext) : Decidable (Reads context) :=
  inferInstanceAs (Decidable (_ ∧ _))

/-- The bytes that the read from the host brings. -/
def readBytes (context : ConnectionContext) : List UInt8 :=
  if Reads context then
    ProxyStream.returned (context.stream.tryRead (tcpBufSize - context.hostToNamespace.length)).1
  else []

/-! ## The runs of one connection -/

/-- Where `shuttle_established` stands with a connection. -/
inductive Point
  /-- Between two rounds. -/
  | top
  /-- After the read from the host. -/
  | read
  /-- After the send to the namespace. -/
  | sent
  /-- After the write to the host. -/
  | wrote
  /-- Before the close conditions. -/
  | noted
  deriving DecidableEq, Repr

/-- What was done with the bytes of a connection. -/
structure Account where
  /-- What the host had still to send when the connection was open. -/
  promised : List UInt8
  /-- What the reads from the host have brought. -/
  fetched : List UInt8
  /-- What the send buffer has taken. -/
  handed : List UInt8
  /-- What was written to the host before the relay started. -/
  base : List UInt8
  /-- What the stack has received from the namespace. -/
  received : List UInt8
  /-- `failed`. -/
  failed : Bool

/-- One connection. -/
inductive Connection (stack : StackApi)
  /-- `State::Connecting`. -/
  | connecting (stream : TcpStream) (socket : stack.tcp.Socket) (received : List UInt8)
  /-- `State::Established`. -/
  | established (point : Point) (context : ConnectionContext) (socket : stack.tcp.Socket)
    (account : Account)
  /-- `State::Closing`. -/
  | closing

/-- A step of a connection. -/
inductive Connection.Step (buffers : TcpBuffers stack.tcp) :
    Connection stack → Connection stack → Prop
  /-- The stack receives bytes before the connection is found open. -/
  | heardEarly {stream : TcpStream} {socket next : stack.tcp.Socket} {received : List UInt8}
    (more : List UInt8) (queued : buffers.rx next = buffers.rx socket ++ more) :
    Step buffers (.connecting stream socket received) (.connecting stream next (received ++ more))
  /-- `poll_connecting`: the connection is open. -/
  | opened {stream : TcpStream} {socket : stack.tcp.Socket} {received : List UInt8}
    (peerAddr : Endpoint) :
    Step buffers (.connecting stream socket received)
      (.established .top ⟨stream, peerAddr, [], false⟩ socket
        ⟨stream.remaining, [], [], stream.written, received, false⟩)
  /-- `poll_connecting`: there will be no connection. -/
  | dropped {stream : TcpStream} {socket : stack.tcp.Socket} {received : List UInt8} :
    Step buffers (.connecting stream socket received) .closing
  /-- The stack receives bytes between two rounds. -/
  | heard {context : ConnectionContext} {socket next : stack.tcp.Socket} {account : Account}
    (more : List UInt8) (queued : buffers.rx next = buffers.rx socket ++ more) :
    Step buffers (.established .top context socket account)
      (.established .top context next { account with received := account.received ++ more })
  /-- `shuttle_established`: bytes from the host. -/
  | read {context : ConnectionContext} {socket : stack.tcp.Socket} {account : Account} :
    Step buffers (.established .top context socket account)
      (.established .read (readHost context).1 socket
        { account with
          fetched := account.fetched ++ readBytes context
          failed := (readHost context).2 })
  /-- `shuttle_established`: bytes for the namespace. -/
  | send {context : ConnectionContext} {socket : stack.tcp.Socket} {account : Account} :
    Step buffers (.established .read context socket account)
      (.established .sent (sendNamespace context socket).1 (sendNamespace context socket).2.1
        { account with
          handed := account.handed ++ Relay.handedBy context.hostToNamespace socket
          failed := account.failed || (sendNamespace context socket).2.2 })
  /-- `shuttle_established`: bytes for the host. -/
  | write {context : ConnectionContext} {socket : stack.tcp.Socket} {account : Account} :
    Step buffers (.established .sent context socket account)
      (.established .wrote (writeHost context socket).1 (writeHost context socket).2.1
        { account with failed := account.failed || (writeHost context socket).2.2 })
  /-- `shuttle_established`: the namespace may have ended its direction. -/
  | note {context : ConnectionContext} {socket : stack.tcp.Socket} {account : Account} :
    Step buffers (.established .wrote context socket account)
      (.established .noted (noteNamespaceEof context socket) socket account)
  /-- `shuttle_established`: the connection goes on. -/
  | goOn {context : ConnectionContext} {socket used : stack.tcp.Socket} {account : Account}
    (done : closeIfDone context socket account.failed = (used, false)) :
    Step buffers (.established .noted context socket account)
      (.established .top context used account)
  /-- `shuttle_established`: the connection is closing. -/
  | close {context : ConnectionContext} {socket used : stack.tcp.Socket} {account : Account}
    (done : closeIfDone context socket account.failed = (used, true)) :
    Step buffers (.established .noted context socket account) .closing

/-- A connection that a run from a new socket reaches. -/
def Connection.Reachable (buffers : TcpBuffers stack.tcp) (connection : Connection stack) : Prop :=
  ∃ stream socket, buffers.rx socket = [] ∧
    Relation.ReflTransGen (Connection.Step buffers) (.connecting stream socket []) connection

/-! ## What each part does -/

/-- What the read leaves: the bytes it brings wait for the namespace. -/
structure ReadsOn (context next : ConnectionContext) : Prop where
  /-- The bytes come from the front of the stream. -/
  remaining : context.stream.remaining = readBytes context ++ next.stream.remaining
  /-- The bytes wait for the namespace. -/
  hostToNamespace : next.hostToNamespace = context.hostToNamespace ++ readBytes context
  /-- Nothing is written. -/
  written : next.stream.written = context.stream.written
  /-- The buffer does not overflow. -/
  bounded : context.hostToNamespace.length ≤ tcpBufSize → next.hostToNamespace.length ≤ tcpBufSize
  /-- The mark for closing stays, and then nothing is read. -/
  marked : context.closeAfterDrain = true → next = context ∧ readBytes context = []

/-- A read that is made: the bytes go into the buffer. -/
theorem readHost_made {context : ConnectionContext} (reads : Reads context)
    {result : Except IoError (List UInt8)} {stream : TcpStream}
    (outcome : context.stream.tryRead (tcpBufSize - context.hostToNamespace.length) =
      (result, stream)) :
    (readHost context).1.stream = stream ∧
      (readHost context).1.hostToNamespace =
        context.hostToNamespace ++ ProxyStream.returned result := by
  unfold Reads at reads
  unfold readHost
  rw [if_pos reads]
  dsimp only
  rw [outcome]
  cases result with
  | ok bytes =>
    cases bytes with
    | nil => exact ⟨rfl, (List.append_nil _).symm⟩
    | cons byte bytes => exact ⟨rfl, rfl⟩
  | error error =>
    cases error with
    | wouldBlock => exact ⟨rfl, (List.append_nil _).symm⟩
    | other message => exact ⟨rfl, (List.append_nil _).symm⟩

/-- The read appends what it brings to the bytes that wait for the namespace. -/
theorem readHost_readsOn (context : ConnectionContext) : ReadsOn context (readHost context).1 := by
  by_cases reads : Reads context
  · have remaining := ProxyStream.remaining_returned context.stream
      (tcpBufSize - context.hostToNamespace.length)
    have written := context.stream.written_tryRead (tcpBufSize - context.hostToNamespace.length)
    have unmarked : context.closeAfterDrain ≠ true := by simp [reads.1]
    rcases outcome : context.stream.tryRead (tcpBufSize - context.hostToNamespace.length) with
      ⟨result, stream⟩
    rw [outcome] at remaining written
    have brought : readBytes context = ProxyStream.returned result := by
      unfold readBytes
      rw [if_pos reads, outcome]
    have fits : ∀ bytes, result = .ok bytes →
        bytes.length ≤ tcpBufSize - context.hostToNamespace.length := by
      intro bytes returned
      apply TcpStream.length_tryRead
      rw [outcome, returned]
    obtain ⟨after, waiting⟩ := readHost_made reads outcome
    constructor
    · rw [after, brought]
      exact remaining
    · rw [waiting, brought]
    · rw [after]
      exact written
    · rw [waiting]
      exact Relay.length_append_returned fits
    · intro marked
      exact absurd marked unmarked
  · have nothing : readBytes context = [] := by
      unfold readBytes
      rw [if_neg reads]
    unfold Reads at reads
    unfold readHost
    rw [if_neg reads]
    exact ⟨by rw [nothing]; rfl, by rw [nothing, List.append_nil], rfl, fun small => small,
      fun _ => ⟨rfl, nothing⟩⟩

/-- The send, with its failure as a flag. -/
theorem sendNamespace_eq (context : ConnectionContext) (socket : stack.tcp.Socket) :
    sendNamespace context socket =
      ({ context with hostToNamespace := (Relay.sendBuffer context.hostToNamespace socket).1 },
        (Relay.sendBuffer context.hostToNamespace socket).2) := by
  unfold sendNamespace Relay.sendBuffer
  by_cases sends : Relay.Sends context.hostToNamespace socket
  · rw [if_pos sends, if_pos sends.1]
    dsimp only
    rw [if_pos sends.2, show context.hostToNamespace.take _ =
      Relay.offered context.hostToNamespace socket from rfl]
    rcases stack.tcp.sendSlice socket (Relay.offered context.hostToNamespace socket) with
      ⟨_ | count, next⟩ <;> rfl
  · rw [if_neg sends]
    by_cases able : context.hostToNamespace ≠ [] ∧ stack.tcp.canSend socket = true
    · rw [if_pos able]
      dsimp only
      rw [if_neg fun room => sends ⟨able, room⟩]
    · rw [if_neg able]

/-- The write, with its failure as a flag. -/
theorem writeHost_eq (context : ConnectionContext) (socket : stack.tcp.Socket) :
    writeHost context socket =
      ({ context with
        stream := (Relay.writeStream (stack.tcp.canRecv socket) context.stream socket).1 },
        (Relay.writeStream (stack.tcp.canRecv socket) context.stream socket).2) := by
  unfold writeHost Relay.writeStream
  cases stack.tcp.canRecv socket with
  | false => rfl
  | true =>
    rw [if_pos rfl, if_pos rfl]
    cases stack.tcp.recvData socket with
    | none => rfl
    | some data =>
      cases data with
      | nil => rfl
      | cons byte bytes =>
        dsimp only
        rcases context.stream.tryWrite (byte :: bytes) with ⟨result, next⟩
        cases result with
        | ok count => rfl
        | error error => cases error <;> rfl

/-! ## The invariant -/

/-- Both directions of an established connection are exact. -/
structure Exact (buffers : TcpBuffers stack.tcp) (context : ConnectionContext)
    (socket : stack.tcp.Socket) (account : Account) : Prop where
  /-- What was handed over and what waits for the namespace is what was read. -/
  toNamespace : Piped account.handed context.hostToNamespace account.fetched
  /-- What was read is the front of what the host sends. -/
  fetched : Piped account.fetched context.stream.remaining account.promised
  /-- What was written to the host and what is queued is what was received. -/
  toHost : Piped context.stream.written (buffers.rx socket) (account.base ++ account.received)
  /-- The buffer is within its size. -/
  bounded : context.hostToNamespace.length ≤ tcpBufSize

/-- What holds of a connection at every point. -/
def Connection.Sound (buffers : TcpBuffers stack.tcp) : Connection stack → Prop
  | .connecting _ socket received => buffers.rx socket = received
  | .established _ context socket account => Exact buffers context socket account
  | .closing => True

/-- The read keeps both directions exact, with the bytes it fetched on the account. -/
theorem exact_read (buffers : TcpBuffers stack.tcp) {context : ConnectionContext}
    {socket : stack.tcp.Socket} {account : Account} (exact : Exact buffers context socket account) :
    Exact buffers (readHost context).1 socket
      { account with
        fetched := account.fetched ++ readBytes context
        failed := (readHost context).2 } := by
  have reads := readHost_readsOn context
  constructor
  · rw [reads.hostToNamespace]
    exact exact.toNamespace.enter (readBytes context)
  · have before := exact.fetched
    unfold Piped at before ⊢
    rw [← before, reads.remaining]
    exact List.append_assoc _ _ _
  · rw [reads.written]
    exact exact.toHost
  · exact reads.bounded exact.bounded

/-- The send keeps both directions exact, with the bytes it handed over on the account. -/
theorem exact_send (buffers : TcpBuffers stack.tcp) {context : ConnectionContext}
    {socket : stack.tcp.Socket} {account : Account} (exact : Exact buffers context socket account) :
    Exact buffers (sendNamespace context socket).1 (sendNamespace context socket).2.1
      { account with
        handed := account.handed ++ Relay.handedBy context.hostToNamespace socket
        failed := account.failed || (sendNamespace context socket).2.2 } := by
  have sent := Relay.sendBuffer_sent buffers context.hostToNamespace socket
  rw [sendNamespace_eq]
  constructor
  · have before := exact.toNamespace
    unfold Piped at before ⊢
    rw [← before]
    show (account.handed ++ _) ++ _ = account.handed ++ context.hostToNamespace
    rw [List.append_assoc, ← sent.parts]
  · exact exact.fetched
  · show Piped context.stream.written (buffers.rx (Relay.sendBuffer _ _).2.1) _
    rw [sent.rx]
    exact exact.toHost
  · show (Relay.sendBuffer context.hostToNamespace socket).1.length ≤ tcpBufSize
    have length := congrArg List.length sent.parts
    have bounded := exact.bounded
    rw [List.length_append] at length
    omega

/-- The write keeps both directions exact. -/
theorem exact_write (buffers : TcpBuffers stack.tcp) {context : ConnectionContext}
    {socket : stack.tcp.Socket} {account : Account} (exact : Exact buffers context socket account) :
    Exact buffers (writeHost context socket).1 (writeHost context socket).2.1
      { account with failed := account.failed || (writeHost context socket).2.2 } := by
  have wrote := Relay.writeStream_wrote buffers (stack.tcp.canRecv socket) context.stream socket
  rw [writeHost_eq]
  constructor
  · exact exact.toNamespace
  · show Piped account.fetched (TcpStream.remaining _) account.promised
    unfold TcpStream.remaining
    rw [wrote.incoming]
    exact exact.fetched
  · show Piped (TcpStream.written _) (buffers.rx _) (account.base ++ account.received)
    rw [wrote.written, wrote.consumed]
    exact exact.toHost.leave _
  · exact exact.bounded

/-- The mark for closing changes nothing else. -/
theorem noteNamespaceEof_eq (context : ConnectionContext) (socket : stack.tcp.Socket) :
    ∃ mark, noteNamespaceEof context socket = { context with closeAfterDrain := mark } ∧
      (context.closeAfterDrain = true → mark = true) := by
  unfold noteNamespaceEof
  split
  · exact ⟨true, rfl, fun _ => rfl⟩
  · exact ⟨context.closeAfterDrain, rfl, id⟩

/-- When the connection is closing, and what becomes of the socket of one that goes on. -/
theorem closeIfDone_cases {context : ConnectionContext} {socket used : stack.tcp.Socket}
    {failed closing : Bool} (done : closeIfDone context socket failed = (used, closing)) :
    (closing = false ∧ used = socket) ∨
      (closing = true ∧ (failed = true ∨
        (stack.tcp.state socket = .closed ∨ stack.tcp.state socket = .timeWait) ∨
        (context.closeAfterDrain = true ∧ context.hostToNamespace = [] ∧
          stack.tcp.sendQueue socket = 0 ∧ stack.tcp.recvQueue socket = 0))) := by
  unfold closeIfDone at done
  dsimp only at done
  split at done
  · rename_i reason
    exact .inr ⟨(Prod.mk.inj done).2.symm, reason⟩
  · exact .inl ⟨(Prod.mk.inj done).2.symm, (Prod.mk.inj done).1.symm⟩

/-- Every step keeps a connection sound. -/
theorem Connection.Step.sound (buffers : TcpBuffers stack.tcp) {before after : Connection stack}
    (step : Connection.Step buffers before after) (sound : before.Sound buffers) :
    after.Sound buffers := by
  cases step with
  | heardEarly more queued =>
    show buffers.rx _ = _
    rw [queued, show buffers.rx _ = _ from sound]
  | @opened stream socket received peerAddr =>
    constructor
    · exact Piped.start []
    · exact Piped.start stream.remaining
    · show stream.written ++ buffers.rx socket = stream.written ++ received
      rw [show buffers.rx socket = received from sound]
    · exact Nat.zero_le _
  | dropped => trivial
  | heard more queued =>
    have exact : Exact buffers _ _ _ := sound
    refine ⟨exact.toNamespace, exact.fetched, ?_, exact.bounded⟩
    rw [queued, ← List.append_assoc]
    exact exact.toHost.enter more
  | read => exact exact_read buffers sound
  | send => exact exact_send buffers sound
  | write => exact exact_write buffers sound
  | @note context socket account =>
    have exact : Exact buffers context socket account := sound
    obtain ⟨mark, marked, -⟩ := noteNamespaceEof_eq context socket
    rw [marked]
    exact ⟨exact.toNamespace, exact.fetched, exact.toHost, exact.bounded⟩
  | goOn done =>
    rcases closeIfDone_cases done with ⟨-, same⟩ | ⟨closing, -⟩
    · rw [same]
      exact sound
    · contradiction
  | close done => trivial

/-- Every connection that a run reaches is sound. -/
theorem Connection.Reachable.sound (buffers : TcpBuffers stack.tcp) {connection : Connection stack}
    (reached : Connection.Reachable buffers connection) : connection.Sound buffers := by
  obtain ⟨stream, socket, empty, run⟩ := reached
  induction run with
  | refl => exact empty
  | tail _ step ih => exact step.sound buffers ih

/-! ## The mark for closing -/

/-- The connection is marked for closing and has read this much from the host, with this schedule
of reads left; or it is over. -/
def Connection.Marked (fetched : List UInt8) (incoming : List ReadEvent) :
    Connection stack → Prop
  | .connecting _ _ _ => False
  | .established _ context _ account => context.closeAfterDrain = true ∧
    account.fetched = fetched ∧ context.stream.incoming = incoming
  | .closing => True

/-- The mark stays, and no read from the host happens after it. -/
theorem Connection.Step.marked (buffers : TcpBuffers stack.tcp) {before after : Connection stack}
    {fetched : List UInt8} {incoming : List ReadEvent}
    (step : Connection.Step buffers before after) (marked : before.Marked fetched incoming) :
    after.Marked fetched incoming := by
  cases step with
  | heardEarly _ _ => contradiction
  | opened _ => contradiction
  | dropped => contradiction
  | heard _ _ => exact marked
  | @read context socket account =>
    obtain ⟨mark, read, schedule⟩ := marked
    obtain ⟨same, nothing⟩ := (readHost_readsOn context).marked mark
    show _ ∧ account.fetched ++ readBytes context = fetched ∧ _
    rw [same, nothing, List.append_nil]
    exact ⟨mark, read, schedule⟩
  | @send context socket account =>
    show (sendNamespace context socket).1.closeAfterDrain = true ∧ account.fetched = fetched ∧
      (sendNamespace context socket).1.stream.incoming = incoming
    rw [sendNamespace_eq]
    exact marked
  | @write context socket account =>
    have wrote := Relay.writeStream_wrote buffers (stack.tcp.canRecv socket) context.stream socket
    obtain ⟨mark, read, schedule⟩ := marked
    show (writeHost context socket).1.closeAfterDrain = true ∧ account.fetched = fetched ∧
      (writeHost context socket).1.stream.incoming = incoming
    rw [writeHost_eq]
    exact ⟨mark, read, wrote.incoming.trans schedule⟩
  | @note context socket account =>
    obtain ⟨mark, noted, kept⟩ := noteNamespaceEof_eq context socket
    show (noteNamespaceEof context socket).closeAfterDrain = true ∧ _ ∧
      (noteNamespaceEof context socket).stream.incoming = incoming
    rw [noted]
    exact ⟨kept marked.1, marked.2⟩
  | goOn _ => exact marked
  | close _ => trivial

/-! ## The connection under a handle -/

/-- A connection is what a state of the component has under a handle. -/
def Connection.Shows (handle : SocketHandle) (state : PublishedTcp × stack.Sockets) :
    Connection stack → Prop
  | .connecting stream socket _ =>
    (∃ peerAddr createdAt,
      state.1.states.lookup handle = some (.connecting stream peerAddr createdAt)) ∧
    StackApi.getTcp state.2 handle = .ok socket
  | .established point context socket _ => point = .top ∧
    state.1.states.lookup handle = some (.established context) ∧
    StackApi.getTcp state.2 handle = .ok socket
  | .closing => state.1.states.lookup handle = some .closing

/-- The state under a handle after it was replaced. -/
theorem lookup_setState (published : PublishedTcp) (handle : SocketHandle) (state : State) :
    (published.setState handle state).states.lookup handle = some state := by
  unfold setState
  rw [HashMap.lookup_insert_if, if_pos rfl]

/-- A round of `shuttle_established` takes a connection through all its parts. -/
theorem shuttle_steps (buffers : TcpBuffers stack.tcp) {context next : ConnectionContext}
    {socket used : stack.tcp.Socket} {closing : Bool} (account : Account)
    (shuttled : shuttle context socket = (next, used, closing)) :
    ∃ later, Relation.ReflTransGen (Connection.Step buffers)
      (.established .top context socket account)
      (if closing then .closing else .established .top next used later) := by
  have steps : ∃ later : Account, later.failed = ((readHost context).2 ||
      (sendNamespace (readHost context).1 socket).2.2 ||
      (writeHost (sendNamespace (readHost context).1 socket).1
        (sendNamespace (readHost context).1 socket).2.1).2.2) ∧
      Relation.ReflTransGen (Connection.Step buffers) (.established .top context socket account)
        (.established .noted _ _ later) :=
    ⟨_, rfl, .head .read (.head .send (.head .write (.single .note)))⟩
  obtain ⟨later, failed, path⟩ := steps
  obtain ⟨moved, done⟩ := Prod.mk.inj shuttled
  refine ⟨later, path.tail ?_⟩
  rw [← moved]
  cases closing with
  | true => exact .close (by rw [failed]; exact done)
  | false => exact .goOn (by rw [failed]; exact done)

/-- `poll_connecting` makes a step of a connection under its handle. -/
theorem pollConnect_simulated (buffers : TcpBuffers stack.tcp) {clock : Nat → Nat}
    {handle : SocketHandle} {state next : PublishedTcp × stack.Sockets} {stream : TcpStream}
    {socket : stack.tcp.Socket} {received : List UInt8}
    (ran : pollConnect clock state handle = .ok next)
    (shows : (Connection.connecting stream socket received).Shows handle state) :
    ∃ later, Relation.ReflTransGen (Connection.Step buffers) (.connecting stream socket received)
      later ∧ later.Shows handle next := by
  obtain ⟨published, sockets⟩ := state
  obtain ⟨⟨peerAddr, createdAt, found⟩, got⟩ := shows
  unfold pollConnect at ran
  simp only [show published.states.lookup handle = _ from found,
    show StackApi.getTcp sockets handle = _ from got, bind, Except.bind] at ran
  split at ran
  · rw [← Except.ok.inj ran]
    exact ⟨_, .single (.opened peerAddr), rfl, lookup_setState _ _ _, got⟩
  · split at ran
    · rw [← Except.ok.inj ran]
      exact ⟨_, .single .dropped, lookup_setState _ _ _⟩
    · split at ran
      · rw [← Except.ok.inj ran]
        exact ⟨_, .single .dropped, lookup_setState _ _ _⟩
      · rw [← Except.ok.inj ran]
        exact ⟨_, .refl, ⟨peerAddr, createdAt, lookup_setState _ _ _⟩, got⟩

/-- `shuttle_established` makes a round of a connection under its handle. -/
theorem shuttleHandle_simulated (buffers : TcpBuffers stack.tcp) {handle : SocketHandle}
    {state next : PublishedTcp × stack.Sockets} {context : ConnectionContext}
    {socket : stack.tcp.Socket} {account : Account} (ran : shuttleHandle state handle = .ok next)
    (shows : (Connection.established .top context socket account).Shows handle state) :
    ∃ later, Relation.ReflTransGen (Connection.Step buffers)
      (.established .top context socket account) later ∧ later.Shows handle next := by
  obtain ⟨published, sockets⟩ := state
  obtain ⟨-, found, got⟩ := shows
  unfold shuttleHandle at ran
  simp only [show published.states.lookup handle = _ from found,
    show StackApi.getTcp sockets handle = _ from got, bind, Except.bind] at ran
  rcases shuttled : shuttle context socket with ⟨after, used, closing⟩
  rw [shuttled] at ran
  obtain ⟨later, steps⟩ := shuttle_steps buffers account shuttled
  rw [← Except.ok.inj ran]
  refine ⟨_, steps, ?_⟩
  cases closing with
  | true => exact lookup_setState _ _ _
  | false => exact ⟨rfl, lookup_setState _ _ _, StackApi.getTcp_set _ _ _⟩

/-! ## The pipes over whole runs -/

/-- Along every run of a connection and at every point of it, whatever the calls return: what was
handed to the send buffer and what waits in `host_to_namespace` is what was read from the host,
which is the front of what the host sends; what was written to the host and what the receive
queue holds is what was received from the namespace, from the first byte on; the buffer stays
within its size and every read has room for a byte; `close_after_drain` stays set and no read
from the host follows it; and a connection that closes without a failed call on a socket that is
neither closed nor in `TimeWait` has delivered everything in both directions. -/
theorem published_relay_exact (buffers : TcpBuffers stack.tcp) {point : Point}
    {context : ConnectionContext} {socket : stack.tcp.Socket} {account : Account}
    (reached : Connection.Reachable buffers (.established point context socket account)) :
    Piped account.handed context.hostToNamespace account.fetched ∧
    Piped account.fetched context.stream.remaining account.promised ∧
    Piped context.stream.written (buffers.rx socket) (account.base ++ account.received) ∧
    context.hostToNamespace.length ≤ tcpBufSize ∧
    (Reads context → 0 < tcpBufSize - context.hostToNamespace.length) ∧
    (context.closeAfterDrain = true → ¬ Reads context ∧
      ∀ later, Relation.ReflTransGen (Connection.Step buffers)
        (.established point context socket account) later →
        later.Marked account.fetched context.stream.incoming) ∧
    (point = .noted → (closeIfDone context socket account.failed).2 = true →
      account.failed = false → stack.tcp.state socket ≠ .closed →
      stack.tcp.state socket ≠ .timeWait →
      account.handed = account.fetched ∧ stack.tcp.sendQueue socket = 0 ∧
        context.stream.written = account.base ++ account.received) := by
  have exact : Exact buffers context socket account := reached.sound buffers
  refine ⟨exact.toNamespace, exact.fetched, exact.toHost, exact.bounded, ?_, ?_, ?_⟩
  · intro reads
    have room := reads.2
    omega
  · intro marked
    refine ⟨fun reads => by simp [reads.1] at marked, ?_⟩
    intro later run
    induction run with
    | refl => exact ⟨marked, rfl, rfl⟩
    | tail _ step kept => exact step.marked buffers kept
  · intro _ closing fine opened running
    rcases closeIfDone_cases (Prod.ext rfl closing : closeIfDone context socket account.failed =
      ((closeIfDone context socket account.failed).1, true)) with ⟨goes, -⟩ | ⟨-, reason⟩
    · contradiction
    · rcases reason with failed | (gone | gone) | ⟨-, empty, acknowledged, read⟩
      · rw [fine] at failed
        contradiction
      · exact absurd gone opened
      · exact absurd gone running
      · have queue : buffers.rx socket = [] := by
          rw [buffers.recvQueue_eq] at read
          exact List.length_eq_zero_iff.mp read
        exact ⟨exact.toNamespace.drained empty, acknowledged, exact.toHost.drained queue⟩

/-- A host that sends three bytes and ends, and has room for one byte. -/
def narrowHost : TcpStream :=
  ⟨[.data [1, 2, 3] (List.cons_ne_nil 1 [2, 3])], [.room 1 Nat.one_pos], []⟩

/-- Two bytes arrive from the namespace while the connection opens, and the host takes one of
them in the round that reads its three bytes. -/
theorem published_relay_exact_partial_write :
    ∃ (context : ConnectionContext) (socket : segmentStack.tcp.Socket) (account : Account),
      context.stream.written = [104] ∧ account.received = [104, 105] ∧
      account.handed = [1, 2, 3] ∧
      Piped account.handed context.hostToNamespace account.fetched ∧
      Piped context.stream.written (segmentBuffers.rx socket)
        (account.base ++ account.received) := by
  let asked : SegmentSocket := ⟨.synSent, 0, SegmentSocket.noPeer, [], 0⟩
  let opened : SegmentSocket := ⟨.established, 0, SegmentSocket.noPeer, [104, 105], 0⟩
  have early := @Connection.Step.heardEarly segmentStack segmentBuffers narrowHost asked opened []
    [104, 105] rfl
  have reached : Connection.Reachable segmentBuffers (.established .wrote _ _ _) :=
    ⟨narrowHost, asked, rfl, .head early (.head (.opened ⟨.new 192 0 2 1, 50000⟩)
      (.head .read (.head .send (.single .write))))⟩
  have exact := published_relay_exact segmentBuffers reached
  exact ⟨_, _, _, by decide, by decide, by decide, exact.1, exact.2.2.1⟩

end PublishedTcp

end NsProxy.EventLoop
