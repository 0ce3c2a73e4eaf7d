import NsProxy.EventLoop.Outbound
import NsProxy.EventLoop.PortAllocator

/-!
# Connections into the namespace

`PublishedTcp` of `event_loop/published.rs`: accepted host connections wait in a channel, get a
source port and a stack socket, and are relayed until either side is done. The accept tasks
run beside the event loop, so the channel may grow at any moment; what they send while it is
being drained is an argument.
-/

namespace NsProxy

/-- `TUN_ADDR`. -/
def tunAddr : Ipv4Addr := .new 172 23 255 255

/-- `TUN_GW`. -/
def tunGw : Ipv4Addr := .new 172 23 255 254

/-- `PublishSpec`. -/
structure PublishSpec where
  /-- `host_ip`. -/
  hostIp : Ipv4Addr
  /-- `host_port`. -/
  hostPort : UInt16
  /-- `namespace_port`. -/
  namespacePort : UInt16
  deriving DecidableEq, Repr

namespace EventLoop

open Smoltcp Tokio

namespace Published

/-- `ACCEPT_QUEUE`. -/
def acceptQueue : Nat := 128

/-- `AcceptedConnection`. The listeners are IPv4 sockets, so the peer is an IPv4 endpoint. -/
structure AcceptedConnection where
  /-- `stream`. -/
  stream : TcpStream
  /-- `peer_addr`. -/
  peerAddr : Endpoint
  /-- `spec`. -/
  spec : PublishSpec
  deriving DecidableEq

/-- `ConnectionContext`. -/
structure ConnectionContext where
  /-- `stream`. -/
  stream : TcpStream
  /-- `peer_addr`. -/
  peerAddr : Endpoint
  /-- `host_to_namespace`. -/
  hostToNamespace : List UInt8
  /-- `close_after_drain`. -/
  closeAfterDrain : Bool

/-- `State`. -/
inductive State
  | connecting (stream : TcpStream) (peerAddr : Endpoint) (createdAt : Nat)
  | established (context : ConnectionContext)
  | closing

/-- `matches!(state, State::Connecting { .. })`. -/
def State.isConnecting : State → Bool
  | connecting _ _ _ => true
  | _ => false

/-- `matches!(state, State::Established(_))`. -/
def State.isEstablished : State → Bool
  | established _ => true
  | _ => false

/-- `matches!(state, State::Closing)`. -/
def State.isClosing : State → Bool
  | closing => true
  | _ => false

/-- What `attach_accepted` does with a connection. -/
inductive Outcome
  /-- It is connected to the namespace under a handle, from a source port. -/
  | attached (handle : SocketHandle) (port : UInt16)
  /-- It is dropped because no source port is free. -/
  | exhausted
  /-- It is dropped because the stack refuses to connect. -/
  | refused
  deriving DecidableEq, Repr

end Published

open Published

/-- `PublishedTcp`. -/
structure PublishedTcp where
  /-- `states`. -/
  states : HashMap SocketHandle State
  /-- `handle_to_port`. -/
  handleToPort : HashMap SocketHandle UInt16
  /-- `ports`. -/
  ports : PortAllocator
  /-- What waits in `accepted_rx`, oldest first. -/
  acceptedRx : List AcceptedConnection
  /-- `pending`. -/
  pending : List AcceptedConnection

namespace PublishedTcp

variable {stack : StackApi}

/-- `PublishedTcp::new`; the accept tasks have sent nothing yet. -/
def new : PublishedTcp := ⟨∅, ∅, .new, [], []⟩

/-- `self.states.insert`. -/
def setState (published : PublishedTcp) (handle : SocketHandle) (state : State) : PublishedTcp :=
  { published with states := published.states.insert handle state }

/-- The handles of one kind of state, in the order in which the map is walked. -/
def handlesWhere (published : PublishedTcp) (order : IterOrder SocketHandle)
    (kind : State → Bool) : List SocketHandle :=
  (order.visit published.states.keys).filter fun handle =>
    (published.states.lookup handle).any kind

/-- An accept task sends a connection; it waits while the channel is full. -/
def send (published : PublishedTcp) (accepted : AcceptedConnection) : Option PublishedTcp :=
  if published.acceptedRx.length < acceptQueue then
    some { published with acceptedRx := published.acceptedRx ++ [accepted] }
  else none

/-! ## `attach_accepted` -/

/-- The loop over `try_recv`: it ends when the channel is empty. `late` is what the accept
tasks send while it runs. -/
def receiveAll (published : PublishedTcp) (late : List AcceptedConnection) : PublishedTcp :=
  { published with
    acceptedRx := []
    pending := published.pending ++ (published.acceptedRx ++ late) }

/-- The bookkeeping for a connection with a socket. -/
def enroll (published : PublishedTcp) (handle : SocketHandle) (port : UInt16)
    (accepted : AcceptedConnection) (now : Nat) : PublishedTcp :=
  { published with
    states := published.states.insert handle
      (.connecting accepted.stream accepted.peerAddr now)
    handleToPort := published.handleToPort.insert handle port }

/-- One connection of `attach_accepted`, at a time. -/
def attach (now : Nat) (interface : stack.Interface) (state : PublishedTcp × stack.Sockets)
    (accepted : AcceptedConnection) :
    Outcome × stack.Interface × PublishedTcp × stack.Sockets :=
  let (published, sockets) := state
  match published.ports.allocate with
  | (none, ports) => (.exhausted, interface, { published with ports := ports }, sockets)
  | (some localPort, ports) =>
    let published := { published with ports := ports }
    let remote : Endpoint := ⟨tunAddr, accepted.spec.namespacePort⟩
    let localEndpoint : Endpoint := ⟨tunGw, localPort⟩
    match stack.connect interface stack.tcp.new remote localEndpoint with
    | (none, interface) =>
      (.refused, interface, { published with ports := published.ports.release localPort }, sockets)
    | (some socket, interface) =>
      let (handle, sockets) := StackApi.add sockets (.tcp socket)
      (.attached handle localPort, interface, published.enroll handle localPort accepted now,
        sockets)

/-- The loop of `attach_accepted` over the drained connections, each seen at a time, with what
became of each. -/
def attachAll (interface : stack.Interface) (state : PublishedTcp × stack.Sockets) :
    List (AcceptedConnection × Nat) →
      List (AcceptedConnection × Outcome) × stack.Interface × PublishedTcp × stack.Sockets
  | [] => ([], interface, state)
  | (accepted, now) :: rest =>
    let (outcome, interface, state) := attach now interface state accepted
    let (outcomes, final) := attachAll interface state rest
    ((accepted, outcome) :: outcomes, final)

/-- `PublishedTcp::attach_accepted`, with what became of each connection; the clock is read at
each connection, by its position. -/
def attachAccepted (clock : Nat → Nat) (late : List AcceptedConnection)
    (interface : stack.Interface) (state : PublishedTcp × stack.Sockets) :
    List (AcceptedConnection × Outcome) × stack.Interface × PublishedTcp × stack.Sockets :=
  let received := state.1.receiveAll late
  attachAll interface ({ received with pending := [] }, state.2)
    (received.pending.zipIdx.map fun accepted => (accepted.1, clock accepted.2))

/-! ## `poll_connecting` -/

/-- One handle of `poll_connecting`; the clock is read by handle. -/
def pollConnect (clock : Nat → Nat) (state : PublishedTcp × stack.Sockets)
    (handle : SocketHandle) : Run (PublishedTcp × stack.Sockets) :=
  let (published, sockets) := state
  match published.states.lookup handle with
  | none => .error .missingKey
  | some (.connecting stream peerAddr createdAt) => do
    let removed := { published with states := published.states.erase handle }
    let socket ← StackApi.getTcp sockets handle
    let tcpState := stack.tcp.state socket
    if tcpState = .established ∨ tcpState = .closeWait then
      return (removed.setState handle (.established ⟨stream, peerAddr, [], false⟩), sockets)
    else if tcpState = .closed ∨ tcpState = .timeWait then
      return (removed.setState handle .closing, sockets)
    else if tcpHandshakeTimeout ≤ clock handle - createdAt then
      return (removed.setState handle .closing,
        StackApi.set sockets handle (.tcp (stack.tcp.abort socket)))
    else return (removed.setState handle (.connecting stream peerAddr createdAt), sockets)
  | some _ => .error .unreachable

/-- `PublishedTcp::poll_connecting`. -/
def pollConnecting (clock : Nat → Nat) (order : IterOrder SocketHandle)
    (state : PublishedTcp × stack.Sockets) : Run (PublishedTcp × stack.Sockets) :=
  (state.1.handlesWhere order State.isConnecting).foldlM (pollConnect clock) state

/-! ## `shuttle_established` -/

/-- Bytes from the host to the buffer, and whether the read failed. -/
def readHost (context : ConnectionContext) : ConnectionContext × Bool :=
  if context.closeAfterDrain = false ∧ context.hostToNamespace.length < tcpBufSize then
    let space := tcpBufSize - context.hostToNamespace.length
    let (result, stream) := context.stream.tryRead space
    let context := { context with stream := stream }
    match result with
    | .ok [] => ({ context with closeAfterDrain := true }, false)
    | .ok bytes => ({ context with hostToNamespace := context.hostToNamespace ++ bytes }, false)
    | .error .wouldBlock => (context, false)
    | .error (.other _) => (context, true)
  else (context, false)

/-- Bytes from the buffer to the namespace, and whether the send failed. -/
def sendNamespace (context : ConnectionContext) (socket : stack.tcp.Socket) :
    ConnectionContext × stack.tcp.Socket × Bool :=
  if context.hostToNamespace ≠ [] ∧ stack.tcp.canSend socket = true then
    let freeSpace := tcpBufSize - stack.tcp.sendQueue socket
    let sendLen := min freeSpace context.hostToNamespace.length
    if 0 < sendLen then
      match stack.tcp.sendSlice socket (context.hostToNamespace.take sendLen) with
      | (some sent, socket) =>
        ({ context with hostToNamespace := context.hostToNamespace.drop sent }, socket, false)
      | (none, socket) => (context, socket, true)
    else (context, socket, false)
  else (context, socket, false)

/-- Bytes from the namespace to the host, and whether the write failed. -/
def writeHost (context : ConnectionContext) (socket : stack.tcp.Socket) :
    ConnectionContext × stack.tcp.Socket × Bool :=
  if stack.tcp.canRecv socket then
    match stack.tcp.recvData socket with
    | none => (context, socket, false)
    | some [] => (context, stack.tcp.recvConsume socket 0, false)
    | some data =>
      let (result, stream) := context.stream.tryWrite data
      let context := { context with stream := stream }
      match result with
      | .ok written => (context, stack.tcp.recvConsume socket written, false)
      | .error .wouldBlock => (context, stack.tcp.recvConsume socket 0, false)
      | .error (.other _) => (context, stack.tcp.recvConsume socket 0, true)
  else (context, socket, false)

/-- The namespace has ended its direction and everything it sent was taken. -/
def noteNamespaceEof (context : ConnectionContext) (socket : stack.tcp.Socket) :
    ConnectionContext :=
  if stack.tcp.mayRecv socket = false ∧ stack.tcp.recvQueue socket = 0 then
    { context with closeAfterDrain := true }
  else context

/-- The close conditions: the socket after them, and whether the connection is closing. -/
def closeIfDone (context : ConnectionContext) (socket : stack.tcp.Socket) (failed : Bool) :
    stack.tcp.Socket × Bool :=
  let namespaceClosed := stack.tcp.state socket = .closed ∨ stack.tcp.state socket = .timeWait
  let drainedAfterEof := context.closeAfterDrain = true ∧ context.hostToNamespace = [] ∧
    stack.tcp.sendQueue socket = 0 ∧ stack.tcp.recvQueue socket = 0
  if failed = true ∨ namespaceClosed ∨ drainedAfterEof then
    (if namespaceClosed then socket else stack.tcp.abort socket, true)
  else (socket, false)

/-- The body of `shuttle_established` for one connection. -/
def shuttle (context : ConnectionContext) (socket : stack.tcp.Socket) :
    ConnectionContext × stack.tcp.Socket × Bool :=
  let (context, readFailed) := readHost context
  let (context, socket, sendFailed) := sendNamespace context socket
  let (context, socket, writeFailed) := writeHost context socket
  let context := noteNamespaceEof context socket
  let (socket, closing) := closeIfDone context socket (readFailed || sendFailed || writeFailed)
  (context, socket, closing)

/-- One handle of `shuttle_established`. -/
def shuttleHandle (state : PublishedTcp × stack.Sockets) (handle : SocketHandle) :
    Run (PublishedTcp × stack.Sockets) :=
  let (published, sockets) := state
  match published.states.lookup handle with
  | none => .error .missingKey
  | some (.established context) => do
    let socket ← StackApi.getTcp sockets handle
    let (context, socket, closing) := shuttle context socket
    return (published.setState handle (if closing then .closing else .established context),
      StackApi.set sockets handle (.tcp socket))
  | some _ => .ok state

/-- `PublishedTcp::shuttle_established`. -/
def shuttleEstablished (order : IterOrder SocketHandle) (state : PublishedTcp × stack.Sockets) :
    Run (PublishedTcp × stack.Sockets) :=
  (state.1.handlesWhere order State.isEstablished).foldlM shuttleHandle state

/-! ## The methods that the event loop calls -/

/-- What the outside decides during `PublishedTcp::process`. -/
structure ProcessInput where
  /-- The clock, read at each handle. -/
  clock : Nat → Nat
  /-- The walk of `poll_connecting`. -/
  connectOrder : IterOrder SocketHandle
  /-- The walk of `shuttle_established`. -/
  shuttleOrder : IterOrder SocketHandle

/-- `PublishedTcp::process`. -/
def process (input : ProcessInput) (state : PublishedTcp × stack.Sockets) :
    Run (PublishedTcp × stack.Sockets) := do
  let state ← pollConnecting input.clock input.connectOrder state
  shuttleEstablished input.shuttleOrder state

/-- `poll_recv` of `poll_ready`: it takes the oldest connection unless the runtime makes the
task yield. -/
def pollRecv (published : PublishedTcp) (yields : Bool) : Bool × PublishedTcp :=
  match published.acceptedRx with
  | [] => (false, published)
  | accepted :: rest =>
    if yields then (false, published)
    else (true, { published with
      acceptedRx := rest
      pending := published.pending ++ [accepted] })

/-- One handle of the loop of `poll_ready`. -/
def pollHandle (published : PublishedTcp) (sockets : stack.Sockets) (ready : Bool)
    (handle : SocketHandle) : Run Bool :=
  match published.states.lookup handle with
  | some (.established context) => do
    let socket ← StackApi.getTcp sockets handle
    let read := context.closeAfterDrain = false ∧ context.hostToNamespace.length < tcpBufSize ∧
      context.stream.readReady = true
    let write := stack.tcp.canRecv socket && context.stream.writeReady
    return ready || read || write
  | _ => .ok ready

/-- What the outside decides during `PublishedTcp::poll_ready`. -/
structure PollInput where
  /-- The runtime makes the task yield at the channel. -/
  yields : Bool
  /-- The walk of `poll_ready`. -/
  readyOrder : IterOrder SocketHandle

/-- `PublishedTcp::poll_ready`: whether it is ready. -/
def pollReady (input : PollInput) (state : PublishedTcp × stack.Sockets) :
    Run (Bool × PublishedTcp × stack.Sockets) := do
  let (ready, published) := state.1.pollRecv input.yields
  let ready ← (input.readyOrder.visit published.states.keys).foldlM
    (pollHandle published state.2) ready
  return (ready, published, state.2)

/-- The bookkeeping for a removed socket. -/
def forget (published : PublishedTcp) (handle : SocketHandle) : PublishedTcp :=
  { published with
    states := published.states.erase handle
    handleToPort := published.handleToPort.erase handle
    ports := match published.handleToPort.lookup handle with
      | some port => published.ports.release port
      | none => published.ports }

/-- One handle of `cleanup`. -/
def cleanupHandle (state : PublishedTcp × stack.Sockets) (handle : SocketHandle) :
    Run (PublishedTcp × stack.Sockets) := do
  let sockets ← StackApi.remove state.2 handle
  return (state.1.forget handle, sockets)

/-- `PublishedTcp::cleanup`. -/
def cleanup (order : IterOrder SocketHandle) (state : PublishedTcp × stack.Sockets) :
    Run (PublishedTcp × stack.Sockets) :=
  (state.1.handlesWhere order State.isClosing).foldlM cleanupHandle state

end PublishedTcp

end EventLoop

end NsProxy
