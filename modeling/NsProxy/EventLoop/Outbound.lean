import NsProxy.EventLoop.Dns
import NsProxy.Lib.Loop
import NsProxy.Proxy.Stream
import NsProxy.Rule.Routing
import NsProxy.Smoltcp.SocketSet
import NsProxy.Tun

/-!
# Connections out of the namespace

`OutboundTcp` of `event_loop/outbound.rs`: listen sockets for observed SYNs, upstream connect
tasks, the relay between a stack socket and a proxy stream, and the removal of closed
sockets. A method takes the socket set and returns it changed; what the outside decides (the
clock, the progress of tasks, the order in which a map is walked) is an argument.
-/

namespace NsProxy.EventLoop

open Smoltcp Tokio Tun

/-- `TCP_BUF_SIZE`. -/
def tcpBufSize : Nat := 65536

/-- `TCP_HANDSHAKE_TIMEOUT`, in milliseconds. -/
def tcpHandshakeTimeout : Nat := 32000

namespace Outbound

/-- A spawned `proxy.connect(&target)`, by the number of its `JoinHandle`. -/
structure ConnectTask where
  /-- The number of the task. -/
  id : Nat
  /-- The destination. -/
  target : ProxyTarget
  /-- The route. -/
  proxy : ProxyConfig

/-- What polling a `JoinHandle` returns. -/
inductive TaskPoll
  | pending
  /-- The task finished with a result. -/
  | finished (result : Except Error ProxyStream)
  /-- The task panicked. -/
  | panicked (message : String)

/-- What happens to tasks. -/
inductive TaskEvent
  | spawned (handle : SocketHandle) (task : ConnectTask)
  | polled (task : ConnectTask) (result : TaskPoll)
  | aborted (task : ConnectTask)

/-- `ProxyReadState`. -/
inductive ProxyReadState
  | open
  | eof
  | failed
  deriving DecidableEq, Repr

/-- `ForwardContext`. -/
structure ForwardContext where
  /-- `stream`. -/
  stream : ProxyStream
  /-- `proxy_to_app`. -/
  proxyToApp : List UInt8
  /-- `proxy_read_state`. -/
  proxyReadState : ProxyReadState

/-- `State`. -/
inductive State
  | listening (createdAt : Nat)
  | connecting (task : ConnectTask)
  | established (context : ForwardContext)
  | closing

/-- A listener. -/
def State.isListening : State → Bool
  | listening _ => true
  | _ => false

/-- `matches!(state, State::Connecting(_))`. -/
def State.isConnecting : State → Bool
  | connecting _ => true
  | _ => false

/-- `matches!(state, State::Established(_))`. -/
def State.isEstablished : State → Bool
  | established _ => true
  | _ => false

/-- `matches!(state, State::Closing)`. -/
def State.isClosing : State → Bool
  | closing => true
  | _ => false

end Outbound

open Outbound

/-- `OutboundTcp`, with the tasks it has spawned and what it did to them. -/
structure OutboundTcp where
  /-- `states`. -/
  states : HashMap SocketHandle State
  /-- `listening_endpoints`. -/
  listeningEndpoints : Finset EndpointKey
  /-- `handle_to_endpoint`. -/
  handleToEndpoint : HashMap SocketHandle EndpointKey
  /-- The number of the next task. -/
  nextTask : Nat
  /-- What happened to tasks, in order. -/
  taskLog : List TaskEvent

namespace OutboundTcp

variable {stack : StackApi} {regex : RegexApi}

/-- `OutboundTcp::new`. -/
def new : OutboundTcp := ⟨∅, ∅, ∅, 0, []⟩

/-- `self.states.insert`. -/
def setState (outbound : OutboundTcp) (handle : SocketHandle) (state : State) : OutboundTcp :=
  { outbound with states := outbound.states.insert handle state }

/-- Add to the log of tasks. -/
def record (outbound : OutboundTcp) (event : TaskEvent) : OutboundTcp :=
  { outbound with taskLog := outbound.taskLog ++ [event] }

/-- The handles of one kind of state, in the order in which the map is walked. -/
def handlesWhere (outbound : OutboundTcp) (order : IterOrder SocketHandle)
    (kind : State → Bool) : List SocketHandle :=
  (order.visit outbound.states.keys).filter fun handle => (outbound.states.lookup handle).any kind

/-! ## `observe_syns` -/

/-- The bookkeeping for a new listen socket. -/
def register (outbound : OutboundTcp) (handle : SocketHandle) (key : EndpointKey) (now : Nat) :
    OutboundTcp :=
  { outbound with
    states := outbound.states.insert handle (.listening now)
    listeningEndpoints := insert key outbound.listeningEndpoints
    handleToEndpoint := outbound.handleToEndpoint.insert handle key }

/-- One packet of `observe_syns`, seen at a time. -/
def observePacket (state : OutboundTcp × stack.Sockets) (packet : List UInt8 × Nat) :
    Run (OutboundTcp × stack.Sockets) := do
  let (outbound, sockets) := state
  match ← parseTcpSyn packet.1 with
  | none => return state
  | some key =>
    if key ∈ outbound.listeningEndpoints then return state
    else
      match stack.tcp.listen stack.tcp.new key.dstPort with
      | none => return state
      | some socket =>
        let (handle, sockets) := StackApi.add sockets (.tcp socket)
        return (outbound.register handle key packet.2, sockets)

/-- `OutboundTcp::observe_syns` on the packets of the receive queue; the clock is read at each
packet, by its position. -/
def observeSyns (clock : Nat → Nat) (packets : List (List UInt8))
    (state : OutboundTcp × stack.Sockets) : Run (OutboundTcp × stack.Sockets) :=
  (packets.zipIdx.map fun packet => (packet.1, clock packet.2)).foldlM observePacket state

/-! ## `update_listeners` -/

/-- The part of `update_listeners` that starts a connection. -/
def startConnect (config : AppConfig regex) (dns : DnsInterceptor) (outbound : OutboundTcp)
    (handle : SocketHandle) (endpoint : Endpoint) : Run OutboundTcp :=
  let target := dns.targetFor endpoint.addr endpoint.port
  match config.toConfig.proxyFor target with
  | none => .error .indexOutOfRange
  | some proxy =>
    let task : ConnectTask := ⟨outbound.nextTask, target, proxy⟩
    .ok (({ outbound with nextTask := outbound.nextTask + 1 }.record
      (.spawned handle task)).setState handle (.connecting task))

/-- One handle of `update_listeners`; the clock is read by handle. -/
def updateListener (config : AppConfig regex) (dns : DnsInterceptor) (clock : Nat → Nat)
    (state : OutboundTcp × stack.Sockets) (handle : SocketHandle) :
    Run (OutboundTcp × stack.Sockets) :=
  let (outbound, sockets) := state
  match outbound.states.lookup handle with
  | none => .error .missingKey
  | some (.listening createdAt) => do
    let socket ← StackApi.getTcp sockets handle
    let tcpState := stack.tcp.state socket
    if tcpState = .established ∨ tcpState = .closeWait then
      match stack.tcp.localEndpoint socket with
      | none => return state
      | some endpoint => return (← startConnect config dns outbound handle endpoint, sockets)
    else if tcpState = .closed ∨ tcpState = .timeWait then
      return (outbound.setState handle .closing, sockets)
    else if tcpHandshakeTimeout ≤ clock handle - createdAt then
      return (outbound.setState handle .closing,
        StackApi.set sockets handle (.tcp (stack.tcp.abort socket)))
    else return state
  | some _ => .ok state

/-- One listener of `log_listener_transitions`: its socket is read to be logged. -/
def logListener (state : OutboundTcp × stack.Sockets) (handle : SocketHandle) :
    Run (OutboundTcp × stack.Sockets) := do
  let _ ← StackApi.getTcp state.2 handle
  return state

/-- `OutboundTcp::log_listener_transitions`. -/
def logListenerTransitions (order : IterOrder SocketHandle)
    (state : OutboundTcp × stack.Sockets) : Run (OutboundTcp × stack.Sockets) :=
  (state.1.handlesWhere order State.isListening).foldlM logListener state

/-- `OutboundTcp::update_listeners`. -/
def updateListeners (config : AppConfig regex) (dns : DnsInterceptor) (clock : Nat → Nat)
    (order : IterOrder SocketHandle) (state : OutboundTcp × stack.Sockets) :
    Run (OutboundTcp × stack.Sockets) :=
  (order.visit state.1.states.keys).foldlM (updateListener config dns clock) state

/-! ## `poll_connecting` -/

/-- The client side is gone in these states. -/
def clientGone : TcpState → Bool
  | .closed | .closing | .timeWait | .finWait1 | .finWait2 | .lastAck => true
  | _ => false

/-- One handle of `poll_connecting`, with what polling its task returns. -/
def pollConnect (polls : Nat → TaskPoll) (state : (Bool × OutboundTcp) × stack.Sockets)
    (handle : SocketHandle) : Run ((Bool × OutboundTcp) × stack.Sockets) :=
  let ((ready, outbound), sockets) := state
  match outbound.states.lookup handle with
  | none => .error .missingKey
  | some (.connecting task) => do
    let removed := { outbound with states := outbound.states.erase handle }.record
      (.polled task (polls task.id))
    match polls task.id with
    | .finished (.ok stream) =>
      return ((true, removed.setState handle (.established ⟨stream, [], .open⟩)), sockets)
    | .finished (.error _) | .panicked _ =>
      let socket ← StackApi.getTcp sockets handle
      return ((true, removed.setState handle .closing),
        StackApi.set sockets handle (.tcp (stack.tcp.abort socket)))
    | .pending =>
      let socket ← StackApi.getTcp sockets handle
      if clientGone (stack.tcp.state socket) then
        return ((true, (removed.record (.aborted task)).setState handle .closing),
          StackApi.set sockets handle (.tcp (stack.tcp.abort socket)))
      else return ((ready, removed.setState handle (.connecting task)), sockets)
  | some _ => .error .unreachable

/-- `OutboundTcp::poll_connecting`. -/
def pollConnecting (polls : Nat → TaskPoll) (order : IterOrder SocketHandle)
    (state : OutboundTcp × stack.Sockets) : Run ((Bool × OutboundTcp) × stack.Sockets) :=
  (state.1.handlesWhere order State.isConnecting).foldlM (pollConnect polls)
    ((false, state.1), state.2)

/-! ## `shuttle_established` -/

/-- Bytes from the application to the proxy. -/
def writeProxy (context : ForwardContext) (socket : stack.tcp.Socket) :
    ForwardContext × stack.tcp.Socket :=
  if stack.tcp.mayRecv socket && stack.tcp.canRecv socket then
    match stack.tcp.recvData socket with
    | none => (context, socket)
    | some [] => (context, stack.tcp.recvConsume socket 0)
    | some data =>
      let (result, inner) := context.stream.inner.tryWrite data
      let context := { context with stream := { context.stream with inner := inner } }
      match result with
      | .ok written => (context, stack.tcp.recvConsume socket written)
      | .error .wouldBlock => (context, stack.tcp.recvConsume socket 0)
      | .error (.other _) => (context, stack.tcp.abort (stack.tcp.recvConsume socket 0))
  else (context, socket)

/-- Bytes from the proxy to the buffer. -/
def readProxy (context : ForwardContext) (socket : stack.tcp.Socket) :
    ForwardContext × stack.tcp.Socket :=
  if context.proxyReadState = .open ∧ context.proxyToApp.length < tcpBufSize then
    let space := tcpBufSize - context.proxyToApp.length
    let (result, stream) := context.stream.tryRead space
    let context := { context with stream := stream }
    match result with
    | .ok [] => ({ context with proxyReadState := .eof }, socket)
    | .ok bytes => ({ context with proxyToApp := context.proxyToApp ++ bytes }, socket)
    | .error .wouldBlock => (context, socket)
    | .error (.other _) => ({ context with proxyReadState := .failed }, stack.tcp.abort socket)
  else (context, socket)

/-- Bytes from the buffer to the application. -/
def sendApp (context : ForwardContext) (socket : stack.tcp.Socket) :
    ForwardContext × stack.tcp.Socket :=
  if context.proxyToApp ≠ [] ∧ stack.tcp.canSend socket = true then
    let freeSpace := tcpBufSize - stack.tcp.sendQueue socket
    let sendLen := min freeSpace context.proxyToApp.length
    if 0 < sendLen then
      match stack.tcp.sendSlice socket (context.proxyToApp.take sendLen) with
      | (some sent, socket) =>
        ({ context with proxyToApp := context.proxyToApp.drop sent }, socket)
      | (none, socket) => (context, stack.tcp.abort socket)
    else (context, socket)
  else (context, socket)

/-- The close conditions: the socket after them, and whether the connection is closing. -/
def closeIfDone (context : ForwardContext) (socket : stack.tcp.Socket) :
    stack.tcp.Socket × Bool :=
  let drainedAfterEof := context.proxyReadState = .eof ∧ context.proxyToApp = [] ∧
    stack.tcp.sendQueue socket = 0 ∧ stack.tcp.maySend socket = true
  let socket := if drainedAfterEof then stack.tcp.abort socket else socket
  if !stack.tcp.mayRecv socket || !stack.tcp.maySend socket then (stack.tcp.abort socket, true)
  else (socket, false)

/-- The body of `shuttle_established` for one connection. -/
def shuttle (context : ForwardContext) (socket : stack.tcp.Socket) :
    ForwardContext × stack.tcp.Socket × Bool :=
  let (context, socket) := writeProxy context socket
  let (context, socket) := readProxy context socket
  let (context, socket) := sendApp context socket
  let (socket, closing) := closeIfDone context socket
  (context, socket, closing)

/-- One handle of `shuttle_established`. -/
def shuttleHandle (state : OutboundTcp × stack.Sockets) (handle : SocketHandle) :
    Run (OutboundTcp × stack.Sockets) :=
  let (outbound, sockets) := state
  match outbound.states.lookup handle with
  | none => .error .missingKey
  | some (.established context) => do
    let socket ← StackApi.getTcp sockets handle
    let (context, socket, closing) := shuttle context socket
    return (outbound.setState handle (if closing then .closing else .established context),
      StackApi.set sockets handle (.tcp socket))
  | some _ => .ok state

/-- `OutboundTcp::shuttle_established`. -/
def shuttleEstablished (order : IterOrder SocketHandle) (state : OutboundTcp × stack.Sockets) :
    Run (OutboundTcp × stack.Sockets) :=
  (state.1.handlesWhere order State.isEstablished).foldlM shuttleHandle state

/-! ## The methods that the event loop calls -/

/-- What the outside decides during `OutboundTcp::process`. -/
structure ProcessInput where
  /-- The clock, read at each handle. -/
  clock : Nat → Nat
  /-- The walk of `log_listener_transitions`. -/
  logOrder : IterOrder SocketHandle
  /-- The walk of `update_listeners`. -/
  updateOrder : IterOrder SocketHandle
  /-- The walk of `shuttle_established`. -/
  shuttleOrder : IterOrder SocketHandle

/-- `OutboundTcp::process`. -/
def process (config : AppConfig regex) (dns : DnsInterceptor) (input : ProcessInput)
    (state : OutboundTcp × stack.Sockets) : Run (OutboundTcp × stack.Sockets) := do
  let state ← logListenerTransitions input.logOrder state
  let state ← updateListeners config dns input.clock input.updateOrder state
  shuttleEstablished input.shuttleOrder state

/-- One handle of the loop of `poll_ready`. -/
def pollHandle (outbound : OutboundTcp) (sockets : stack.Sockets) (ready : Bool)
    (handle : SocketHandle) : Run Bool :=
  match outbound.states.lookup handle with
  | some (.established context) => do
    let socket ← StackApi.getTcp sockets handle
    let read := context.proxyReadState = .open ∧ context.proxyToApp.length < tcpBufSize ∧
      context.stream.pollReadReady = true
    let write := stack.tcp.canRecv socket && context.stream.inner.writeReady
    return ready || read || write
  | _ => .ok ready

/-- What the outside decides during `OutboundTcp::poll_ready`. -/
structure PollInput where
  /-- What polling each task returns. -/
  polls : Nat → TaskPoll
  /-- The walk of `poll_connecting`. -/
  connectOrder : IterOrder SocketHandle
  /-- The walk of `poll_ready`. -/
  readyOrder : IterOrder SocketHandle

/-- `OutboundTcp::poll_ready`: whether it is ready. -/
def pollReady (input : PollInput) (state : OutboundTcp × stack.Sockets) :
    Run (Bool × OutboundTcp × stack.Sockets) := do
  let ((ready, outbound), sockets) ← pollConnecting input.polls input.connectOrder state
  let ready ← (input.readyOrder.visit outbound.states.keys).foldlM
    (pollHandle outbound sockets) ready
  return (ready, outbound, sockets)

/-- The bookkeeping for a removed socket. -/
def forget (outbound : OutboundTcp) (handle : SocketHandle) : OutboundTcp :=
  { outbound with
    states := outbound.states.erase handle
    listeningEndpoints := match outbound.handleToEndpoint.lookup handle with
      | some endpoint => outbound.listeningEndpoints.erase endpoint
      | none => outbound.listeningEndpoints
    handleToEndpoint := outbound.handleToEndpoint.erase handle }

/-- One handle of `cleanup`. -/
def cleanupHandle (state : OutboundTcp × stack.Sockets) (handle : SocketHandle) :
    Run (OutboundTcp × stack.Sockets) := do
  let sockets ← StackApi.remove state.2 handle
  return (state.1.forget handle, sockets)

/-- `OutboundTcp::cleanup`. -/
def cleanup (order : IterOrder SocketHandle) (state : OutboundTcp × stack.Sockets) :
    Run (OutboundTcp × stack.Sockets) :=
  (state.1.handlesWhere order State.isClosing).foldlM cleanupHandle state

/-- What dropping one state does to a task. -/
def dropState (outbound : OutboundTcp) (handle : SocketHandle) : Option TaskEvent :=
  match outbound.states.lookup handle with
  | some (.connecting task) => some (.aborted task)
  | _ => none

/-- `Drop for OutboundTcp`: the states are drained in some order. -/
def drop (outbound : OutboundTcp) (order : IterOrder SocketHandle) : OutboundTcp :=
  { outbound with
    states := ∅
    taskLog := outbound.taskLog ++ (order.visit outbound.states.keys).filterMap outbound.dropState }

end OutboundTcp

end NsProxy.EventLoop
