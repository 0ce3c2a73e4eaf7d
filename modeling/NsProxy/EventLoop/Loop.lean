import NsProxy.EventLoop.OutboundChanges
import NsProxy.EventLoop.PublishedChanges

/-!
# The event loop

`EventLoop` of `event_loop.rs`: one socket set, shared by the DNS interceptor, the outbound and
the published connections. `tick` is one iteration in the order of the source. Between ticks
the loop waits, and while it waits the readiness of both TCP components may be polled any
number of times; accept tasks send connections at any moment.
-/

namespace NsProxy

namespace EventLoop

open Smoltcp

/-- `DnsInterceptor::process` on the socket set. -/
def DnsInterceptor.processSet {stack : StackApi} (dns : DnsInterceptor) (sockets : stack.Sockets) :
    Run (DnsInterceptor × stack.Sockets) := do
  let socket ← StackApi.getUdp sockets dns.handle
  let (next, socket) := dns.process stack.udp socket
  return (next, StackApi.set sockets dns.handle (.udp socket))

/-- `DnsInterceptor::new`: the interceptor and the socket set with its socket. -/
def DnsInterceptor.new {stack : StackApi} (sockets : stack.Sockets) :
    DnsInterceptor × stack.Sockets :=
  let (handle, sockets) := StackApi.add sockets (.udp stack.dnsSocket)
  (⟨handle, FakeDns.new⟩, sockets)

end EventLoop

open Smoltcp EventLoop Published

/-- `EventLoop`. -/
structure EventLoop (stack : StackApi) (regex : RegexApi) where
  /-- `config`. -/
  config : AppConfig regex
  /-- The packets in the receive queue of `device`. -/
  rxQueue : List (List UInt8)
  /-- `interface`. -/
  interface : stack.Interface
  /-- `sockets`. -/
  sockets : stack.Sockets
  /-- `dns`. -/
  dns : DnsInterceptor
  /-- `outbound`. -/
  outbound : OutboundTcp
  /-- `published`. -/
  published : PublishedTcp

namespace EventLoop

variable {stack : StackApi} {regex : RegexApi}

/-- `EventLoop::new`, with the interface that it configured. -/
def new (config : AppConfig regex) (interface : stack.Interface) : EventLoop stack regex :=
  let (dns, sockets) := DnsInterceptor.new (∅ : stack.Sockets)
  ⟨config, [], interface, sockets, dns, .new, .new⟩

/-- What the outside decides during a tick. -/
structure TickInput where
  /-- The packets read from the TUN device. -/
  packets : List (List UInt8)
  /-- The clock of `observe_syns`. -/
  synClock : Nat → Nat
  /-- The clock of `attach_accepted`. -/
  attachClock : Nat → Nat
  /-- What the accept tasks send while `attach_accepted` empties the channel. -/
  late : List AcceptedConnection
  /-- The time of the first `Interface::poll`. -/
  firstPoll : Nat
  /-- For `OutboundTcp::process`. -/
  outbound : OutboundTcp.ProcessInput
  /-- For `PublishedTcp::process`. -/
  published : PublishedTcp.ProcessInput
  /-- The time of the second `Interface::poll`. -/
  secondPoll : Nat
  /-- The walk of `OutboundTcp::cleanup`. -/
  outboundCleanup : IterOrder SocketHandle
  /-- The walk of `PublishedTcp::cleanup`. -/
  publishedCleanup : IterOrder SocketHandle

/-- `Interface::poll` on the device and the sockets of the loop. -/
def pollInterface (loop : EventLoop stack regex) (now : Nat) : EventLoop stack regex :=
  let (interface, rxQueue, sockets) := stack.poll now loop.interface loop.rxQueue loop.sockets
  { loop with interface := interface, rxQueue := rxQueue, sockets := sockets }

/-- The part of a tick before the first `Interface::poll`. -/
def observe (loop : EventLoop stack regex) (input : TickInput) : Run (EventLoop stack regex) := do
  let rxQueue := loop.rxQueue ++ input.packets
  let (outbound, sockets) ←
    OutboundTcp.observeSyns input.synClock rxQueue (loop.outbound, loop.sockets)
  let (_, interface, published, sockets) := PublishedTcp.attachAccepted input.attachClock
    input.late loop.interface (loop.published, sockets)
  return { loop with
    rxQueue := rxQueue
    interface := interface
    sockets := sockets
    outbound := outbound
    published := published }

/-- The part of a tick between the two calls of `Interface::poll`. -/
def serve (loop : EventLoop stack regex) (input : TickInput) : Run (EventLoop stack regex) := do
  let (dns, sockets) ← loop.dns.processSet loop.sockets
  let (outbound, sockets) ←
    OutboundTcp.process loop.config dns input.outbound (loop.outbound, sockets)
  let (published, sockets) ← PublishedTcp.process input.published (loop.published, sockets)
  return { loop with
    sockets := sockets
    dns := dns
    outbound := outbound
    published := published }

/-- The part of a tick after the second `Interface::poll`. -/
def cleanup (loop : EventLoop stack regex) (input : TickInput) : Run (EventLoop stack regex) := do
  let (outbound, sockets) ← OutboundTcp.cleanup input.outboundCleanup (loop.outbound, loop.sockets)
  let (published, sockets) ← PublishedTcp.cleanup input.publishedCleanup (loop.published, sockets)
  return { loop with sockets := sockets, outbound := outbound, published := published }

/-- `EventLoop::tick`. -/
def tick (loop : EventLoop stack regex) (input : TickInput) : Run (EventLoop stack regex) := do
  let loop ← loop.observe input
  let loop ← (loop.pollInterface input.firstPoll).serve input
  (loop.pollInterface input.secondPoll).cleanup input

/-- The closure that `wait_for_work` polls: whether it is ready. -/
def pollReady (loop : EventLoop stack regex) (outbound : OutboundTcp.PollInput)
    (published : PublishedTcp.PollInput) : Run (Bool × EventLoop stack regex) := do
  let (outboundReady, outboundNext, sockets) ←
    OutboundTcp.pollReady outbound (loop.outbound, loop.sockets)
  let (publishedReady, publishedNext, sockets) ←
    PublishedTcp.pollReady published (loop.published, sockets)
  return (outboundReady || publishedReady,
    { loop with sockets := sockets, outbound := outboundNext, published := publishedNext })

/-- A step of the running loop. -/
inductive Event
  /-- One iteration. -/
  | tick (input : TickInput)
  /-- A poll of readiness while the loop waits. -/
  | poll (outbound : OutboundTcp.PollInput) (published : PublishedTcp.PollInput)
  /-- An accept task sends a connection, or waits because the channel is full. -/
  | accept (accepted : AcceptedConnection)

/-- Take a step. -/
def step (loop : EventLoop stack regex) : Event → Run (EventLoop stack regex)
  | .tick input => loop.tick input
  | .poll outbound published => do
    let (_, loop) ← loop.pollReady outbound published
    return loop
  | .accept accepted =>
    return { loop with published := (loop.published.send accepted).getD loop.published }

/-- Take steps in order. -/
def run (loop : EventLoop stack regex) (events : List Event) : Run (EventLoop stack regex) :=
  events.foldlM step loop

end EventLoop

end NsProxy
