import NsProxy.Tun

/-!
# How the stack takes packets

What the program relies on when the stack works on the packets of the device. They are taken one
after the other; a SYN goes to the lowest socket that carries its four-tuple or listens on its
port, and only so does a socket get a four-tuple. A socket keeps the port of its listen endpoint
whatever is done with it.
-/

namespace NsProxy.Smoltcp

open Tun

/-- What a stack lets one see of its sockets. -/
structure SocketView (stack : StackApi) where
  /-- The four-tuple of a socket: the peer, then this side. -/
  tuple : stack.tcp.Socket → Option EndpointKey
  /-- The port of the listen endpoint. -/
  listenPort : stack.tcp.Socket → UInt16

namespace SocketView

variable {stack : StackApi} (view : SocketView stack)

/-- A socket listens on a port. -/
def Listens (socket : stack.tcp.Socket) (port : UInt16) : Prop :=
  stack.tcp.state socket = .listen ∧ view.listenPort socket = port

/-- A socket is open with a four-tuple. -/
def Carries (socket : stack.tcp.Socket) (key : EndpointKey) : Prop :=
  (stack.tcp.state socket ≠ .closed ∧ stack.tcp.state socket ≠ .listen) ∧
    view.tuple socket = some key

/-- The listener that takes the SYN of a four-tuple: no lower socket takes it. -/
structure Takes (sockets : stack.Sockets) (key : EndpointKey) (handle : SocketHandle) : Prop where
  /-- It listens on the port. -/
  listens : ∃ socket, sockets.lookup handle = some (.tcp socket) ∧ view.Listens socket key.dstPort
  /-- The lower sockets neither listen on the port nor carry the four-tuple. -/
  lowest : ∀ lower < handle, ∀ socket, sockets.lookup lower = some (.tcp socket) →
    ¬ view.Listens socket key.dstPort ∧ ¬ view.Carries socket key

/-- An operation on a socket that leaves its port alone and gives it no four-tuple. -/
structure Keeps (socket next : stack.tcp.Socket) : Prop where
  /-- The port stays. -/
  port : view.listenPort next = view.listenPort socket
  /-- The four-tuple stays or is given up. -/
  tuple : view.tuple next = view.tuple socket ∨ view.tuple next = none

end SocketView

/-- The documented behaviour of `Interface::poll` and of the socket operations around it. -/
structure Ingress (stack : StackApi) extends SocketView stack where
  /-- The four-tuple of a well-formed packet with SYN and without ACK. -/
  syn : List UInt8 → Option EndpointKey
  /-- Take one packet. -/
  receive : stack.Interface × stack.Sockets → List UInt8 → stack.Interface × stack.Sockets
  /-- Send what is to be sent at a time. -/
  transmit : Nat → stack.Interface × stack.Sockets → stack.Interface × stack.Sockets
  /-- `poll` takes the packets in order and then sends. -/
  poll_eq : ∀ now interface packets sockets,
    (stack.poll now interface packets sockets).2.2 =
      (transmit now (packets.foldl receive (interface, sockets))).2
  /-- The header fields are where `parse_tcp_syn` reads them. -/
  syn_read : ∀ packet key, syn packet = some key → parseTcpSyn packet = .ok (some key)
  /-- A socket that is neither closed nor listening has a four-tuple. -/
  tuple_some : ∀ socket, stack.tcp.state socket ≠ .closed → stack.tcp.state socket ≠ .listen →
    ∃ key, tuple socket = some key
  /-- A packet gives a four-tuple only to the listener that takes its SYN. -/
  receive_socket : ∀ state packet handle socket,
    state.2.lookup handle = some (.tcp socket) →
    ∃ next, (receive state packet).2.lookup handle = some (.tcp next) ∧
      (toSocketView.Keeps socket next ∨
        ∃ key, syn packet = some key ∧ toSocketView.Takes state.2 key handle ∧
          listenPort next = listenPort socket ∧ tuple next = some key)
  /-- Sending gives no four-tuple. -/
  transmit_socket : ∀ now state handle socket, state.2.lookup handle = some (.tcp socket) →
    ∃ next, (transmit now state).2.lookup handle = some (.tcp next) ∧
      toSocketView.Keeps socket next
  /-- A new socket can listen on every port but zero. -/
  listen_some : ∀ port, port ≠ 0 → ∃ socket, stack.tcp.listen stack.tcp.new port = some socket
  /-- A new listener has its port and no four-tuple. -/
  listen_new : ∀ port socket, stack.tcp.listen stack.tcp.new port = some socket →
    listenPort socket = port ∧ tuple socket = none
  /-- `abort` gives no four-tuple. -/
  abort_keeps : ∀ socket, toSocketView.Keeps socket (stack.tcp.abort socket)
  /-- `recv` gives no four-tuple. -/
  recvConsume_keeps : ∀ socket count,
    toSocketView.Keeps socket (stack.tcp.recvConsume socket count)
  /-- `send_slice` gives no four-tuple. -/
  sendSlice_keeps : ∀ socket bytes, toSocketView.Keeps socket (stack.tcp.sendSlice socket bytes).2

/-- What is documented of a listener beyond this: it has no four-tuple, and takes that of the SYN
it is given. -/
structure Ingress.Listening {stack : StackApi} (ingress : Ingress stack) : Prop where
  /-- A listener has no four-tuple. -/
  idle : ∀ socket, stack.tcp.state socket = .listen → ingress.tuple socket = none
  /-- The listener that takes a SYN has its four-tuple then. -/
  takes : ∀ state packet key handle, ingress.syn packet = some key →
    ingress.Takes state.2 key handle →
    ∃ next, (ingress.receive state packet).2.lookup handle = some (.tcp next) ∧
      ingress.tuple next = some key

namespace SocketView.Keeps

variable {stack : StackApi} {view : SocketView stack} {first second third : stack.tcp.Socket}

/-- A socket keeps itself. -/
theorem refl (view : SocketView stack) (socket : stack.tcp.Socket) : view.Keeps socket socket :=
  ⟨rfl, .inl rfl⟩

/-- A socket that is kept twice is kept. -/
theorem trans (one : view.Keeps first second) (two : view.Keeps second third) :
    view.Keeps first third := by
  refine ⟨two.port.trans one.port, ?_⟩
  rcases two.tuple with same | gone
  · rw [same]
    exact one.tuple
  · exact .inr gone

end SocketView.Keeps

end NsProxy.Smoltcp
