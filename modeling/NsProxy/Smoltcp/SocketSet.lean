import Mathlib.Data.Finset.Lattice.Fold
import Mathlib.Data.Finset.Range
import Mathlib.Order.Lattice.Nat
import NsProxy.Lib.HashMap
import NsProxy.Lib.Ownership
import NsProxy.Smoltcp.Tcp
import NsProxy.Smoltcp.Udp

/-!
# The socket set

`SocketSet` holds the sockets of the stack under handles. An access under a handle that is
not in the set, or with the wrong socket type, is a panic; so are the other failures that the
event loop could run into, and every one of them is a value here. The interface that drives
the sockets is a parameter of the model: polling it may do anything to a socket except move
it, replace it by one of another type, or add or remove one.
-/

namespace NsProxy

/-- The ways in which a function of the event loop can panic. -/
inductive Panic
  /-- An access to the socket set under a handle that is not live. -/
  | deadHandle
  /-- An access to a socket as one of another type. -/
  | wrongSocketType
  /-- `unwrap` or an index on a map without the key. -/
  | missingKey
  /-- An index outside a slice. -/
  | indexOutOfRange
  /-- `unreachable!`. -/
  | unreachable
  deriving DecidableEq, Repr

/-- A computation that may panic. -/
abbrev Run (α : Type) : Type := Except Panic α

namespace Smoltcp

/-- The two socket types that the program uses. -/
inductive SocketKind
  | tcp
  | udp
  deriving DecidableEq, Repr

/-- A socket of the set. -/
inductive AnySocket (tcp : TcpApi) (udp : UdpApi)
  | tcp (socket : tcp.Socket)
  | udp (socket : udp.Socket)

/-- The type of a socket. -/
def AnySocket.kind {tcp : TcpApi} {udp : UdpApi} : AnySocket tcp udp → SocketKind
  | .tcp _ => .tcp
  | .udp _ => .udp

/-- `SocketSet`. -/
abbrev SocketSet (tcp : TcpApi) (udp : UdpApi) : Type := HashMap SocketHandle (AnySocket tcp udp)

/-- The stack as the event loop uses it. -/
structure StackApi where
  /-- The TCP sockets. -/
  tcp : TcpApi
  /-- The UDP sockets. -/
  udp : UdpApi
  /-- A UDP socket bound to the DNS endpoint. -/
  dnsSocket : udp.Socket
  /-- `Interface`. -/
  Interface : Type
  /-- `tcp::Socket::connect` with the context of the interface; `none` is an error. -/
  connect : Interface → tcp.Socket → Endpoint → Endpoint → Option tcp.Socket × Interface
  /-- The handle that `SocketSet::add` gives out, by the handles in use. -/
  freeHandle : Finset SocketHandle → SocketHandle
  /-- The handle is not in use. -/
  freeHandle_fresh : ∀ live, freeHandle live ∉ live
  /-- `Interface::poll` at a time, on the packets waiting on the device. -/
  poll : Nat → Interface → List (List UInt8) → SocketSet tcp udp →
    Interface × List (List UInt8) × SocketSet tcp udp
  /-- Polling keeps the sockets under their handles, each of its type. -/
  poll_kind : ∀ now interface packets sockets handle,
    ((poll now interface packets sockets).2.2.lookup handle).map AnySocket.kind =
      (sockets.lookup handle).map AnySocket.kind

namespace StackApi

variable (stack : StackApi)

/-- The socket set of a stack. -/
abbrev Sockets : Type := SocketSet stack.tcp stack.udp

variable {stack}

/-- The type of the socket under each handle. -/
def kinds (sockets : stack.Sockets) (handle : SocketHandle) : Option SocketKind :=
  (sockets.lookup handle).map AnySocket.kind

/-- `SocketSet::add`. -/
def add (sockets : stack.Sockets) (socket : AnySocket stack.tcp stack.udp) :
    SocketHandle × stack.Sockets :=
  let handle := stack.freeHandle sockets.keys
  (handle, sockets.insert handle socket)

/-- `SocketSet::get` or `get_mut` of a TCP socket. -/
def getTcp (sockets : stack.Sockets) (handle : SocketHandle) : Run stack.tcp.Socket :=
  match sockets.lookup handle with
  | none => .error .deadHandle
  | some (.udp _) => .error .wrongSocketType
  | some (.tcp socket) => .ok socket

/-- `SocketSet::get` or `get_mut` of a UDP socket. -/
def getUdp (sockets : stack.Sockets) (handle : SocketHandle) : Run stack.udp.Socket :=
  match sockets.lookup handle with
  | none => .error .deadHandle
  | some (.tcp _) => .error .wrongSocketType
  | some (.udp socket) => .ok socket

/-- The set after a socket under a live handle was changed through `get_mut`. -/
def set (sockets : stack.Sockets) (handle : SocketHandle)
    (socket : AnySocket stack.tcp stack.udp) : stack.Sockets :=
  sockets.insert handle socket

/-- `SocketSet::remove`. -/
def remove (sockets : stack.Sockets) (handle : SocketHandle) : Run stack.Sockets :=
  match sockets.lookup handle with
  | none => .error .deadHandle
  | some _ => .ok (sockets.erase handle)

/-- An added socket is there with its type, and the others keep theirs. -/
theorem kinds_add (sockets : stack.Sockets) (socket : AnySocket stack.tcp stack.udp)
    (probe : SocketHandle) :
    kinds (add sockets socket).2 probe =
      if probe = (add sockets socket).1 then some socket.kind else kinds sockets probe := by
  have read := HashMap.lookup_insert_if sockets (stack.freeHandle sockets.keys) probe socket
  unfold kinds add
  rw [read]
  split <;> rfl

/-- An added socket gets a handle that was free. -/
theorem kinds_add_free (sockets : stack.Sockets) (socket : AnySocket stack.tcp stack.udp) :
    kinds sockets (add sockets socket).1 = none := by
  have fresh := stack.freeHandle_fresh sockets.keys
  rw [Finmap.mem_keys] at fresh
  have absent := Finmap.lookup_eq_none.mpr fresh
  unfold kinds add
  rw [absent]
  rfl

/-- Only the socket under one handle changed, and not its type. -/
structure Touches (handle : SocketHandle) (before after : stack.Sockets) : Prop where
  /-- The other sockets are left alone. -/
  frame : ∀ probe, probe ≠ handle → after.lookup probe = before.lookup probe
  /-- The socket keeps its type. -/
  kind : kinds after handle = kinds before handle

/-- Nothing is touched by doing nothing. -/
theorem Touches.refl (handle : SocketHandle) (sockets : stack.Sockets) :
    Touches handle sockets sockets := ⟨fun _ _ => rfl, rfl⟩

/-- A touched set has the same types everywhere. -/
theorem Touches.kinds_eq {handle : SocketHandle} {before after : stack.Sockets}
    (touched : Touches handle before after) (probe : SocketHandle) :
    kinds after probe = kinds before probe := by
  by_cases same : probe = handle
  · rw [same]
    exact touched.kind
  · unfold kinds
    rw [touched.frame probe same]

/-- Changing a socket under its handle touches that handle only. -/
theorem touches_set {sockets : stack.Sockets} {handle : SocketHandle}
    {socket : AnySocket stack.tcp stack.udp} (typed : kinds sockets handle = some socket.kind) :
    Touches handle sockets (set sockets handle socket) where
  frame probe other := by
    unfold set
    rw [HashMap.lookup_insert_if, if_neg other]
  kind := by
    rw [typed, kinds, set, HashMap.lookup_insert_if, if_pos rfl]
    rfl

/-- An access to a live TCP socket succeeds. -/
theorem getTcp_ok {sockets : stack.Sockets} {handle : SocketHandle}
    (typed : kinds sockets handle = some .tcp) :
    ∃ socket, getTcp sockets handle = .ok socket := by
  unfold kinds at typed
  unfold getTcp
  cases found : sockets.lookup handle with
  | none =>
    rw [found] at typed
    contradiction
  | some socket =>
    cases socket with
    | tcp socket => exact ⟨socket, rfl⟩
    | udp socket =>
      rw [found] at typed
      simp [AnySocket.kind] at typed

/-- A socket that was read as a TCP socket is one. -/
theorem kinds_of_getTcp {sockets : stack.Sockets} {handle : SocketHandle}
    {socket : stack.tcp.Socket} (got : getTcp sockets handle = .ok socket) :
    kinds sockets handle = some .tcp := by
  unfold getTcp at got
  unfold kinds
  cases found : sockets.lookup handle with
  | none => simp [found] at got
  | some any =>
    cases any with
    | tcp socket => rfl
    | udp socket => simp [found] at got

/-- Read the TCP socket that was put back under its handle. -/
theorem getTcp_set (sockets : stack.Sockets) (handle : SocketHandle) (socket : stack.tcp.Socket) :
    getTcp (set sockets handle (.tcp socket)) handle = .ok socket := by
  unfold getTcp set
  rw [HashMap.lookup_insert_if, if_pos rfl]

/-- An access to a live UDP socket succeeds. -/
theorem getUdp_ok {sockets : stack.Sockets} {handle : SocketHandle}
    (typed : kinds sockets handle = some .udp) :
    ∃ socket, getUdp sockets handle = .ok socket := by
  unfold kinds at typed
  unfold getUdp
  cases found : sockets.lookup handle with
  | none =>
    rw [found] at typed
    contradiction
  | some socket =>
    cases socket with
    | udp socket => exact ⟨socket, rfl⟩
    | tcp socket =>
      rw [found] at typed
      simp [AnySocket.kind] at typed

/-- Removing a live socket succeeds and frees its handle only. -/
theorem remove_ok {sockets : stack.Sockets} {handle : SocketHandle}
    (live : kinds sockets handle ≠ none) :
    ∃ rest, remove sockets handle = .ok rest ∧
      ∀ probe, kinds rest probe = if probe = handle then none else kinds sockets probe := by
  unfold kinds at live
  unfold remove
  cases found : sockets.lookup handle with
  | none =>
    rw [found] at live
    contradiction
  | some socket =>
    refine ⟨_, rfl, ?_⟩
    intro probe
    have read := HashMap.lookup_erase_if sockets handle probe
    unfold kinds
    rw [read]
    split <;> rfl

/-! ## The sockets of a component

A component keeps a state under each of its handles, and its handles hold TCP sockets. -/

section Component

variable {ν : Type} {states : HashMap SocketHandle ν} {sockets : stack.Sockets}
  {handle : SocketHandle} {value : ν}

/-- The socket under a handle of the component can be read. -/
theorem held_getTcp (held : Held .tcp (kinds sockets) states.keys)
    (found : states.lookup handle = some value) :
    kinds sockets handle = some .tcp ∧ ∃ socket, getTcp sockets handle = .ok socket := by
  have typed := held handle ((HashMap.mem_keys_iff _ _).mpr ⟨value, found⟩)
  exact ⟨typed, getTcp_ok typed⟩

/-- The socket under a handle of the component can be removed. -/
theorem held_remove (held : Held .tcp (kinds sockets) states.keys)
    (found : states.lookup handle = some value) :
    ∃ rest, remove sockets handle = .ok rest ∧
      ∀ probe, kinds rest probe = if probe = handle then none else kinds sockets probe := by
  apply remove_ok
  rw [(held_getTcp held found).1]
  exact Option.some_ne_none _

/-- An added socket gets a handle that is not of the component. -/
theorem held_fresh (held : Held .tcp (kinds sockets) states.keys)
    (socket : AnySocket stack.tcp stack.udp) : (add sockets socket).1 ∉ states.keys := by
  intro member
  have typed := held _ member
  rw [kinds_add_free] at typed
  contradiction

/-- Adding a socket and a state for it. -/
theorem turn_add (held : Held .tcp (kinds sockets) states.keys) (socket : stack.tcp.Socket)
    (state : ν) :
    Turn .tcp (kinds sockets) states.keys (kinds (add sockets (.tcp socket)).2)
      (states.insert (add sockets (.tcp socket)).1 state).keys := by
  rw [HashMap.keys_insert]
  exact Turn.take held (kinds_add_free sockets _) (kinds_add sockets _)

/-- Using the socket of a handle and replacing its state. -/
theorem turn_touch {touched : stack.Sockets} (held : Held .tcp (kinds sockets) states.keys)
    (found : states.lookup handle = some value) (touches : Touches handle sockets touched)
    (state : ν) :
    Turn .tcp (kinds sockets) states.keys (kinds touched) (states.insert handle state).keys := by
  rw [HashMap.keys_insert_of_lookup found]
  exact Turn.rewrite held touches.kinds_eq

/-- Removing the socket and the state of a handle. -/
theorem turn_remove {rest : stack.Sockets} (held : Held .tcp (kinds sockets) states.keys)
    (found : states.lookup handle = some value) (freed : remove sockets handle = .ok rest) :
    Turn .tcp (kinds sockets) states.keys (kinds rest) (states.erase handle).keys := by
  obtain ⟨removed, ran, kinds⟩ := held_remove held found
  rw [freed] at ran
  obtain rfl : rest = removed := Except.ok.inj ran
  rw [Finmap.keys_erase]
  exact Turn.drop held ((HashMap.mem_keys_iff _ _).mpr ⟨value, found⟩) kinds

end Component

end StackApi

/-- TCP sockets that hear nothing from their peers: a listener stays one, and a connecting
socket keeps asking. -/
def quietTcp : TcpApi where
  Socket := TcpState
  new := .closed
  listen socket port := if socket = .closed ∧ port ≠ 0 then some .listen else none
  state socket := socket
  localEndpoint _ := none
  remoteEndpoint _ := none
  abort _ := .closed
  mayRecv _ := false
  canRecv _ := false
  maySend _ := false
  canSend _ := false
  sendQueue _ := 0
  recvQueue _ := 0
  sendSlice socket _ := (none, socket)
  recvData _ := none
  recvConsume socket _ := socket

/-- The lowest handle that is not in use. -/
def lowestFree (live : Finset SocketHandle) : SocketHandle :=
  ((List.range (live.card + 1)).find? fun handle => handle ∉ live).getD 0

/-- One of the first handles is not in use, as there are more of them than are in use. -/
theorem lowestFree_notMem (live : Finset SocketHandle) : lowestFree live ∉ live := by
  unfold lowestFree
  cases found : (List.range (live.card + 1)).find? fun handle => handle ∉ live with
  | some handle => simpa using List.find?_some found
  | none =>
    have inside : Finset.range (live.card + 1) ⊆ live := by
      intro handle member
      have used := List.find?_eq_none.mp found handle
        (List.mem_range.mpr (Finset.mem_range.mp member))
      simpa using used
    have more := Finset.card_le_card inside
    rw [Finset.card_range] at more
    omega

/-- A stack on which nothing arrives. -/
def quietStack : StackApi where
  tcp := quietTcp
  udp := queueUdp 16
  dnsSocket := ([], [])
  Interface := Unit
  connect interface (socket : TcpState) remote source :=
    (if socket = .closed ∧ remote.port ≠ 0 ∧ source.port ≠ 0 then some .synSent else none, interface)
  freeHandle := lowestFree
  freeHandle_fresh := lowestFree_notMem
  poll _ interface _ sockets := (interface, [], sockets)
  poll_kind _ _ _ _ _ := rfl

/-- The handles from the lowest to the highest. -/
def ascending : IterOrder SocketHandle where
  visit keys := (List.range (keys.sup id + 1)).filter fun handle => handle ∈ keys
  nodup keys := List.nodup_range.filter _
  mem_visit keys handle := by
    rw [List.mem_filter, List.mem_range, decide_eq_true_eq]
    constructor
    · exact And.right
    · intro member
      have bound : handle ≤ keys.sup id := Finset.le_sup (f := id) member
      exact ⟨Nat.lt_succ_of_le bound, member⟩

end Smoltcp

end NsProxy
