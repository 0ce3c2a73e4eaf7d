import NsProxy.EventLoop.Listeners

/-!
# The connection that a handle carries

A handle is registered for the four-tuple of the SYN for which its listen socket was made, but
the stack gives a SYN to the lowest socket that listens on its port. As long as that socket is
the one that is registered for the SYN, every handle carries the connection it is registered
for; a listener that is reset back to `Listen` is enough to break this.
-/

namespace NsProxy.EventLoop

open Smoltcp Tun Outbound

variable {stack : StackApi} {regex : RegexApi}

/-- A socket has no four-tuple but this one. -/
def CarriesOnly (view : SocketView stack) (key : EndpointKey) (socket : stack.tcp.Socket) : Prop :=
  ∀ other, view.tuple socket = some other → other = key

/-- A new listener has no four-tuple, and no operation of the program gives it one. -/
theorem carriesOnly_stable (ingress : Ingress stack) :
    Stable ingress.toSocketView (CarriesOnly ingress.toSocketView) where
  listen key socket made other carried := by
    rw [(ingress.listen_new key.dstPort socket made).2] at carried
    contradiction
  keeps key socket next kept only other carried := by
    rcases kept.tuple with same | gone
    · rw [same] at carried
      exact only other carried
    · rw [gone] at carried
      contradiction

/-- Whenever a poll comes to a SYN that a registered listener takes, that listener is the one that
is registered for the four-tuple of the SYN. -/
def OwnListener (ingress : Ingress stack) (loop : EventLoop stack regex) : Prop :=
  ∀ before packet after taken handle key, loop.rxQueue = before ++ packet :: after →
    ingress.syn packet = some taken →
    ingress.Takes (before.foldl ingress.receive (loop.interface, loop.sockets)).2 taken handle →
    loop.outbound.handleToEndpoint.lookup handle = some key → key = taken

/-- Then its packets are harmless. -/
theorem OwnListener.harmless {ingress : Ingress stack} {loop : EventLoop stack regex}
    (own : OwnListener ingress loop) :
    HarmlessPoll ingress (CarriesOnly ingress.toSocketView) loop := by
  intro before packet after queue handle key taken found syn takes socket next port tuple only
    other carried
  have same := own before packet after taken handle key queue syn takes found
  rw [tuple] at carried
  rw [same]
  exact (Option.some.inj carried).symm

/-- A stronger condition is met by fewer runs. -/
theorem RunMeets.mono {strong weak : EventLoop stack regex → Prop}
    (implies : ∀ loop, strong loop → weak loop) {loop : EventLoop stack regex}
    {events : List Event} (meets : RunMeets strong loop events) : RunMeets weak loop events := by
  induction events generalizing loop with
  | nil => trivial
  | cons event rest ih =>
    refine ⟨?_, fun next ran => ih (meets.2 next ran)⟩
    cases event with
    | tick input =>
      intro observed ran
      have both := meets.1 observed ran
      exact ⟨implies observed both.1, fun served later => implies served (both.2 served later)⟩
    | poll _ _ => trivial
    | accept _ => trivial

/-- In every run whose polls give each SYN to the listener that is registered for it, every handle
whose socket has a four-tuple, connecting, established or otherwise, is registered for that
four-tuple. -/
theorem handle_carries_its_endpoint (ingress : Ingress stack) {config : AppConfig regex}
    {interface : stack.Interface} {events : List Event} {loop : EventLoop stack regex}
    (own : RunMeets (OwnListener ingress) (EventLoop.new config interface) events)
    (ran : (EventLoop.new config interface).run events = .ok loop) {handle : SocketHandle}
    {state : State} {socket : stack.tcp.Socket} {carried : EndpointKey}
    (found : loop.outbound.states.lookup handle = some state)
    (present : loop.sockets.lookup handle = some (.tcp socket))
    (tuple : ingress.tuple socket = some carried) :
    loop.outbound.handleToEndpoint.lookup handle = some carried := by
  have harmless := own.mono fun _ => OwnListener.harmless
  have settled := (settled_new (CarriesOnly ingress.toSocketView) config interface).run ingress
    (carriesOnly_stable ingress) harmless ran
  have live : handle ∈ loop.outbound.handleToEndpoint.keys := by
    rw [settled.registered.keys]
    exact (HashMap.mem_keys_iff _ _).mpr ⟨state, found⟩
  obtain ⟨key, registered⟩ := (HashMap.mem_keys_iff _ _).mp live
  obtain ⟨same, here, only⟩ := settled.backed handle key registered
  rw [present] at here
  have equal : socket = same := by simpa using here
  rw [← equal] at only
  rw [registered, only carried tuple]

/-- Outside the condition some poll comes to a SYN from which on the handle that takes it carries a
connection but the one it is registered for. -/
theorem foreign_syn_carried (ingress : Ingress stack) (documented : ingress.Listening)
    {loop : EventLoop stack regex} (foreign : ¬ OwnListener ingress loop) :
    ∃ before packet after handle socket key carried,
      loop.rxQueue = before ++ packet :: after ∧
      loop.outbound.handleToEndpoint.lookup handle = some key ∧
      ((before ++ [packet]).foldl ingress.receive (loop.interface, loop.sockets)).2.lookup handle =
        some (.tcp socket) ∧
      ingress.tuple socket = some carried ∧ key ≠ carried := by
  unfold OwnListener at foreign
  push Not at foreign
  obtain ⟨before, packet, after, taken, handle, key, queue, syn, takes, found, other⟩ := foreign
  obtain ⟨socket, present, tuple⟩ := documented.takes _ packet taken handle syn takes
  refine ⟨before, packet, after, handle, socket, key, taken, queue, found, ?_, tuple, other⟩
  rw [List.foldl_append]
  exact present

/-! ## On the small stack -/

/-- The socket under a handle listens on a port. -/
def listensAt (sockets : segmentStack.Sockets) (port : UInt16) (handle : SocketHandle) : Bool :=
  match sockets.lookup handle with
  | some (.tcp socket) =>
    segmentStack.tcp.state socket = .listen ∧ segmentIngress.listenPort socket = port
  | _ => false

/-- The lowest listener on the port of each SYN of the queue is the one registered for it, or
none. -/
def givesOwn (loop : EventLoop segmentStack RuleMatcher.literalRegex) : Bool :=
  (List.range loop.rxQueue.length).all fun position =>
    let sockets := ((loop.rxQueue.take position).foldl segmentIngress.receive
      (loop.interface, loop.sockets)).2
    match loop.rxQueue[position]?.bind SegmentSocket.synOf with
    | none => true
    | some taken => (ascending.visit loop.outbound.handleToEndpoint.keys).all fun handle =>
      loop.outbound.handleToEndpoint.lookup handle = some taken ∨
        listensAt sockets taken.dstPort handle = false ∨
        (List.range handle).any (listensAt sockets taken.dstPort) = true

/-- A socket that listens is found by the evaluation, and no other. -/
theorem listensAt_iff {sockets : segmentStack.Sockets} {port : UInt16} {handle : SocketHandle} :
    listensAt sockets port handle = true ↔ ∃ socket,
      sockets.lookup handle = some (.tcp socket) ∧ segmentIngress.Listens socket port := by
  unfold listensAt
  constructor
  · intro listens
    split at listens
    · rename_i socket found
      rw [decide_eq_true_eq] at listens
      exact ⟨socket, found, listens⟩
    · contradiction
  · rintro ⟨socket, found, listens⟩
    simp only [found, decide_eq_true_eq]
    exact listens

/-- Then the poll gives each SYN to the listener that is registered for it. -/
theorem ownListener_of_givesOwn {loop : EventLoop segmentStack RuleMatcher.literalRegex}
    (gives : givesOwn loop = true) : OwnListener segmentIngress loop := by
  intro before packet after taken handle key parts syn takes found
  have read : SegmentSocket.synOf packet = some taken := syn
  have inside : before.length ∈ List.range loop.rxQueue.length := by simp [parts]
  have checked := List.all_eq_true.mp gives before.length inside
  have position : loop.rxQueue[before.length]? = some packet := by simp [parts]
  have earlier : loop.rxQueue.take before.length = before := by rw [parts, List.take_left]
  simp only [position, earlier, Option.bind_some, read] at checked
  have visited := (ascending.mem_visit _ _).mpr ((HashMap.mem_keys_iff _ _).mpr ⟨key, found⟩)
  rcases of_decide_eq_true (List.all_eq_true.mp checked handle visited) with own | idle | lower
  · rw [found] at own
    exact Option.some.inj own
  · rw [listensAt_iff.mpr takes.listens] at idle
    contradiction
  · obtain ⟨other, below, listens⟩ := List.any_eq_true.mp lower
    obtain ⟨socket, present, listening⟩ := listensAt_iff.mp listens
    exact absurd listening (takes.lowest other (List.mem_range.mp below) socket present).1

/-- A tick of a new loop before its first and before its second poll. -/
def givesOwnThrough (packets : List (List UInt8)) : Run Bool := do
  let observed ← freshLoop.observe (tickOn packets)
  let served ← (observed.pollInterface (tickOn packets).firstPoll).serve (tickOn packets)
  return givesOwn observed && givesOwn served

/-- Evaluating the two polls of a first tick shows that its run meets the condition. -/
theorem runMeets_of_givesOwn {packets : List (List UInt8)}
    (evaluated : (givesOwnThrough packets).toOption = some true) :
    RunMeets (OwnListener segmentIngress) freshLoop [.tick (tickOn packets)] := by
  refine ⟨?_, fun _ _ => trivial⟩
  intro observed ran
  unfold givesOwnThrough at evaluated
  simp only [ran, bind, Except.bind] at evaluated
  have whole (served : EventLoop segmentStack RuleMatcher.literalRegex)
      (later : (observed.pollInterface (tickOn packets).firstPoll).serve (tickOn packets) =
        .ok served) : givesOwn observed = true ∧ givesOwn served = true := by
    simp only [later, pure, Except.pure, Except.toOption, Option.some.injEq] at evaluated
    exact Bool.and_eq_true_iff.mp evaluated
  constructor
  · cases later : (observed.pollInterface (tickOn packets).firstPoll).serve (tickOn packets) with
    | error panic => simp [later, Except.toOption] at evaluated
    | ok served => exact ownListener_of_givesOwn (whole served later).1
  · intro served later
    exact ownListener_of_givesOwn (whole served later).2

/-- What a handle is registered for and what its socket carries, when it is connecting. -/
def connectingTuples (loop : EventLoop segmentStack RuleMatcher.literalRegex)
    (handle : SocketHandle) : Option (Option EndpointKey × Option EndpointKey) :=
  match loop.outbound.states.lookup handle, loop.sockets.lookup handle with
  | some (.connecting _), some (.tcp socket) =>
    some (loop.outbound.handleToEndpoint.lookup handle, segmentIngress.tuple socket)
  | _, _ => none

/-- What the evaluation reads off a connecting handle is what the books and the socket hold. -/
theorem connectingTuples_some {loop : EventLoop segmentStack RuleMatcher.literalRegex}
    {handle : SocketHandle} {registered carried : Option EndpointKey}
    (found : connectingTuples loop handle = some (registered, carried)) :
    ∃ task socket, loop.outbound.states.lookup handle = some (.connecting task) ∧
      loop.sockets.lookup handle = some (.tcp socket) ∧
      loop.outbound.handleToEndpoint.lookup handle = registered ∧
      segmentIngress.tuple socket = carried := by
  unfold connectingTuples at found
  split at found
  · rename_i task socket state present
    obtain ⟨left, right⟩ := Prod.mk.inj (Option.some.inj found)
    exact ⟨task, socket, state, present, left, right⟩
  · contradiction

/-- Two connections to one port in a queue. -/
def twoConnections : List (List UInt8) :=
  [OutboundTcp.synPacket, otherPacket 0x02, flagPacket 0x10, otherPacket 0x10]

/-- Two connections to one port are each carried by the handle that is registered for it. -/
theorem handle_carries_its_endpoint_two :
    ∃ loop, ticksOn [twoConnections] = .ok loop ∧
      ∀ handle carried, (handle, carried) ∈ [(1, synKey), (2, otherKey)] →
        ∃ task socket, loop.outbound.states.lookup handle = some (.connecting task) ∧
          loop.sockets.lookup handle = some (.tcp socket) ∧
          segmentIngress.tuple socket = some carried ∧
          loop.outbound.handleToEndpoint.lookup handle = some carried := by
  have evaluated : (ticksOn [twoConnections]).toOption.map (fun loop =>
      [(connectingTuples loop 1).map Prod.snd, (connectingTuples loop 2).map Prod.snd]) =
      some [some (some synKey), some (some otherKey)] := by
    decide +kernel
  have own : RunMeets (OwnListener segmentIngress) freshLoop [.tick (tickOn twoConnections)] :=
    runMeets_of_givesOwn (by decide +kernel)
  cases ran : ticksOn [twoConnections] with
  | error panic => simp [ran, Except.toOption] at evaluated
  | ok loop =>
    simp only [ran, Except.toOption, Option.map_some, Option.some.injEq, List.cons.injEq, and_true]
      at evaluated
    refine ⟨loop, rfl, fun handle carried member => ?_⟩
    have shown : (connectingTuples loop handle).map Prod.snd = some (some carried) := by
      simp only [List.mem_cons, Prod.mk.injEq, List.not_mem_nil, or_false] at member
      rcases member with ⟨rfl, rfl⟩ | ⟨rfl, rfl⟩
      · exact evaluated.1
      · exact evaluated.2
    obtain ⟨⟨registered, tuples⟩, found, same⟩ := Option.map_eq_some_iff.mp shown
    obtain ⟨task, socket, state, present, -, tuple⟩ := connectingTuples_some found
    rw [show tuples = some carried from same] at tuple
    exact ⟨task, socket, state, present, tuple,
      handle_carries_its_endpoint segmentIngress own ran state present tuple⟩

/-- A connection is reset during its handshake, in the queue that brings the SYN of another one to
the same port. Its listener takes that SYN, and its handle, still registered for the first
four-tuple, connects for the second. -/
theorem handle_carries_another_connection :
    ∃ loop task socket, ticksOn [[OutboundTcp.synPacket], [flagPacket 0x04, otherPacket 0x02],
        [otherPacket 0x10]] = .ok loop ∧
      loop.outbound.states.lookup 1 = some (.connecting task) ∧
      loop.sockets.lookup 1 = some (.tcp socket) ∧
      segmentIngress.tuple socket = some otherKey ∧
      loop.outbound.handleToEndpoint.lookup 1 = some synKey ∧ synKey ≠ otherKey := by
  have evaluated : (ticksOn [[OutboundTcp.synPacket], [flagPacket 0x04, otherPacket 0x02],
      [otherPacket 0x10]]).toOption.map (fun loop => connectingTuples loop 1) =
        some (some (some synKey, some otherKey)) := by
    decide +kernel
  cases ran : ticksOn [[OutboundTcp.synPacket], [flagPacket 0x04, otherPacket 0x02],
      [otherPacket 0x10]] with
  | error panic => simp [ran, Except.toOption] at evaluated
  | ok loop =>
    simp only [ran, Except.toOption, Option.map_some, Option.some.injEq] at evaluated
    obtain ⟨task, socket, state, present, registered, tuple⟩ := connectingTuples_some evaluated
    exact ⟨loop, task, socket, rfl, state, present, tuple, registered, by decide⟩

end NsProxy.EventLoop
