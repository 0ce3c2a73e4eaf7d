import NsProxy.EventLoop.Endpoints
import NsProxy.EventLoop.OutboundRelay
import NsProxy.EventLoop.Ownership

/-!
# The listener of a SYN

`observe_syns` makes one listen socket for each four-tuple before the stack takes the packets. A
socket is registered for its four-tuple as long as it lives, and its port is the one of that
four-tuple whatever the program and the stack do. So a SYN finds a listener as long as the
socket that is registered for its four-tuple was not closed and was not taken by another SYN.
-/

namespace NsProxy.EventLoop

open Smoltcp Tun Outbound

variable {stack : StackApi} {regex : RegexApi}

/-! ## The sockets of the registered connections -/

/-- Every registered connection has a TCP socket that is good for its four-tuple. -/
def Backed (good : EndpointKey → stack.tcp.Socket → Prop)
    (endpoints : HashMap SocketHandle EndpointKey) (sockets : stack.Sockets) : Prop :=
  ∀ handle key, endpoints.lookup handle = some key →
    ∃ socket, sockets.lookup handle = some (.tcp socket) ∧ good key socket

/-- What is good for a four-tuple holds of a new listener and outlives every operation of the
program. -/
structure Stable (view : SocketView stack) (good : EndpointKey → stack.tcp.Socket → Prop) :
    Prop where
  /-- A new listener is good. -/
  listen : ∀ key socket, stack.tcp.listen stack.tcp.new key.dstPort = some socket → good key socket
  /-- A socket that is kept stays good. -/
  keeps : ∀ key socket next, view.Keeps socket next → good key socket → good key next

namespace OutboundTcp

/-! ## What the program does to the sockets -/

section Sockets

variable (ingress : Ingress stack)

/-- An aborted socket is kept. -/
theorem keeps_abort {socket next : stack.tcp.Socket} (kept : ingress.Keeps socket next) :
    ingress.Keeps socket (stack.tcp.abort next) := kept.trans (ingress.abort_keeps next)

/-- The write to the proxy keeps the socket. -/
theorem writeProxy_keeps (context : ForwardContext) (socket : stack.tcp.Socket) :
    ingress.Keeps socket (writeProxy context socket).2 := by
  have wrote : ingress.Keeps socket (wroteProxy context socket).2.1 := by
    unfold wroteProxy Relay.writeStream
    split
    · split
      · exact .refl _ socket
      · exact ingress.recvConsume_keeps socket 0
      · exact ingress.recvConsume_keeps socket _
    · exact .refl _ socket
  rw [writeProxy_eq]
  cases writeFails context socket with
  | true => exact keeps_abort ingress wrote
  | false => exact wrote

/-- The read from the proxy keeps the socket. -/
theorem readProxy_keeps (context : ForwardContext) (socket : stack.tcp.Socket) :
    ingress.Keeps socket (readProxy context socket).2 := by
  have reads := readProxy_readsOn context socket
  cases failed : readFails context with
  | true =>
    rw [reads.aborted failed]
    exact ingress.abort_keeps socket
  | false =>
    rw [reads.kept failed]
    exact .refl _ socket

/-- The send to the application keeps the socket. -/
theorem sendApp_keeps (context : ForwardContext) (socket : stack.tcp.Socket) :
    ingress.Keeps socket (sendApp context socket).2 := by
  have sent : ingress.Keeps socket (Relay.sendBuffer context.proxyToApp socket).2.1 := by
    have slice := ingress.sendSlice_keeps socket (Relay.offered context.proxyToApp socket)
    unfold Relay.sendBuffer
    split
    · split
      · rename_i same
        rw [same] at slice
        exact slice
      · rename_i same
        rw [same] at slice
        exact slice
    · exact .refl _ socket
  rw [sendApp_eq]
  cases sendFails context socket with
  | true => exact keeps_abort ingress sent
  | false => exact sent

/-- The close keeps the socket. -/
theorem closeIfDone_keeps (context : ForwardContext) (socket : stack.tcp.Socket) :
    ingress.Keeps socket (closeIfDone context socket).1 := by
  unfold closeIfDone
  dsimp only
  split
  · split
    · exact keeps_abort ingress (ingress.abort_keeps socket)
    · exact ingress.abort_keeps socket
  · split
    · exact ingress.abort_keeps socket
    · exact .refl _ socket

/-- A relayed socket keeps its port and gets no four-tuple. -/
theorem shuttle_keeps (context : ForwardContext) (socket : stack.tcp.Socket) :
    ingress.Keeps socket (shuttle context socket).2.1 := by
  have wrote := writeProxy_keeps ingress context socket
  have read := readProxy_keeps ingress (writeProxy context socket).1 (writeProxy context socket).2
  have sent : ingress.Keeps _ (transfer context socket).2 := sendApp_keeps ingress
    (readProxy (writeProxy context socket).1 (writeProxy context socket).2).1
    (readProxy (writeProxy context socket).1 (writeProxy context socket).2).2
  have closed := closeIfDone_keeps ingress (transfer context socket).1 (transfer context socket).2
  rw [shuttle_eq]
  exact ((wrote.trans read).trans sent).trans closed

/-- The socket under one handle is replaced by one that is kept. -/
theorem set_keeps {sockets : stack.Sockets} {handle probe : SocketHandle}
    {socket used found : stack.tcp.Socket} (got : StackApi.getTcp sockets handle = .ok socket)
    (kept : ingress.Keeps socket used) (present : sockets.lookup probe = some (.tcp found)) :
    ∃ next, (StackApi.set sockets handle (.tcp used)).lookup probe = some (.tcp next) ∧
      ingress.Keeps found next := by
  unfold StackApi.set
  rw [HashMap.lookup_insert_if]
  by_cases same : probe = handle
  · unfold StackApi.getTcp at got
    rw [← same, present] at got
    rw [if_pos same, Except.ok.inj got]
    exact ⟨used, rfl, kept⟩
  · rw [if_neg same]
    exact ⟨found, present, .refl _ found⟩

/-- An act leaves the registered sockets in place: each keeps its four-tuple in the books and its
port, and gets no four-tuple from the program. -/
theorem Act.keeps {config : AppConfig regex} {dns : Option DnsInterceptor} {handle : SocketHandle}
    {before after : OutboundTcp × stack.Sockets} (act : Act config dns handle before after)
    {probe : SocketHandle} {key : EndpointKey}
    (registered : after.1.handleToEndpoint.lookup probe = some key) :
    before.1.handleToEndpoint.lookup probe = some key ∧
      ∀ socket, before.2.lookup probe = some (.tcp socket) →
        ∃ next, after.2.lookup probe = some (.tcp next) ∧ ingress.Keeps socket next := by
  cases act with
  | started _ _ _ _ _ _ _ _ =>
    exact ⟨registered, fun socket present => ⟨socket, present, .refl _ socket⟩⟩
  | closed _ _ _ =>
    exact ⟨registered, fun socket present => ⟨socket, present, .refl _ socket⟩⟩
  | connected _ _ =>
    exact ⟨registered, fun socket present => ⟨socket, present, .refl _ socket⟩⟩
  | waiting _ =>
    exact ⟨registered, fun socket present => ⟨socket, present, .refl _ socket⟩⟩
  | expired _ got _ =>
    exact ⟨registered, fun _ present => set_keeps ingress got (ingress.abort_keeps _) present⟩
  | failed _ got _ =>
    exact ⟨registered, fun _ present => set_keeps ingress got (ingress.abort_keeps _) present⟩
  | abandoned _ got _ =>
    exact ⟨registered, fun _ present => set_keeps ingress got (ingress.abort_keeps _) present⟩
  | @relayed _ _ context next socket used closing _ got shuttled =>
    have kept := shuttle_keeps ingress context socket
    rw [shuttled] at kept
    exact ⟨registered, fun _ present => set_keeps ingress got kept present⟩
  | @removed outbound sockets rest found freed =>
    change (outbound.handleToEndpoint.erase handle).lookup probe = some key at registered
    rw [HashMap.lookup_erase_if] at registered
    have other : probe ≠ handle := by
      intro same
      rw [if_pos same] at registered
      contradiction
    rw [if_neg other] at registered
    refine ⟨registered, fun socket present => ⟨socket, ?_, .refl _ socket⟩⟩
    unfold StackApi.remove at freed
    split at freed
    · contradiction
    · rw [← Except.ok.inj freed]
      show (Finmap.erase handle sockets).lookup probe = _
      rw [HashMap.lookup_erase_if, if_neg other]
      exact present

/-- A new listener is good for its four-tuple, and the others stay as they are. -/
theorem Listens.backed {good : EndpointKey → stack.tcp.Socket → Prop}
    (stable : Stable ingress.toSocketView good) {before after : OutboundTcp × stack.Sockets}
    (listens : Listens before after) (backed : Backed good before.1.handleToEndpoint before.2) :
    Backed good after.1.handleToEndpoint after.2 := by
  cases listens with
  | @intro outbound sockets key socket packet now read unseen made =>
    intro handle other found
    change (outbound.handleToEndpoint.insert _ key).lookup handle = some other at found
    show ∃ next, (Finmap.insert _ _ sockets).lookup handle = some (.tcp next) ∧ good other next
    rw [HashMap.lookup_insert_if] at found
    rw [HashMap.lookup_insert_if]
    by_cases same : handle = (StackApi.add sockets (.tcp socket)).1
    · rw [if_pos same] at found
      rw [← Option.some.inj found]
      exact ⟨socket, if_pos same, stable.listen key socket made⟩
    · rw [if_neg same] at found
      obtain ⟨kept, present, fine⟩ := backed handle other found
      exact ⟨kept, (if_neg same).trans present, fine⟩

end Sockets

end OutboundTcp

/-! ## The registered sockets over whole runs -/

namespace PublishedTcp

/-- A published connection leaves every other socket alone. -/
theorem Change.untouched {before after : PublishedTcp × stack.Sockets}
    (change : Change before after) {probe : SocketHandle} (other : probe ∉ before.1.states.keys)
    {socket : AnySocket stack.tcp stack.udp} (present : before.2.lookup probe = some socket) :
    after.2.lookup probe = some socket := by
  have elsewhere {handle : SocketHandle} {state : Published.State}
      (found : before.1.states.lookup handle = some state) : probe ≠ handle := by
    intro same
    rw [same] at other
    exact other ((HashMap.mem_keys_iff _ _).mpr ⟨state, found⟩)
  cases change with
  | queued _ _ => exact present
  | settled settles =>
    cases settles with
    | @attached published sockets ports port made now allocated =>
      have different : probe ≠ (StackApi.add sockets (.tcp made)).1 := by
        intro same
        have free := StackApi.kinds_add_free sockets (.tcp made)
        unfold StackApi.kinds at free
        rw [← same, present] at free
        contradiction
      show (Finmap.insert _ _ sockets).lookup probe = _
      rw [HashMap.lookup_insert_if]
      exact (if_neg different).trans present
    | exhausted _ => exact present
    | refused _ => exact present
  | changed handle change =>
    cases change with
    | advanced found _ touches => exact (touches.frame probe (elsewhere found)).trans present
    | @removed published sockets rest found freed =>
      unfold StackApi.remove at freed
      split at freed
      · contradiction
      · rw [← Except.ok.inj freed]
        show (Finmap.erase handle sockets).lookup probe = _
        rw [HashMap.lookup_erase_if, if_neg (elsewhere found)]
        exact present

end PublishedTcp

variable {good : EndpointKey → stack.tcp.Socket → Prop}

/-- Whatever the program does keeps the registered sockets good. -/
theorem Work.backed (ingress : Ingress stack) (stable : Stable ingress.toSocketView good)
    {before after : EventLoop stack regex} (work : Work before after) (owned : Owned before)
    (registered : OutboundTcp.Registered before.outbound)
    (backed : Backed good before.outbound.handleToEndpoint before.sockets) :
    Backed good after.outbound.handleToEndpoint after.sockets := by
  have live {handle : SocketHandle} {key : EndpointKey}
      (found : before.outbound.handleToEndpoint.lookup handle = some key) :
      handle ∈ before.outbound.states.keys := by
    rw [← registered.keys]
    exact (HashMap.mem_keys_iff _ _).mpr ⟨key, found⟩
  cases work with
  | listened listens => exact listens.backed ingress stable backed
  | acted act =>
    intro handle key found
    obtain ⟨earlier, kept⟩ := act.keeps ingress found
    obtain ⟨socket, present, fine⟩ := backed handle key earlier
    obtain ⟨next, later, keeps⟩ := kept socket present
    exact ⟨next, later, stable.keeps key socket next keeps fine⟩
  | published change =>
    intro handle key found
    obtain ⟨socket, present, fine⟩ := backed handle key found
    have other := Finset.disjoint_left.mp owned.apart (live found)
    exact ⟨socket, change.untouched other present, fine⟩
  | answered same touched =>
    intro handle key found
    obtain ⟨socket, present, fine⟩ := backed handle key found
    have other : handle ≠ before.dns.handle := by
      intro equal
      have typed := owned.outboundHeld handle (live found)
      rw [equal, owned.dnsHeld _ (Finset.mem_singleton_self _)] at typed
      contradiction
    exact ⟨socket, (touched.frame handle other).trans present, fine⟩
  | read _ _ => exact backed

/-- A change of the loop keeps the books of the four-tuples. -/
theorem Change.registered {before after : EventLoop stack regex} (change : Change before after)
    (owned : Owned before) (registered : OutboundTcp.Registered before.outbound) :
    OutboundTcp.Registered after.outbound := by
  cases change with
  | outbound change => exact change.registered owned.outboundHeld registered
  | published change => exact registered
  | stack outbound _ _ _ =>
    rw [outbound]
    exact registered

/-- The sockets are divided, the books of the four-tuples balance, and the registered sockets are
good for their four-tuples. -/
structure Settled (good : EndpointKey → stack.tcp.Socket → Prop) (loop : EventLoop stack regex) :
    Prop where
  /-- The sockets are divided. -/
  owned : Owned loop
  /-- The books balance. -/
  registered : OutboundTcp.Registered loop.outbound
  /-- The registered sockets are good. -/
  backed : Backed good loop.outbound.handleToEndpoint loop.sockets

/-- Whatever the program does keeps the loop settled. -/
theorem Works.settled (ingress : Ingress stack) (stable : Stable ingress.toSocketView good)
    {before after : EventLoop stack regex} (works : Works before after)
    (settled : Settled good before) : Settled good after := by
  induction works with
  | refl => exact settled
  | tail _ work kept =>
    have change := work.change
    exact ⟨change.owned kept.owned, change.registered kept.owned kept.registered,
      work.backed ingress stable kept.owned kept.registered kept.backed⟩

/-! ## What the stack does to the sockets -/

section Stack

variable (ingress : Ingress stack) {endpoints : HashMap SocketHandle EndpointKey}

/-- A packet is harmless when the registered listener that takes its SYN, if there is one, stays
good. -/
def Harmless (good : EndpointKey → stack.tcp.Socket → Prop)
    (endpoints : HashMap SocketHandle EndpointKey) (sockets : stack.Sockets)
    (packet : List UInt8) : Prop :=
  ∀ handle key taken, endpoints.lookup handle = some key → ingress.syn packet = some taken →
    ingress.Takes sockets taken handle → ∀ socket next,
      ingress.listenPort next = ingress.listenPort socket → ingress.tuple next = some taken →
      good key socket → good key next

/-- A harmless packet keeps the registered sockets good. -/
theorem Backed.receive (stable : Stable ingress.toSocketView good)
    {state : stack.Interface × stack.Sockets} {packet : List UInt8}
    (harmless : Harmless ingress good endpoints state.2 packet)
    (backed : Backed good endpoints state.2) :
    Backed good endpoints (ingress.receive state packet).2 := by
  intro handle key found
  obtain ⟨socket, present, fine⟩ := backed handle key found
  obtain ⟨next, later, kept | taken⟩ := ingress.receive_socket state packet handle socket present
  · exact ⟨next, later, stable.keeps key socket next kept fine⟩
  · obtain ⟨taken, syn, takes, port, tuple⟩ := taken
    exact ⟨next, later, harmless handle key taken found syn takes socket next port tuple fine⟩

/-- Packets that are harmless when their turn comes keep the registered sockets good. -/
theorem Backed.receiveAll (stable : Stable ingress.toSocketView good)
    (packets : List (List UInt8)) {state : stack.Interface × stack.Sockets}
    (harmless : ∀ before packet after, packets = before ++ packet :: after →
      Harmless ingress good endpoints (before.foldl ingress.receive state).2 packet)
    (backed : Backed good endpoints state.2) :
    Backed good endpoints (packets.foldl ingress.receive state).2 := by
  induction packets generalizing state with
  | nil => exact backed
  | cons packet rest ih =>
    have first := harmless [] packet rest rfl
    apply ih
    · intro before later after parts
      have whole : packet :: rest = (packet :: before) ++ later :: after := by
        rw [parts, List.cons_append]
      exact harmless (packet :: before) later after whole
    · exact backed.receive ingress stable first

/-- Polling keeps the registered sockets good. -/
theorem Backed.poll (stable : Stable ingress.toSocketView good) {loop : EventLoop stack regex}
    (now : Nat) (harmless : ∀ before packet after, loop.rxQueue = before ++ packet :: after →
      Harmless ingress good endpoints
        (before.foldl ingress.receive (loop.interface, loop.sockets)).2 packet)
    (backed : Backed good endpoints loop.sockets) :
    Backed good endpoints (loop.pollInterface now).sockets := by
  have received := Backed.receiveAll ingress stable loop.rxQueue harmless backed
  have polled : (loop.pollInterface now).sockets = (ingress.transmit now
      (loop.rxQueue.foldl ingress.receive (loop.interface, loop.sockets))).2 :=
    ingress.poll_eq now loop.interface loop.rxQueue loop.sockets
  intro handle key found
  obtain ⟨socket, present, fine⟩ := received handle key found
  obtain ⟨next, later, kept⟩ := ingress.transmit_socket now _ handle socket present
  rw [polled]
  exact ⟨next, later, stable.keeps key socket next kept fine⟩

end Stack

/-! ## Runs with a condition on their polls -/

/-- Both polls of a tick meet a condition on the state before them. -/
def PollsMeet (meets : EventLoop stack regex → Prop) (loop : EventLoop stack regex) : Event → Prop
  | .tick input => ∀ observed, loop.observe input = .ok observed → meets observed ∧
    ∀ served, (observed.pollInterface input.firstPoll).serve input = .ok served → meets served
  | .poll _ _ | .accept _ => True

/-- All polls of a run meet a condition. -/
def RunMeets (meets : EventLoop stack regex → Prop) : EventLoop stack regex → List Event → Prop
  | _, [] => True
  | loop, event :: rest => PollsMeet meets loop event ∧
    ∀ next, loop.step event = .ok next → RunMeets meets next rest

/-- A condition that every state meets is met by all polls. -/
theorem runMeets_of_all {meets : EventLoop stack regex → Prop} (all : ∀ loop, meets loop)
    (loop : EventLoop stack regex) (events : List Event) : RunMeets meets loop events := by
  induction events generalizing loop with
  | nil => trivial
  | cons event rest ih =>
    refine ⟨?_, fun next _ => ih next⟩
    cases event with
    | tick input => exact fun observed _ => ⟨all observed, fun served _ => all served⟩
    | poll _ _ => trivial
    | accept _ => trivial

section Runs

variable (ingress : Ingress stack) {loop next : EventLoop stack regex}

/-- Every packet of a poll is harmless when its turn comes. -/
def HarmlessPoll (good : EndpointKey → stack.tcp.Socket → Prop)
    (loop : EventLoop stack regex) : Prop :=
  ∀ before packet after, loop.rxQueue = before ++ packet :: after →
    Harmless ingress good loop.outbound.handleToEndpoint
      (before.foldl ingress.receive (loop.interface, loop.sockets)).2 packet

/-- A harmless poll keeps the loop settled. -/
theorem Settled.poll (stable : Stable ingress.toSocketView good) (now : Nat)
    (harmless : HarmlessPoll ingress good loop) (settled : Settled good loop) :
    Settled good (loop.pollInterface now) where
  owned := (pollInterface_changes loop now).owned settled.owned
  registered := settled.registered
  backed := Backed.poll ingress stable now harmless settled.backed

/-- A step with harmless polls keeps the loop settled. -/
theorem Settled.step (stable : Stable ingress.toSocketView good) {event : Event}
    (meets : PollsMeet (HarmlessPoll ingress good) loop event) (ran : loop.step event = .ok next)
    (settled : Settled good loop) : Settled good next := by
  cases event with
  | tick input =>
    obtain ⟨observed, ranObserve, one⟩ := observe_works loop input
    obtain ⟨first, later⟩ := meets observed ranObserve
    have polled := (one.settled ingress stable settled).poll ingress stable input.firstPoll first
    obtain ⟨served, ranServe, two⟩ := serve_works _ input polled.owned
    have repolled := (two.settled ingress stable polled).poll ingress stable input.secondPoll
      (later served ranServe)
    obtain ⟨last, ranCleanup, three⟩ := cleanup_works _ input repolled.owned
    have whole : loop.tick input = .ok last := by
      unfold tick
      simp only [ranObserve, ranServe, bind, Except.bind]
      exact ranCleanup
    rw [← Except.ok.inj (whole.symm.trans ran)]
    exact three.settled ingress stable repolled
  | poll outbound published =>
    obtain ⟨ready, last, ranPoll, works⟩ := pollReady_works loop outbound published settled.owned
    have whole : loop.step (.poll outbound published) = .ok last := by
      simp only [EventLoop.step, ranPoll, bind, Except.bind]
      rfl
    rw [← Except.ok.inj (whole.symm.trans ran)]
    exact works.settled ingress stable settled
  | accept accepted =>
    rw [← Except.ok.inj ran]
    exact (accept_works loop accepted).settled ingress stable settled

/-- A run with harmless polls keeps the loop settled. -/
theorem Settled.run (stable : Stable ingress.toSocketView good) {events : List Event}
    (meets : RunMeets (HarmlessPoll ingress good) loop events) (ran : loop.run events = .ok next)
    (settled : Settled good loop) : Settled good next := by
  induction events generalizing loop with
  | nil =>
    rw [← Except.ok.inj ran]
    exact settled
  | cons event rest ih =>
    obtain ⟨middle, stepped, -⟩ := step_changes loop event settled.owned
    unfold EventLoop.run at ran
    rw [List.foldlM_cons, stepped] at ran
    exact ih (meets.2 middle stepped) ran (settled.step ingress stable meets.1 stepped)

/-- The loop starts settled: nothing is registered. -/
theorem settled_new (good : EndpointKey → stack.tcp.Socket → Prop) (config : AppConfig regex)
    (interface : stack.Interface) : Settled good (EventLoop.new config interface) where
  owned := new_owned config interface
  registered := OutboundTcp.registered_new
  backed := by
    intro handle key found
    change (∅ : HashMap SocketHandle EndpointKey).lookup handle = some key at found
    rw [Finmap.lookup_empty] at found
    contradiction

end Runs

/-! ## Every SYN of the queue is registered -/

namespace OutboundTcp

/-- A packet takes no four-tuple off the books, and its own is there afterwards. -/
theorem observePacket_registers (ingress : Ingress stack) {state next : OutboundTcp × stack.Sockets}
    {entry : List UInt8 × Nat} (ran : observePacket state entry = .ok next) :
    state.1.listeningEndpoints ⊆ next.1.listeningEndpoints ∧
      ∀ key, parseTcpSyn entry.1 = .ok (some key) → key.dstPort ≠ 0 →
        key ∈ next.1.listeningEndpoints := by
  obtain ⟨outbound, sockets⟩ := state
  obtain ⟨parsed, read⟩ := parseTcpSyn_ok entry.1
  unfold observePacket at ran
  simp only [read, bind, Except.bind] at ran
  cases parsed with
  | none =>
    rw [← Except.ok.inj ran]
    refine ⟨fun _ member => member, fun key same _ => ?_⟩
    rw [read] at same
    simp at same
  | some found =>
    have known (key : EndpointKey) (same : parseTcpSyn entry.1 = .ok (some key)) : found = key := by
      rw [read] at same
      simpa using same
    dsimp only at ran
    by_cases seen : found ∈ outbound.listeningEndpoints
    · rw [if_pos seen] at ran
      rw [← Except.ok.inj ran]
      refine ⟨fun _ member => member, fun key same _ => ?_⟩
      rw [← known key same]
      exact seen
    · rw [if_neg seen] at ran
      cases made : stack.tcp.listen stack.tcp.new found.dstPort with
      | none =>
        rw [made] at ran
        rw [← Except.ok.inj ran]
        refine ⟨fun _ member => member, fun key same nonzero => ?_⟩
        rw [← known key same] at nonzero
        obtain ⟨socket, listening⟩ := ingress.listen_some found.dstPort nonzero
        rw [made] at listening
        contradiction
      | some socket =>
        rw [made] at ran
        rw [← Except.ok.inj ran]
        refine ⟨fun _ member => Finset.mem_insert_of_mem member, fun key same _ => ?_⟩
        rw [← known key same]
        exact Finset.mem_insert_self _ _

/-- After the inspection of a batch every SYN in it that names a port is registered. -/
theorem foldlM_registers (ingress : Ingress stack) (entries : List (List UInt8 × Nat))
    {state next : OutboundTcp × stack.Sockets}
    (ran : entries.foldlM observePacket state = .ok next) :
    state.1.listeningEndpoints ⊆ next.1.listeningEndpoints ∧
      ∀ entry ∈ entries, ∀ key, parseTcpSyn entry.1 = .ok (some key) → key.dstPort ≠ 0 →
        key ∈ next.1.listeningEndpoints := by
  induction entries generalizing state with
  | nil =>
    rw [← Except.ok.inj ran]
    exact ⟨fun _ member => member, by simp⟩
  | cons entry rest ih =>
    obtain ⟨middle, first, -⟩ := observePacket_listens state entry
    rw [List.foldlM_cons, first] at ran
    obtain ⟨more, own⟩ := observePacket_registers ingress first
    obtain ⟨kept, others⟩ := ih ran
    refine ⟨fun key member => kept (more member), ?_⟩
    intro other member key read nonzero
    rcases List.mem_cons.mp member with same | later
    · rw [same] at read
      exact kept (own key read nonzero)
    · exact others other later key read nonzero

/-- After `observe_syns` the four-tuple of every SYN of the queue to a port but zero is on the
books. -/
theorem observeSyns_registers (ingress : Ingress stack) {clock : Nat → Nat}
    {packets : List (List UInt8)} {state next : OutboundTcp × stack.Sockets}
    (ran : observeSyns clock packets state = .ok next) {packet : List UInt8} {key : EndpointKey}
    (member : packet ∈ packets) (read : parseTcpSyn packet = .ok (some key))
    (nonzero : key.dstPort ≠ 0) : key ∈ next.1.listeningEndpoints := by
  have all := (foldlM_registers ingress _ ran).2
  obtain ⟨position, inside, found⟩ := List.getElem_of_mem member
  have entry : (packet, clock position) ∈
      packets.zipIdx.map fun packet => (packet.1, clock packet.2) := by
    rw [List.mem_map]
    refine ⟨(packet, position), ?_, rfl⟩
    rw [List.mem_zipIdx_iff_getElem?, List.getElem?_eq_getElem inside, found]
  exact all (packet, clock position) entry key read nonzero

end OutboundTcp

/-- The queue of a tick before its first poll, and where its four-tuples come from. -/
theorem observe_eq {loop observed : EventLoop stack regex} {input : TickInput}
    (ran : loop.observe input = .ok observed) :
    observed.rxQueue = loop.rxQueue ++ input.packets ∧
      ∃ sockets, OutboundTcp.observeSyns input.synClock observed.rxQueue
        (loop.outbound, loop.sockets) = .ok (observed.outbound, sockets) := by
  obtain ⟨⟨outbound, sockets⟩, seen, -⟩ := OutboundTcp.observeSyns_listens input.synClock
    (loop.rxQueue ++ input.packets) (loop.outbound, loop.sockets)
  unfold observe at ran
  simp only [seen, bind, Except.bind] at ran
  rw [← Except.ok.inj ran]
  exact ⟨rfl, sockets, seen⟩

/-! ## The listener of a SYN -/

/-- The port of the listen endpoint is the destination port of the four-tuple. -/
def BoundTo (view : SocketView stack) (key : EndpointKey) (socket : stack.tcp.Socket) : Prop :=
  view.listenPort socket = key.dstPort

/-- A listener is bound to the port of its four-tuple, and no operation of the program rebinds it.
-/
theorem boundTo_stable (ingress : Ingress stack) :
    Stable ingress.toSocketView (BoundTo ingress.toSocketView) where
  listen key socket made := (ingress.listen_new key.dstPort socket made).1
  keeps _ _ _ kept bound := kept.port.trans bound

/-- No packet changes the port of a listen endpoint. -/
theorem boundTo_harmless (ingress : Ingress stack) (endpoints : HashMap SocketHandle EndpointKey)
    (sockets : stack.Sockets) (packet : List UInt8) :
    Harmless ingress (BoundTo ingress.toSocketView) endpoints sockets packet := by
  intro handle key taken found syn takes socket next port tuple bound
  exact port.trans bound

/-- The first poll of a tick comes to the SYN of a four-tuple, with these sockets. -/
structure AtSyn (ingress : Ingress stack) (loop : EventLoop stack regex) (input : TickInput)
    (observed : EventLoop stack regex) (key : EndpointKey) (sockets : stack.Sockets) : Prop where
  /-- The part of the tick before the poll. -/
  ran : loop.observe input = .ok observed
  /-- The packets before the SYN were taken. -/
  reached : ∃ before packet after, observed.rxQueue = before ++ packet :: after ∧
    ingress.syn packet = some key ∧
    sockets = (before.foldl ingress.receive (observed.interface, observed.sockets)).2

/-- The socket that is registered for a four-tuple was not closed and has no other four-tuple. -/
def Reserved (view : SocketView stack) (outbound : OutboundTcp) (sockets : stack.Sockets)
    (key : EndpointKey) : Prop :=
  ∀ handle socket, outbound.handleToEndpoint.lookup handle = some key →
    sockets.lookup handle = some (.tcp socket) →
    stack.tcp.state socket ≠ .closed ∧ ∀ other, view.tuple socket = some other → other = key

/-- Before the first poll of a tick the registered sockets are bound to their ports. -/
theorem settled_observed (ingress : Ingress stack) {config : AppConfig regex}
    {interface : stack.Interface} {events : List Event} {loop observed : EventLoop stack regex}
    {input : TickInput} (ran : (EventLoop.new config interface).run events = .ok loop)
    (observes : loop.observe input = .ok observed) :
    Settled (BoundTo ingress.toSocketView) observed := by
  have stable := boundTo_stable ingress
  have settled : Settled (BoundTo ingress.toSocketView) loop := by
    apply (settled_new _ config interface).run ingress stable _ ran
    apply runMeets_of_all
    intro state before packet after _
    exact boundTo_harmless ingress _ _ packet
  obtain ⟨next, again, works⟩ := observe_works loop input
  have same : next = observed := Except.ok.inj (again.symm.trans observes)
  rw [same] at works
  exact works.settled ingress stable settled

/-- In every reachable state and for every queue, when the first poll of a tick comes to a SYN to
a port but zero whose four-tuple no open socket carries, there is a listener on that port, if the
socket registered for the four-tuple was neither closed nor taken by another SYN. -/
theorem syn_finds_listener (ingress : Ingress stack) {config : AppConfig regex}
    {interface : stack.Interface} {events : List Event} {loop observed : EventLoop stack regex}
    {input : TickInput} {key : EndpointKey} {sockets : stack.Sockets}
    (ran : (EventLoop.new config interface).run events = .ok loop)
    (moment : AtSyn ingress loop input observed key sockets) (nonzero : key.dstPort ≠ 0)
    (unopened : ∀ handle socket, sockets.lookup handle = some (.tcp socket) →
      ¬ ingress.Carries socket key)
    (reserved : Reserved ingress.toSocketView observed.outbound sockets key) :
    ∃ handle socket, sockets.lookup handle = some (.tcp socket) ∧
      ingress.Listens socket key.dstPort := by
  have ready := settled_observed ingress ran moment.ran
  obtain ⟨before, packet, after, queue, syn, now⟩ := moment.reached
  have member : packet ∈ observed.rxQueue := by simp [queue]
  obtain ⟨-, listening, seen⟩ := observe_eq moment.ran
  have known : key ∈ observed.outbound.listeningEndpoints :=
    OutboundTcp.observeSyns_registers ingress seen member (ingress.syn_read packet key syn) nonzero
  obtain ⟨handle, found⟩ := (ready.registered.endpoints.mem_iff key).mp known
  have backed : Backed (BoundTo ingress.toSocketView) observed.outbound.handleToEndpoint
      (before.foldl ingress.receive (observed.interface, observed.sockets)).2 :=
    Backed.receiveAll ingress (boundTo_stable ingress) before
      (fun _ packet _ _ => boundTo_harmless ingress _ _ packet) ready.backed
  rw [← now] at backed
  obtain ⟨socket, present, bound⟩ := backed handle key found
  obtain ⟨opened, alone⟩ := reserved handle socket found present
  refine ⟨handle, socket, present, ?_, bound⟩
  -- A socket that does not listen would carry the four-tuple of the SYN.
  by_contra busy
  obtain ⟨other, carried⟩ := ingress.tuple_some socket opened busy
  rw [alone other carried] at carried
  exact unopened handle socket present ⟨⟨opened, busy⟩, carried⟩

/-- Outside the condition the SYN has lost the listener that was made for it: none that listens on
its port is registered for its four-tuple. -/
theorem own_listener_lost (ingress : Ingress stack) (documented : ingress.Listening)
    {config : AppConfig regex} {interface : stack.Interface} {events : List Event}
    {loop observed : EventLoop stack regex} {input : TickInput} {key : EndpointKey}
    {sockets : stack.Sockets} (ran : (EventLoop.new config interface).run events = .ok loop)
    (observes : loop.observe input = .ok observed)
    (unreserved : ¬ Reserved ingress.toSocketView observed.outbound sockets key)
    {handle : SocketHandle} {socket : stack.tcp.Socket}
    (found : sockets.lookup handle = some (.tcp socket))
    (listens : ingress.Listens socket key.dstPort) :
    observed.outbound.handleToEndpoint.lookup handle ≠ some key := by
  intro registered
  apply unreserved
  intro other taken also present
  have same := (settled_observed ingress ran observes).registered.endpoints.injective
    other handle key also registered
  rw [same, found] at present
  obtain rfl : socket = taken := by simpa using present
  refine ⟨by rw [listens.1]; simp, ?_⟩
  intro carried has
  rw [documented.idle socket listens.1] at has
  contradiction

/-! ## On the small stack -/

/-- A packet of the connection of `synPacket` with other flags. -/
def flagPacket (flags : UInt8) : List UInt8 := OutboundTcp.synPacket.set 33 flags

/-- A new loop on the small stack. -/
def freshLoop : EventLoop segmentStack RuleMatcher.literalRegex :=
  EventLoop.new OutboundTcp.directConfig ()

/-- The states of the TCP sockets of a set. -/
def tcpStates (sockets : segmentStack.Sockets) : List (SocketHandle × TcpState) :=
  (ascending.visit sockets.keys).filterMap fun handle =>
    match sockets.lookup handle with
    | some (.tcp socket) => some (handle, segmentStack.tcp.state socket)
    | _ => none

/-- A TCP socket is listed with its state. -/
theorem mem_tcpStates {sockets : segmentStack.Sockets} {handle : SocketHandle}
    {socket : segmentStack.tcp.Socket} (found : sockets.lookup handle = some (.tcp socket)) :
    (handle, segmentStack.tcp.state socket) ∈ tcpStates sockets := by
  unfold tcpStates
  rw [List.mem_filterMap]
  refine ⟨handle, (ascending.mem_visit _ _).mpr ((HashMap.mem_keys_iff _ _).mpr ⟨_, found⟩), ?_⟩
  rw [found]

/-- The four-tuple of `synPacket`. -/
def synKey : EndpointKey := ⟨.new 172 23 255 255, 40000, .new 93 184 216 34, 80⟩

/-- Ticks on a new loop, each with the packets that it reads. -/
def ticksOn (queues : List (List (List UInt8))) :
    Run (EventLoop segmentStack RuleMatcher.literalRegex) :=
  freshLoop.run (queues.map fun packets => .tick (tickOn packets))

/-- The books and the sockets when the first poll of the next tick has taken some of its packets. -/
def socketsAfter (queues : List (List (List UInt8))) (packets : List (List UInt8)) (count : Nat) :
    Run (HashMap SocketHandle EndpointKey × segmentStack.Sockets) := do
  let loop ← ticksOn queues
  let observed ← loop.observe (tickOn packets)
  return (observed.outbound.handleToEndpoint,
    ((observed.rxQueue.take count).foldl segmentIngress.receive
      (observed.interface, observed.sockets)).2)

/-- The poll comes to a SYN after the packets before it. -/
theorem atSyn_ticks (queues : List (List (List UInt8))) {packets before after : List (List UInt8)}
    {packet : List UInt8} {key : EndpointKey} (parts : packets = before ++ packet :: after)
    (syn : segmentIngress.syn packet = some key)
    (drained : (ticksOn queues).toOption.map EventLoop.rxQueue = some []) :
    ∃ loop observed sockets, ticksOn queues = .ok loop ∧
      AtSyn segmentIngress loop (tickOn packets) observed key sockets ∧
      socketsAfter queues packets before.length =
        .ok (observed.outbound.handleToEndpoint, sockets) := by
  cases ticked : ticksOn queues with
  | error panic => simp [ticked, Except.toOption] at drained
  | ok loop =>
    simp only [ticked, Except.toOption, Option.map_some, Option.some.injEq] at drained
    obtain ⟨observed, ran, -⟩ := observe_works loop (tickOn packets)
    have queue : observed.rxQueue = packets := by
      rw [(observe_eq ran).1, drained]
      rfl
    refine ⟨loop, observed, _, rfl, ⟨ran, before, packet, after, queue.trans parts, syn, rfl⟩, ?_⟩
    unfold socketsAfter
    simp only [ticked, ran, bind, Except.bind, queue]
    rw [parts, List.take_left]
    rfl

/-- No open socket carries a four-tuple, and the socket that is registered for it is not closed
and has no other. -/
def keepsListener (key : EndpointKey) (books : HashMap SocketHandle EndpointKey)
    (sockets : segmentStack.Sockets) : Bool :=
  (ascending.visit sockets.keys).all fun handle =>
    match sockets.lookup handle with
    | some (.tcp socket) =>
      segmentIngress.tuple socket ≠ some key ∧
        (books.lookup handle = some key → segmentStack.tcp.state socket ≠ .closed ∧
          segmentIngress.tuple socket = none)
    | _ => true

/-- Then a SYN of the four-tuple meets the condition. -/
theorem reserved_of_keepsListener {key : EndpointKey} {outbound : OutboundTcp}
    {sockets : segmentStack.Sockets}
    (kept : keepsListener key outbound.handleToEndpoint sockets = true) :
    (∀ handle socket, sockets.lookup handle = some (.tcp socket) →
      ¬ segmentIngress.Carries socket key) ∧
      Reserved segmentIngress.toSocketView outbound sockets key := by
  have each (handle : SocketHandle) (socket : segmentStack.tcp.Socket)
      (found : sockets.lookup handle = some (.tcp socket)) :
      segmentIngress.tuple socket ≠ some key ∧
        (outbound.handleToEndpoint.lookup handle = some key →
          segmentStack.tcp.state socket ≠ .closed ∧ segmentIngress.tuple socket = none) := by
    have visited := (ascending.mem_visit _ _).mpr ((HashMap.mem_keys_iff _ _).mpr ⟨_, found⟩)
    have checked := List.all_eq_true.mp kept handle visited
    rw [found] at checked
    exact of_decide_eq_true checked
  constructor
  · intro handle socket found carries
    exact (each handle socket found).1 carries.2
  · intro handle socket registered found
    obtain ⟨opened, none⟩ := (each handle socket found).2 registered
    refine ⟨opened, fun other carried => ?_⟩
    rw [none] at carried
    contradiction

/-- A packet of another connection to the same port, with some flags. -/
def otherPacket (flags : UInt8) : List UInt8 := (flagPacket flags).set 21 0x41

/-- The four-tuple of the other connection. -/
def otherKey : EndpointKey := ⟨.new 172 23 255 255, 40001, .new 93 184 216 34, 80⟩

/-- The second of two SYNs to one port finds a listener, though the first has taken one. -/
theorem syn_finds_listener_second :
    ∃ loop observed sockets, ticksOn [] = .ok loop ∧
      AtSyn segmentIngress loop (tickOn [OutboundTcp.synPacket, otherPacket 0x02]) observed
        otherKey sockets ∧
      tcpStates sockets = [(1, .synReceived), (2, .listen)] ∧
      ∃ handle socket, sockets.lookup handle = some (.tcp socket) ∧
        segmentIngress.Listens socket 80 := by
  obtain ⟨loop, observed, sockets, ticked, moment, reached⟩ := atSyn_ticks []
    (show [OutboundTcp.synPacket, otherPacket 0x02] =
      [OutboundTcp.synPacket] ++ otherPacket 0x02 :: [] from rfl)
    (show segmentIngress.syn (otherPacket 0x02) = some otherKey by decide +kernel)
    (by decide +kernel)
  have evaluated : (socketsAfter [] [OutboundTcp.synPacket, otherPacket 0x02] 1).toOption.map
      (fun state => (keepsListener otherKey state.1 state.2, tcpStates state.2)) =
      some (true, [(1, .synReceived), (2, .listen)]) := by decide +kernel
  rw [show socketsAfter _ _ 1 = _ from reached] at evaluated
  obtain ⟨kept, states⟩ := Prod.mk.inj (Option.some.inj evaluated)
  obtain ⟨unopened, reserved⟩ := reserved_of_keepsListener kept
  exact ⟨loop, observed, sockets, ticked, moment, states,
    syn_finds_listener segmentIngress ticked moment (by decide) unopened reserved⟩

/-- A connection is opened in two ticks; then one queue brings its reset and a SYN from the same
port. The SYN finds no listener, though no open socket carries its four-tuple. -/
theorem reused_four_tuple_refused :
    ∃ loop observed sockets,
      ticksOn [[OutboundTcp.synPacket], [flagPacket 0x10]] = .ok loop ∧
      AtSyn segmentIngress loop (tickOn [flagPacket 0x04, OutboundTcp.synPacket]) observed synKey
        sockets ∧
      synKey.dstPort ≠ 0 ∧
      (∀ handle socket, sockets.lookup handle = some (.tcp socket) →
        ¬ segmentIngress.Carries socket synKey) ∧
      ¬ ∃ handle socket, sockets.lookup handle = some (.tcp socket) ∧
        segmentIngress.Listens socket synKey.dstPort := by
  obtain ⟨loop, observed, sockets, ticked, moment, reached⟩ := atSyn_ticks
    [[OutboundTcp.synPacket], [flagPacket 0x10]]
    (show [flagPacket 0x04, OutboundTcp.synPacket] =
      [flagPacket 0x04] ++ OutboundTcp.synPacket :: [] from rfl)
    (show segmentIngress.syn OutboundTcp.synPacket = some synKey by decide +kernel)
    (by decide +kernel)
  have evaluated : (socketsAfter [[OutboundTcp.synPacket], [flagPacket 0x10]]
      [flagPacket 0x04, OutboundTcp.synPacket] 1).toOption.map (fun state => tcpStates state.2) =
      some [(1, .closed)] := by decide +kernel
  rw [show socketsAfter _ _ 1 = _ from reached] at evaluated
  have closed (handle : SocketHandle) (socket : segmentStack.tcp.Socket)
      (found : sockets.lookup handle = some (.tcp socket)) :
      segmentStack.tcp.state socket = .closed := by
    have member := mem_tcpStates found
    rw [show tcpStates sockets = _ from Option.some.inj evaluated, List.mem_singleton] at member
    exact (Prod.mk.inj member).2
  refine ⟨loop, observed, sockets, ticked, moment, by decide, ?_, ?_⟩
  · intro handle socket found carries
    exact carries.1.1 (closed handle socket found)
  · rintro ⟨handle, socket, found, listens⟩
    have state := listens.1
    rw [closed handle socket found] at state
    contradiction

end NsProxy.EventLoop
