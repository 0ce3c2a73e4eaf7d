import NsProxy.EventLoop.Ownership
import NsProxy.Lib.Enumerates

/-!
# Source ports over whole runs

`PublishedTcp` is run on its own, in any interleaving of its methods with accept tasks that
send connections and with the rest of the event loop, which may do anything to the socket set
that leaves the published sockets in place. Along every run the ports in use are exactly those
of the live connections, and every connection that was sent is settled once, in the order sent.
-/

namespace NsProxy.EventLoop

open Smoltcp Published PortAllocator

namespace PublishedTcp

variable {stack : StackApi}

/-- The books of the source ports balance. -/
structure Accounted (published : PublishedTcp) : Prop where
  /-- Every connection has a port, and nothing else has. -/
  keys : published.handleToPort.keys = published.states.keys
  /-- No two connections share a port, and the used ports are those of the connections. -/
  ports : Enumerates published.handleToPort published.ports.used
  /-- The used ports are in the range. -/
  range : ∀ port ∈ published.ports.used, portMin ≤ port ∧ port ≤ portMax

/-- What becomes of a connection: a new handle and a free port, or nothing; for lack of a port
only when a connection is live for each port of the range. -/
def Disposes (accepted : AcceptedConnection) (before after : PublishedTcp × stack.Sockets) :
    Outcome → Prop
  | .attached handle port =>
    handle ∉ before.1.states.keys ∧ handle ∉ before.2.keys ∧ port ∉ before.1.ports.used ∧
      (∃ now, after.1.states =
        before.1.states.insert handle (.connecting accepted.stream accepted.peerAddr now)) ∧
      after.1.handleToPort = before.1.handleToPort.insert handle port ∧
      after.1.ports.used = insert port before.1.ports.used
  | .exhausted =>
    after.1.states = before.1.states ∧ after.1.handleToPort = before.1.handleToPort ∧
      after.1.ports.used = before.1.ports.used ∧ before.1.states.keys.card = capacity
  | .refused =>
    after.1.states = before.1.states ∧ after.1.handleToPort = before.1.handleToPort ∧
      after.1.ports.used = before.1.ports.used

/-- Connections disposed of one after another. -/
inductive DisposesAll : List (AcceptedConnection × Outcome) →
    PublishedTcp × stack.Sockets → PublishedTcp × stack.Sockets → Prop
  | nil (state : PublishedTcp × stack.Sockets) : DisposesAll [] state state
  | cons {accepted : AcceptedConnection} {outcome : Outcome}
    {rest : List (AcceptedConnection × Outcome)} {before between after :
      PublishedTcp × stack.Sockets} (first : Disposes accepted before between outcome)
    (later : DisposesAll rest between after) :
    DisposesAll ((accepted, outcome) :: rest) before after

/-! ## Changes keep the books -/

/-- The books balance and the search starts in the range. -/
structure Balanced (published : PublishedTcp) : Prop extends Accounted published where
  /-- The next candidate is in the range. -/
  next : InRange published.ports.next

/-- The books of a new component balance. -/
theorem balanced_new : Balanced new where
  keys := rfl
  ports := Enumerates.empty
  range port member := absurd member (Finset.notMem_empty port)
  next := UInt16.le_refl portMin

/-- The books depend on the connections, their ports and the allocator only. -/
theorem Balanced.congr {published next : PublishedTcp} (balanced : Balanced published)
    (keys : next.states.keys = published.states.keys)
    (ports : next.handleToPort = published.handleToPort)
    (used : next.ports.used = published.ports.used) (start : InRange next.ports.next) :
    Balanced next where
  keys := by rw [ports, keys, balanced.keys]
  ports := by
    rw [ports, used]
    exact balanced.ports
  range := by
    rw [used]
    exact balanced.range
  next := start

/-- A new connection on a free port. -/
theorem Balanced.enroll {published : PublishedTcp} (balanced : Balanced published)
    {ports : PortAllocator} {port : UInt16} {handle : SocketHandle}
    (allocated : published.ports.allocate = (some port, ports))
    (fresh : handle ∉ published.states.keys) (accepted : AcceptedConnection) (now : Nat) :
    Balanced ({ published with ports := ports }.enroll handle port accepted now) := by
  obtain ⟨free, inside, next, used⟩ := allocate_some balanced.next allocated
  have absent : published.handleToPort.lookup handle = none := by
    rw [← balanced.keys, Finmap.mem_keys] at fresh
    exact Finmap.lookup_eq_none.mpr fresh
  refine ⟨⟨?_, ?_, ?_⟩, next⟩
  · show (published.handleToPort.insert handle port).keys = (published.states.insert handle _).keys
    rw [HashMap.keys_insert, HashMap.keys_insert, balanced.keys]
  · show Enumerates (published.handleToPort.insert handle port) ports.used
    rw [used]
    exact balanced.ports.insert absent free
  · show ∀ other ∈ ports.used, portMin ≤ other ∧ other ≤ portMax
    intro other member
    rw [used, Finset.mem_insert] at member
    rcases member with same | old
    · rw [same]
      exact ⟨inside, le_portMax port⟩
    · exact balanced.range other old

/-- A connection is forgotten and its port given back. -/
theorem Balanced.forget {published : PublishedTcp} (balanced : Balanced published)
    {handle : SocketHandle} (inside : handle ∈ published.states.keys) :
    Balanced (published.forget handle) := by
  rw [← balanced.keys] at inside
  obtain ⟨port, found⟩ := (HashMap.mem_keys_iff _ _).mp inside
  have released : (published.forget handle).ports = published.ports.release port := by
    simp only [PublishedTcp.forget, found]
  refine ⟨⟨?_, ?_, ?_⟩, ?_⟩
  · show (published.handleToPort.erase handle).keys = (published.states.erase handle).keys
    rw [Finmap.keys_erase, Finmap.keys_erase, balanced.keys]
  · rw [released]
    exact balanced.ports.erase found
  · rw [released]
    intro other member
    exact balanced.range other (Finset.mem_of_mem_erase member)
  · rw [released]
    exact balanced.next

/-- A refused connection leaves the used ports as they were. -/
theorem used_release {published : PublishedTcp} (balanced : Balanced published)
    {ports : PortAllocator} {port : UInt16}
    (allocated : published.ports.allocate = (some port, ports)) :
    (ports.release port).used = published.ports.used := by
  obtain ⟨free, -, -, used⟩ := allocate_some balanced.next allocated
  show ports.used.erase port = _
  rw [used, Finset.erase_insert free]

/-- Settling a connection keeps the books. -/
theorem Settles.balanced {accepted : AcceptedConnection} {outcome : Outcome}
    {before after : PublishedTcp × stack.Sockets} (settles : Settles accepted outcome before after)
    (owns : Owns before) (balanced : Balanced before.1) : Balanced after.1 := by
  cases settles with
  | attached socket now allocated =>
    exact balanced.enroll allocated (StackApi.held_fresh owns (.tcp socket)) accepted now
  | exhausted allocated =>
    obtain ⟨next, used, -⟩ := allocate_none balanced.next
      (fun port member => (balanced.range port member).1) allocated
    exact balanced.congr rfl rfl used next
  | refused allocated =>
    obtain ⟨-, -, next, -⟩ := allocate_some balanced.next allocated
    exact balanced.congr rfl rfl (used_release balanced allocated) next

/-- Every change keeps the books. -/
theorem Change.balanced {before after : PublishedTcp × stack.Sockets}
    (change : Change before after) (owns : Owns before) (balanced : Balanced before.1) :
    Balanced after.1 := by
  cases change with
  | queued acceptedRx pending => exact balanced.congr rfl rfl rfl balanced.next
  | settled settles => exact settles.balanced owns balanced
  | changed handle change =>
    cases change with
    | @advanced published _ _ _ new found _ _ =>
      have keys : (published.setState handle new).states.keys = published.states.keys :=
        HashMap.keys_insert_of_lookup found new
      exact balanced.congr keys rfl rfl balanced.next
    | removed found _ => exact balanced.forget ((HashMap.mem_keys_iff _ _).mpr ⟨_, found⟩)

/-- Any number of changes keeps the books. -/
theorem Changes.balanced {before after : PublishedTcp × stack.Sockets}
    (changes : Changes before after) (owns : Owns before) (balanced : Balanced before.1) :
    Balanced after.1 := by
  induction changes with
  | refl => exact balanced
  | tail reached change kept => exact change.balanced (Changes.turn reached owns).held kept

/-- A settled connection is attached or dropped as it should be. -/
theorem Settles.disposes {accepted : AcceptedConnection} {outcome : Outcome}
    {before after : PublishedTcp × stack.Sockets} (settles : Settles accepted outcome before after)
    (owns : Owns before) (balanced : Balanced before.1) :
    Disposes accepted before after outcome := by
  cases settles with
  | @attached published sockets ports port socket now allocated =>
    obtain ⟨free, -, -, used⟩ := allocate_some balanced.next allocated
    have unused : (StackApi.add sockets (.tcp socket)).1 ∉ sockets.keys :=
      stack.freeHandle_fresh sockets.keys
    exact ⟨StackApi.held_fresh owns (.tcp socket), unused, free, ⟨now, rfl⟩, rfl, used⟩
  | exhausted allocated =>
    obtain ⟨-, used, full⟩ := allocate_none balanced.next
      (fun port member => (balanced.range port member).1) allocated
    have live := balanced.ports.card_keys
    rw [balanced.keys, full] at live
    exact ⟨rfl, rfl, used, live⟩
  | refused allocated => exact ⟨rfl, rfl, used_release balanced allocated⟩

/-- Connections settled one after another are disposed of one after another. -/
theorem SettlesAll.disposesAll {settled : List (AcceptedConnection × Outcome)}
    {before after : PublishedTcp × stack.Sockets} (settles : SettlesAll settled before after)
    (owns : Owns before) (balanced : Balanced before.1) : DisposesAll settled before after := by
  induction settles with
  | nil state => exact .nil state
  | cons first _ ih =>
    have next := ih (first.turn owns).held (first.balanced owns balanced)
    exact .cons (first.disposes owns balanced) next

/-! ## Runs of the component -/

/-- The component in its surroundings, with the history of its connections. -/
structure Component (stack : StackApi) where
  /-- The component. -/
  published : PublishedTcp
  /-- The shared socket set. -/
  sockets : stack.Sockets
  /-- The interface. -/
  interface : stack.Interface
  /-- The connections that the accept tasks have sent, oldest first. -/
  sent : List AcceptedConnection
  /-- The connections that `attach_accepted` has taken up, oldest first, and what became of
  them. -/
  settled : List (AcceptedConnection × Outcome)

namespace Component

/-- A new component beside whatever sockets there are. -/
def start (sockets : stack.Sockets) (interface : stack.Interface) : Component stack :=
  ⟨PublishedTcp.new, sockets, interface, [], []⟩

/-- The component after `attach_accepted`. -/
def attached (component : Component stack) (clock : Nat → Nat) (late : List AcceptedConnection) :
    Component stack :=
  let (outcomes, interface, published, sockets) := attachAccepted clock late component.interface
    (component.published, component.sockets)
  ⟨published, sockets, interface, component.sent ++ late, component.settled ++ outcomes⟩

/-- A step of the component or of its surroundings. -/
inductive Step : Component stack → Component stack → Prop
  /-- An accept task sends a connection. -/
  | send {component : Component stack} {published : PublishedTcp} (accepted : AcceptedConnection)
    (room : component.published.send accepted = some published) :
    Step component { component with
      published := published
      sent := component.sent ++ [accepted] }
  /-- `poll_ready`. -/
  | pollReady {component : Component stack} {published : PublishedTcp} {sockets : stack.Sockets}
    {ready : Bool} (input : PollInput)
    (ran : PublishedTcp.pollReady input (component.published, component.sockets) =
      .ok (ready, published, sockets)) :
    Step component { component with published := published, sockets := sockets }
  /-- `attach_accepted`, while the accept tasks send more. -/
  | attachAccepted {component : Component stack} (clock : Nat → Nat)
    (late : List AcceptedConnection) : Step component (component.attached clock late)
  /-- `process`. -/
  | process {component : Component stack} {published : PublishedTcp} {sockets : stack.Sockets}
    (input : ProcessInput)
    (ran : PublishedTcp.process input (component.published, component.sockets) =
      .ok (published, sockets)) :
    Step component { component with published := published, sockets := sockets }
  /-- `cleanup`. -/
  | cleanup {component : Component stack} {published : PublishedTcp} {sockets : stack.Sockets}
    (order : IterOrder SocketHandle)
    (ran : PublishedTcp.cleanup order (component.published, component.sockets) =
      .ok (published, sockets)) :
    Step component { component with published := published, sockets := sockets }
  /-- The rest of the event loop leaves the published sockets in place. -/
  | others {component : Component stack} (sockets : stack.Sockets) (interface : stack.Interface)
    (kept : Owns (component.published, sockets)) :
    Step component { component with sockets := sockets, interface := interface }

/-- A state that a run from a new component reaches. -/
def Reachable (component : Component stack) : Prop :=
  ∃ sockets interface, Relation.ReflTransGen Step (start sockets interface) component

/-- Nothing that was sent is lost, repeated or reordered. -/
def Traced (component : Component stack) : Prop :=
  component.sent = component.settled.map Prod.fst ++
    (component.published.pending ++ component.published.acceptedRx)

/-- What every step keeps. -/
structure Sound (component : Component stack) : Prop where
  /-- The published sockets are in place. -/
  owns : Owns (component.published, component.sockets)
  /-- The books balance. -/
  balanced : Balanced component.published
  /-- No connection is lost. -/
  traced : Traced component

/-- A component to whose connections something was done. -/
theorem Sound.works {component : Component stack} {published : PublishedTcp}
    {sockets : stack.Sockets} (sound : Sound component)
    (works : Works (component.published, component.sockets) (published, sockets)) :
    Sound { component with published := published, sockets := sockets } := by
  obtain ⟨pending, acceptedRx⟩ := works.queues
  refine ⟨(works.changes.turn sound.owns).held,
    works.changes.balanced sound.owns sound.balanced, ?_⟩
  show component.sent = _ ++ (published.pending ++ published.acceptedRx)
  rw [pending, acceptedRx]
  exact sound.traced

end Component

/-- Receiving from the channel keeps the order of the connections. -/
theorem pollRecv_queues (published : PublishedTcp) (yields : Bool) :
    (published.pollRecv yields).2.pending ++ (published.pollRecv yields).2.acceptedRx =
      published.pending ++ published.acceptedRx := by
  unfold pollRecv
  cases waiting : published.acceptedRx with
  | nil => simp only [waiting]
  | cons accepted rest =>
    cases yields with
    | true => simp only [if_true, waiting]
    | false => simp only [Bool.false_eq_true, if_false, List.append_assoc, List.singleton_append]

/-- Settling connections touches no queue. -/
theorem SettlesAll.queues {settled : List (AcceptedConnection × Outcome)}
    {before after : PublishedTcp × stack.Sockets} (settles : SettlesAll settled before after) :
    after.1.pending = before.1.pending ∧ after.1.acceptedRx = before.1.acceptedRx := by
  induction settles with
  | nil _ => exact ⟨rfl, rfl⟩
  | cons first _ kept =>
    rw [kept.1, kept.2]
    cases first with
    | attached _ _ _ => exact ⟨rfl, rfl⟩
    | exhausted _ => exact ⟨rfl, rfl⟩
    | refused _ => exact ⟨rfl, rfl⟩

/-- `attach_accepted` settles what waits, oldest first, and empties the queues. -/
theorem attachAccepted_settles (clock : Nat → Nat) (late : List AcceptedConnection)
    (interface : stack.Interface) (published : PublishedTcp) (sockets : stack.Sockets) :
    SettlesAll (attachAccepted clock late interface (published, sockets)).1
        ({ published with acceptedRx := [], pending := [] }, sockets)
        (attachAccepted clock late interface (published, sockets)).2.2 ∧
      (attachAccepted clock late interface (published, sockets)).1.map Prod.fst =
        published.pending ++ (published.acceptedRx ++ late) := by
  have loop := attachAll_settles ((published.receiveAll late).pending.zipIdx.map fun accepted =>
    (accepted.1, clock accepted.2)) interface
      ({ published.receiveAll late with pending := [] }, sockets)
  refine ⟨loop.1, loop.2.trans ?_⟩
  rw [List.map_map]
  exact List.zipIdx_map_fst _ _

namespace Component

/-- Every step keeps the component sound. -/
theorem Step.sound {before after : Component stack} (step : Step before after)
    (sound : Sound before) : Sound after := by
  cases step with
  | @send published accepted room =>
    unfold PublishedTcp.send at room
    split at room
    · obtain rfl := Option.some.inj room
      refine ⟨sound.owns, sound.balanced.congr rfl rfl rfl sound.balanced.next, ?_⟩
      show before.sent ++ [accepted] = _ ++ (_ ++ (_ ++ [accepted]))
      rw [sound.traced]
      simp only [List.append_assoc]
    · contradiction
  | @pollReady published sockets ready input ran =>
    obtain ⟨other, same⟩ := pollReady_ok input _ sound.owns
    rw [same] at ran
    simp only [Except.ok.injEq, Prod.mk.injEq] at ran
    obtain ⟨-, rfl, rfl⟩ := ran
    have changes := pollRecv_changes before.published before.sockets input.yields
    refine ⟨(changes.turn sound.owns).held, changes.balanced sound.owns sound.balanced, ?_⟩
    show before.sent = _ ++ (_ ++ _)
    rw [pollRecv_queues]
    exact sound.traced
  | attachAccepted clock late =>
    have changes := attachAccepted_changes clock late before.interface
      (before.published, before.sockets)
    obtain ⟨settles, taken⟩ := attachAccepted_settles clock late before.interface
      before.published before.sockets
    refine ⟨(changes.turn sound.owns).held, changes.balanced sound.owns sound.balanced, ?_⟩
    have sent : (before.attached clock late).sent = before.sent ++ late := rfl
    have settled : (before.attached clock late).settled = before.settled ++
      (PublishedTcp.attachAccepted clock late before.interface
        (before.published, before.sockets)).1 := rfl
    have pending : (before.attached clock late).published.pending = [] := settles.queues.1
    have acceptedRx : (before.attached clock late).published.acceptedRx = [] := settles.queues.2
    unfold Traced
    rw [sent, settled, pending, acceptedRx, List.map_append, taken, sound.traced]
    simp only [List.append_assoc, List.append_nil]
  | @process published sockets input ran =>
    obtain ⟨next, same, works⟩ := process_works input _ sound.owns
    rw [ran] at same
    obtain rfl := Except.ok.inj same
    exact sound.works works
  | @cleanup published sockets order ran =>
    obtain ⟨next, same, works⟩ := cleanup_works order _ sound.owns
    rw [ran] at same
    obtain rfl := Except.ok.inj same
    exact sound.works works
  | others sockets interface kept => exact ⟨kept, sound.balanced, sound.traced⟩

/-- Every reachable component is sound. -/
theorem Reachable.sound {component : Component stack} (reached : Reachable component) :
    Sound component := by
  obtain ⟨sockets, interface, steps⟩ := reached
  induction steps with
  | refl =>
    exact ⟨fun handle member => absurd member (Finset.notMem_empty handle), balanced_new, rfl⟩
  | tail _ step kept => exact step.sound kept

end Component

/-- In every reachable state the books of the source ports balance and every connection that
was sent is settled or waiting, in the order sent; and `attach_accepted` takes up all that
waits, oldest first, giving each connection a new handle and a free port or dropping it. -/
theorem published_port_accounting {component : Component stack}
    (reached : component.Reachable) :
    Accounted component.published ∧ component.Traced ∧
      ∀ clock late,
        (attachAccepted clock late component.interface
            (component.published, component.sockets)).1.map Prod.fst =
          component.published.pending ++ (component.published.acceptedRx ++ late) ∧
        DisposesAll (attachAccepted clock late component.interface
            (component.published, component.sockets)).1
          ({ component.published with acceptedRx := [], pending := [] }, component.sockets)
          (attachAccepted clock late component.interface
            (component.published, component.sockets)).2.2 := by
  have sound := reached.sound
  refine ⟨sound.balanced.toAccounted, sound.traced, ?_⟩
  intro clock late
  obtain ⟨settles, taken⟩ := attachAccepted_settles clock late component.interface
    component.published component.sockets
  have emptied : Balanced { component.published with acceptedRx := [], pending := [] } :=
    sound.balanced.congr rfl rfl rfl sound.balanced.next
  exact ⟨taken, settles.disposesAll sound.owns emptied⟩

/-- A connection from a port of the host to a published port. -/
def connectionFrom (port : UInt16) : AcceptedConnection :=
  ⟨⟨[], [], []⟩, ⟨.new 127 0 0 1, port⟩, ⟨.unspecified, 8080, 80⟩⟩

/-- Two connections have been attached. -/
def twoAttached : Component quietStack :=
  Component.attached { Component.start ∅ () with
    published := { PublishedTcp.new with
      acceptedRx := [connectionFrom 40000, connectionFrom 40001] }
    sent := [connectionFrom 40000, connectionFrom 40001] } (fun _ => 0) []

/-- The handshake of the first connection times out, its socket is removed, and a third connection
is attached. -/
def thirdAttached : Run (Component quietStack) := do
  let late := fun handle => if handle = 0 then tcpHandshakeTimeout else 0
  let state ← process ⟨late, ascending, ascending⟩ (twoAttached.published, twoAttached.sockets)
  let (published, sockets) ← cleanup ascending state
  return Component.attached { twoAttached with published := published, sockets := sockets }
    (fun _ => 0) [connectionFrom 40002]

/-- The run is one of the component. -/
theorem reachable_thirdAttached {component : Component quietStack}
    (ran : thirdAttached = .ok component) : component.Reachable := by
  obtain ⟨⟨between, aborted⟩, processed, rest⟩ := Error.bind_eq_ok.mp ran
  obtain ⟨⟨published, sockets⟩, cleaned, last⟩ := Error.bind_eq_ok.mp rest
  obtain rfl := Except.ok.inj last
  refine ⟨∅, (), ?_⟩
  refine .tail (.tail (.tail (.tail (.tail (.tail .refl (.send (connectionFrom 40000) rfl))
    (.send (connectionFrom 40001) rfl)) (.attachAccepted (fun _ => 0) [])) (.process _ processed))
    (.cleanup _ cleaned)) (.attachAccepted (fun _ => 0) [connectionFrom 40002])

/-- The port of the removed connection is free again while the third one, which got its handle, is
given the port after the second. -/
theorem published_port_accounting_timed_out :
    ∃ component, thirdAttached = .ok component ∧
      component.settled.map Prod.snd =
        [.attached 0 49152, .attached 1 49153, .attached 0 49154] ∧
      component.published.ports.used = {49153, 49154} ∧
      Accounted component.published ∧ component.Traced := by
  have evaluated : (thirdAttached.map fun component =>
      (component.settled.map Prod.snd, component.published.ports.used)).toOption =
      some ([.attached 0 49152, .attached 1 49153, .attached 0 49154], {49153, 49154}) := by
    decide +kernel
  cases ran : thirdAttached with
  | error panic =>
    rw [ran] at evaluated
    contradiction
  | ok component =>
    rw [ran] at evaluated
    obtain ⟨settled, used⟩ := Prod.mk.inj (Option.some.inj evaluated)
    obtain ⟨accounted, traced, -⟩ := published_port_accounting (reachable_thirdAttached ran)
    exact ⟨component, rfl, settled, used, accounted, traced⟩

/-! ## The component inside the event loop -/

section EventLoop

open EventLoop

variable {regex : RegexApi} {loop next : EventLoop stack regex}

/-- The published connections of the loop are in a reachable state of the component. -/
def Seen (loop : EventLoop stack regex) : Prop :=
  ∃ sent settled,
    Component.Reachable ⟨loop.published, loop.sockets, loop.interface, sent, settled⟩

/-- One more step of a run. -/
theorem Component.Reachable.step {before after : Component stack} (reached : before.Reachable)
    (step : Component.Step before after) : after.Reachable := by
  obtain ⟨sockets, interface, steps⟩ := reached
  exact ⟨sockets, interface, steps.tail step⟩

/-- Whatever keeps the division of the sockets is a step of the surroundings. -/
theorem Seen.others (seen : Seen loop) (same : next.published = loop.published)
    (owned : Owned next) : Seen next := by
  obtain ⟨sent, settled, reached⟩ := seen
  have kept : Owns (loop.published, next.sockets) := same ▸ owned.publishedHeld
  have later := reached.step (.others next.sockets next.interface kept)
  refine ⟨sent, settled, ?_⟩
  rw [same]
  exact later

/-- The part of a tick before the first poll. -/
theorem observe_seen (input : TickInput) (owned : Owned loop) (seen : Seen loop)
    (ran : loop.observe input = .ok next) : Seen next := by
  obtain ⟨⟨outbound, sockets⟩, observed, listens⟩ := OutboundTcp.observeSyns_listens
    input.synClock (loop.rxQueue ++ input.packets) (loop.outbound, loop.sockets)
  unfold observe at ran
  simp only [observed, bind, Except.bind] at ran
  obtain rfl := Except.ok.inj ran
  have listening : Seen { loop with outbound := outbound, sockets := sockets } :=
    seen.others rfl ((listens_works loop listens).changes.owned owned)
  obtain ⟨sent, settled, reached⟩ := listening
  exact ⟨_, _, reached.step (.attachAccepted input.attachClock input.late)⟩

/-- The part of a tick between the polls. -/
theorem serve_seen (input : TickInput) (owned : Owned loop) (seen : Seen loop)
    (ran : loop.serve input = .ok next) : Seen next := by
  have typed := owned.dnsHeld loop.dns.handle (Finset.mem_singleton_self _)
  obtain ⟨dns, answered, ranDns, same, touched⟩ := processSet_ok loop.dns loop.sockets typed
  have first : EventLoop.Changes loop { loop with dns := dns, sockets := answered } :=
    .single (.stack rfl rfl same touched.kinds_eq)
  obtain ⟨⟨outbound, relayed⟩, ranOutbound, acts⟩ := OutboundTcp.process_acts
    loop.config dns input.outbound (loop.outbound, answered) (first.owned owned).outboundHeld
  have second := first.trans (acts_works _ acts).changes
  unfold serve at ran
  simp only [ranDns, ranOutbound, bind, Except.bind] at ran
  cases ranPublished : PublishedTcp.process input.published (loop.published, relayed) with
  | error panic =>
    rw [ranPublished] at ran
    contradiction
  | ok processed =>
    obtain ⟨published, sockets⟩ := processed
    rw [ranPublished] at ran
    obtain rfl := Except.ok.inj ran
    have relaying : Seen { loop with dns := dns, outbound := outbound, sockets := relayed } :=
      seen.others rfl (EventLoop.Changes.owned second owned)
    obtain ⟨sent, settled, reached⟩ := relaying
    exact ⟨sent, settled, reached.step (.process input.published ranPublished)⟩

/-- The part of a tick after the second poll. -/
theorem cleanup_seen (input : TickInput) (owned : Owned loop) (seen : Seen loop)
    (ran : loop.cleanup input = .ok next) : Seen next := by
  obtain ⟨⟨outbound, kept⟩, ranOutbound, acts⟩ := OutboundTcp.cleanup_acts
    loop.config input.outboundCleanup (loop.outbound, loop.sockets) owned.outboundHeld
  have cleaned : Seen { loop with outbound := outbound, sockets := kept } :=
    seen.others rfl ((acts_works loop acts).changes.owned owned)
  unfold EventLoop.cleanup at ran
  simp only [ranOutbound, bind, Except.bind] at ran
  cases ranPublished : PublishedTcp.cleanup input.publishedCleanup (loop.published, kept) with
  | error panic =>
    rw [ranPublished] at ran
    contradiction
  | ok processed =>
    obtain ⟨published, sockets⟩ := processed
    rw [ranPublished] at ran
    obtain rfl := Except.ok.inj ran
    obtain ⟨sent, settled, reached⟩ := cleaned
    exact ⟨sent, settled, reached.step (.cleanup input.publishedCleanup ranPublished)⟩

/-- A tick is made of steps of the component and of its surroundings. -/
theorem tick_seen (input : TickInput) (owned : Owned loop) (seen : Seen loop)
    (ran : loop.tick input = .ok next) : Seen next := by
  obtain ⟨observed, ranObserve, one⟩ := observe_works loop input
  have two : EventLoop.Changes loop _ :=
    one.changes.trans (pollInterface_changes observed input.firstPoll)
  have polled : Seen (observed.pollInterface input.firstPoll) :=
    (observe_seen input owned seen ranObserve).others rfl (two.owned owned)
  obtain ⟨served, ranServe, three⟩ := serve_works _ input (two.owned owned)
  have four : EventLoop.Changes loop _ :=
    (two.trans three.changes).trans (pollInterface_changes served input.secondPoll)
  have repolled : Seen (served.pollInterface input.secondPoll) :=
    (serve_seen input (two.owned owned) polled ranServe).others rfl (four.owned owned)
  unfold tick at ran
  simp only [ranObserve, ranServe, bind, Except.bind] at ran
  exact cleanup_seen input (four.owned owned) repolled ran

/-- A poll of readiness is made of steps of the component and of its surroundings. -/
theorem pollReady_seen {ready : Bool} (outbound : OutboundTcp.PollInput)
    (published : PublishedTcp.PollInput) (owned : Owned loop) (seen : Seen loop)
    (ran : loop.pollReady outbound published = .ok (ready, next)) : Seen next := by
  obtain ⟨outboundReady, ⟨outboundNext, sockets⟩, ranOutbound, acts⟩ :=
    OutboundTcp.pollReady_acts loop.config outbound (loop.outbound, loop.sockets)
      owned.outboundHeld
  have first : EventLoop.Changes loop _ := (acts_works loop acts).changes
  have polled : Seen { loop with outbound := outboundNext, sockets := sockets } :=
    seen.others rfl (first.owned owned)
  obtain ⟨publishedReady, ranPublished⟩ := PublishedTcp.pollReady_ok published
    (loop.published, sockets) (first.owned owned).publishedHeld
  unfold EventLoop.pollReady at ran
  simp only [ranOutbound, ranPublished, bind, Except.bind] at ran
  obtain rfl := (Prod.mk.inj (Except.ok.inj ran)).2
  obtain ⟨sent, settled, reached⟩ := polled
  exact ⟨sent, settled, reached.step (.pollReady published ranPublished)⟩

/-- A step of the loop is made of steps of the component and of its surroundings. -/
theorem step_seen (event : Event) (owned : Owned loop) (seen : Seen loop)
    (ran : loop.step event = .ok next) : Seen next := by
  cases event with
  | tick input => exact tick_seen input owned seen ran
  | poll outbound published =>
    obtain ⟨ready, polled, ranPoll, _⟩ := pollReady_works loop outbound published owned
    unfold EventLoop.step at ran
    simp only [ranPoll, bind, Except.bind] at ran
    obtain rfl := Except.ok.inj ran
    exact pollReady_seen outbound published owned seen ranPoll
  | accept accepted =>
    obtain rfl := Except.ok.inj ran
    obtain ⟨sent, settled, reached⟩ := seen
    cases room : loop.published.send accepted with
    | none => exact ⟨sent, settled, reached⟩
    | some published => exact ⟨_, settled, reached.step (.send accepted room)⟩

/-- In every state that the event loop reaches, the published connections are in a reachable
state of the component, so the books balance there too. -/
theorem run_seen (config : AppConfig regex) (interface : stack.Interface) (events : List Event) :
    ∃ loop, (EventLoop.new config interface).run events = .ok loop ∧ Seen loop ∧
      Accounted loop.published := by
  have start : Seen (EventLoop.new config interface) := ⟨[], [], _, interface, .refl⟩
  have step : ∀ event ∈ events, ∀ loop : EventLoop stack regex, Owned loop ∧ Seen loop →
      ∃ next, loop.step event = .ok next ∧ Owned next ∧ Seen next := by
    rintro event _ loop ⟨owned, seen⟩
    obtain ⟨next, ran, changes⟩ := step_changes loop event owned
    exact ⟨next, ran, changes.owned owned, step_seen event owned seen ran⟩
  obtain ⟨loop, ran, -, seen⟩ := foldlM_all (fun loop => Owned loop ∧ Seen loop) step
    (EventLoop.new config interface) ⟨new_owned config interface, start⟩
  obtain ⟨sent, settled, reached⟩ := seen
  exact ⟨loop, ran, ⟨sent, settled, reached⟩, reached.sound.balanced.toAccounted⟩

end EventLoop

end PublishedTcp

end NsProxy.EventLoop
