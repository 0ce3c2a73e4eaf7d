import NsProxy.EventLoop.Loop

/-!
# Who owns which socket

Three components share the socket set. In every state that the event loop reaches, each handle
that is live belongs to exactly one of them and holds a socket of the type that it expects, so
no access panics and no socket is leaked. The TCP components enter only through the turns they
take; the interface and the DNS interceptor change no type.
-/

namespace NsProxy

open Smoltcp EventLoop

/-- The socket set is divided among the outbound connections, the published connections and
the DNS interceptor. -/
structure Divided (kinds : SocketHandle → Option SocketKind)
    (outbound published : Finset SocketHandle) (dns : SocketHandle) : Prop where
  /-- Outbound connections hold TCP sockets. -/
  outboundHeld : Held .tcp kinds outbound
  /-- Published connections hold TCP sockets. -/
  publishedHeld : Held .tcp kinds published
  /-- The interceptor holds a UDP socket. -/
  dnsHeld : Held .udp kinds {dns}
  /-- No connection is both. -/
  apart : Disjoint outbound published
  /-- Every live handle belongs to someone. -/
  covered : ∀ handle, kinds handle ≠ none →
    handle ∈ outbound ∨ handle ∈ published ∨ handle ∈ ({dns} : Finset SocketHandle)

namespace Divided

variable {kinds after : SocketHandle → Option SocketKind}
  {outbound published next : Finset SocketHandle} {dns : SocketHandle}

/-- Handles with sockets of different types are different. -/
theorem disjoint_of_kinds {left right : Finset SocketHandle} (tcp : Held .tcp kinds left)
    (udp : Held .udp kinds right) : Disjoint left right := by
  rw [Finset.disjoint_left]
  intro handle inLeft inRight
  have one := tcp handle inLeft
  rw [udp handle inRight] at one
  contradiction

/-- The division is symmetric in the two TCP components. -/
theorem swap (divided : Divided kinds outbound published dns) :
    Divided kinds published outbound dns where
  outboundHeld := divided.publishedHeld
  publishedHeld := divided.outboundHeld
  dnsHeld := divided.dnsHeld
  apart := divided.apart.symm
  covered handle present := by
    rcases divided.covered handle present with ours | theirs | last
    · exact Or.inr (Or.inl ours)
    · exact Or.inl theirs
    · exact Or.inr (Or.inr last)

/-- A turn of the outbound connections keeps the division. -/
theorem outboundTurn (divided : Divided kinds outbound published dns)
    (turn : Turn .tcp kinds outbound after next) : Divided after next published dns := by
  have others := turn.leaves divided.publishedHeld divided.apart
  have interceptor :=
    turn.leaves divided.dnsHeld (disjoint_of_kinds divided.outboundHeld divided.dnsHeld)
  refine ⟨turn.held, others.1, interceptor.1, others.2, ?_⟩
  have covered := turn.covers (published ∪ {dns}) fun handle present => by
    rw [Finset.mem_union]
    exact divided.covered handle present
  intro handle present
  have place := covered handle present
  rw [Finset.mem_union] at place
  exact place

/-- A turn of the published connections keeps the division. -/
theorem publishedTurn (divided : Divided kinds outbound published dns)
    (turn : Turn .tcp kinds published after next) : Divided after outbound next dns :=
  (divided.swap.outboundTurn turn).swap

/-- A change that keeps all types keeps the division. -/
theorem congr (divided : Divided kinds outbound published dns)
    (same : ∀ handle, after handle = kinds handle) : Divided after outbound published dns := by
  have equal : after = kinds := funext same
  rw [equal]
  exact divided

end Divided

namespace EventLoop

variable {stack : StackApi} {regex : RegexApi}

/-- The sockets of the loop are divided among its components. -/
abbrev Owned (loop : EventLoop stack regex) : Prop :=
  Divided (StackApi.kinds loop.sockets) loop.outbound.states.keys loop.published.states.keys
    loop.dns.handle

/-! ## The DNS interceptor -/

/-- Answering a datagram keeps the handle. -/
theorem answer_handle (dns : DnsInterceptor) (payload : List UInt8) :
    (dns.answer payload).1.handle = dns.handle := by
  unfold DnsInterceptor.answer
  split
  · rfl
  · split <;> rfl

/-- The receive loop keeps the handle. -/
theorem process_handle (udp : UdpApi) (dns : DnsInterceptor) (socket : udp.Socket) :
    (dns.process udp socket).1.handle = dns.handle := by
  fun_induction DnsInterceptor.process udp dns socket with
  | case1 => rfl
  | case2 dns socket ready datagram received ih =>
    rw [ih, answer_handle]
  | case3 => rfl

/-- `process` of the interceptor changes its own socket only. -/
theorem processSet_ok (dns : DnsInterceptor) (sockets : stack.Sockets)
    (typed : StackApi.kinds sockets dns.handle = some .udp) :
    ∃ next after, dns.processSet sockets = .ok (next, after) ∧ next.handle = dns.handle ∧
      StackApi.Touches dns.handle sockets after := by
  obtain ⟨socket, got⟩ := StackApi.getUdp_ok typed
  have touched : StackApi.Touches dns.handle sockets
      (StackApi.set sockets dns.handle (.udp (dns.process stack.udp socket).2)) :=
    StackApi.touches_set typed
  refine ⟨(dns.process stack.udp socket).1, _, ?_, process_handle stack.udp dns socket, touched⟩
  unfold DnsInterceptor.processSet
  rw [got]
  rfl

/-! ## What a step of the loop can do -/

/-- One change to the state of the loop. -/
inductive Change : EventLoop stack regex → EventLoop stack regex → Prop
  /-- A change to an outbound connection. -/
  | outbound {loop : EventLoop stack regex} {after : OutboundTcp × stack.Sockets}
    (change : OutboundTcp.Change (loop.outbound, loop.sockets) after) :
    Change loop { loop with outbound := after.1, sockets := after.2 }
  /-- A change to a published connection. -/
  | published {loop : EventLoop stack regex} {after : PublishedTcp × stack.Sockets}
    (change : PublishedTcp.Change (loop.published, loop.sockets) after) :
    Change loop { loop with published := after.1, sockets := after.2 }
  /-- The device, the interface or the interceptor works on the sockets. -/
  | stack {loop next : EventLoop stack regex} (outbound : next.outbound = loop.outbound)
    (published : next.published = loop.published) (handle : next.dns.handle = loop.dns.handle)
    (kinds : ∀ handle, StackApi.kinds next.sockets handle = StackApi.kinds loop.sockets handle) :
    Change loop next

/-- Any number of changes. -/
abbrev Changes (before after : EventLoop stack regex) : Prop :=
  Relation.ReflTransGen Change before after

/-- A change keeps the division. -/
theorem Change.owned {before after : EventLoop stack regex} (change : Change before after)
    (owned : Owned before) : Owned after := by
  cases change with
  | outbound change => exact owned.outboundTurn (change.turn owned.outboundHeld)
  | published change => exact owned.publishedTurn (change.turn owned.publishedHeld)
  | stack outbound published handle kinds =>
    unfold Owned
    rw [outbound, published, handle]
    exact owned.congr kinds

/-- Any number of changes keeps the division. -/
theorem Changes.owned {before after : EventLoop stack regex} (changes : Changes before after)
    (owned : Owned before) : Owned after := by
  induction changes with
  | refl => exact owned
  | tail _ change kept => exact change.owned kept

/-- `Interface::poll` makes a change. -/
theorem pollInterface_changes (loop : EventLoop stack regex) (now : Nat) :
    Changes loop (loop.pollInterface now) := by
  have kinds := stack.poll_kind now loop.interface loop.rxQueue loop.sockets
  exact .single (.stack rfl rfl rfl kinds)

/-- What the program itself does to the state of the loop, with what becomes of the sockets of
the outbound connections. -/
inductive Work : EventLoop stack regex → EventLoop stack regex → Prop
  /-- A listen socket for a SYN. -/
  | listened {loop : EventLoop stack regex} {after : OutboundTcp × stack.Sockets}
    (listens : OutboundTcp.Listens (loop.outbound, loop.sockets) after) :
    Work loop { loop with outbound := after.1, sockets := after.2 }
  /-- An act on an outbound connection. -/
  | acted {loop : EventLoop stack regex} {after : OutboundTcp × stack.Sockets}
    {dns : Option DnsInterceptor} {handle : SocketHandle}
    (act : OutboundTcp.Act loop.config dns handle (loop.outbound, loop.sockets) after) :
    Work loop { loop with outbound := after.1, sockets := after.2 }
  /-- A change to a published connection. -/
  | published {loop : EventLoop stack regex} {after : PublishedTcp × stack.Sockets}
    (change : PublishedTcp.Change (loop.published, loop.sockets) after) :
    Work loop { loop with published := after.1, sockets := after.2 }
  /-- The interceptor answers on its socket. -/
  | answered {loop : EventLoop stack regex} {dns : DnsInterceptor} {sockets : stack.Sockets}
    (same : dns.handle = loop.dns.handle)
    (touched : StackApi.Touches loop.dns.handle loop.sockets sockets) :
    Work loop { loop with dns := dns, sockets := sockets }
  /-- Packets are read, or the interface is used. -/
  | read {loop : EventLoop stack regex} (rxQueue : List (List UInt8))
    (interface : stack.Interface) :
    Work loop { loop with rxQueue := rxQueue, interface := interface }

/-- Any number of them. -/
abbrev Works (before after : EventLoop stack regex) : Prop :=
  Relation.ReflTransGen Work before after

/-- Work of the program is a change of the loop. -/
theorem Work.change {before after : EventLoop stack regex} (work : Work before after) :
    Change before after := by
  cases work with
  | listened listens => exact .outbound listens.change
  | acted act => exact .outbound (.changed _ act.changeAt)
  | published change => exact .published change
  | answered same touched => exact .stack rfl rfl same touched.kinds_eq
  | read _ _ => exact .stack rfl rfl rfl fun _ => rfl

/-- Works of the program are changes of the loop. -/
theorem Works.changes {before after : EventLoop stack regex} (works : Works before after) :
    Changes before after :=
  works.lift id fun _ _ work => work.change

/-- New listen sockets are work of the loop. -/
theorem listens_works (loop : EventLoop stack regex) {after : OutboundTcp × stack.Sockets}
    (listens : Relation.ReflTransGen OutboundTcp.Listens (loop.outbound, loop.sockets) after) :
    Works loop { loop with outbound := after.1, sockets := after.2 } := by
  induction listens with
  | refl => exact .refl
  | tail _ step reached => exact reached.tail (.listened step)

/-- Acts on outbound connections are work of the loop. -/
theorem acts_works (loop : EventLoop stack regex) {after : OutboundTcp × stack.Sockets}
    {dns : Option DnsInterceptor}
    (acts : OutboundTcp.Acts loop.config dns (loop.outbound, loop.sockets) after) :
    Works loop { loop with outbound := after.1, sockets := after.2 } := by
  induction acts with
  | refl => exact .refl
  | tail _ act reached =>
    obtain ⟨handle, act⟩ := act
    exact reached.tail (.acted act)

/-- Changes to published connections are work of the loop. -/
theorem published_works (loop : EventLoop stack regex) {after : PublishedTcp × stack.Sockets}
    (changes : PublishedTcp.Changes (loop.published, loop.sockets) after) :
    Works loop { loop with published := after.1, sockets := after.2 } := by
  induction changes with
  | refl => exact .refl
  | tail _ change reached => exact reached.tail (.published change)

/-- The part of a tick before the first poll. -/
theorem observe_works (loop : EventLoop stack regex) (input : TickInput) :
    ∃ next, loop.observe input = .ok next ∧ Works loop next := by
  obtain ⟨⟨outbound, sockets⟩, observed, listens⟩ := OutboundTcp.observeSyns_listens
    input.synClock (loop.rxQueue ++ input.packets) (loop.outbound, loop.sockets)
  have attaches := PublishedTcp.attachAccepted_changes input.attachClock input.late
    loop.interface (loop.published, sockets)
  have first := listens_works loop listens
  have second := published_works { loop with outbound := outbound, sockets := sockets } attaches
  unfold observe
  simp only [observed, bind, Except.bind]
  exact ⟨_, rfl, (first.trans second).tail (.read _ _)⟩

/-- The part of a tick between the polls. -/
theorem serve_works (loop : EventLoop stack regex) (input : TickInput) (owned : Owned loop) :
    ∃ next, loop.serve input = .ok next ∧ Works loop next := by
  have typed := owned.dnsHeld loop.dns.handle (Finset.mem_singleton_self _)
  obtain ⟨dns, answered, ranDns, same, touched⟩ := processSet_ok loop.dns loop.sockets typed
  have first : Works loop { loop with dns := dns, sockets := answered } :=
    .single (.answered same touched)
  obtain ⟨⟨outbound, relayed⟩, ranOutbound, acts⟩ := OutboundTcp.process_acts loop.config dns
    input.outbound (loop.outbound, answered) (first.changes.owned owned).outboundHeld
  have second : Works loop _ := first.trans (acts_works _ acts)
  obtain ⟨⟨published, sockets⟩, ranPublished, works⟩ := PublishedTcp.process_works
    input.published (loop.published, relayed) (second.changes.owned owned).publishedHeld
  have third := second.trans (published_works _ works.changes)
  unfold serve
  simp only [ranDns, ranOutbound, ranPublished, bind, Except.bind]
  exact ⟨_, rfl, third⟩

/-- The part of a tick after the second poll. -/
theorem cleanup_works (loop : EventLoop stack regex) (input : TickInput) (owned : Owned loop) :
    ∃ next, loop.cleanup input = .ok next ∧ Works loop next := by
  obtain ⟨⟨outbound, kept⟩, ranOutbound, acts⟩ := OutboundTcp.cleanup_acts
    loop.config input.outboundCleanup (loop.outbound, loop.sockets) owned.outboundHeld
  have first := acts_works loop acts
  obtain ⟨⟨published, sockets⟩, ranPublished, works⟩ := PublishedTcp.cleanup_works
    input.publishedCleanup (loop.published, kept) (first.changes.owned owned).publishedHeld
  have second := first.trans (published_works _ works.changes)
  unfold cleanup
  simp only [ranOutbound, ranPublished, bind, Except.bind]
  exact ⟨_, rfl, second⟩

/-- A tick makes changes and does not panic. -/
theorem tick_changes (loop : EventLoop stack regex) (input : TickInput) (owned : Owned loop) :
    ∃ next, loop.tick input = .ok next ∧ Changes loop next := by
  obtain ⟨observed, ranObserve, one⟩ := observe_works loop input
  have two : Changes loop _ := one.changes.trans (pollInterface_changes observed input.firstPoll)
  obtain ⟨served, ranServe, three⟩ := serve_works _ input (two.owned owned)
  have four : Changes loop _ :=
    (two.trans three.changes).trans (pollInterface_changes served input.secondPoll)
  obtain ⟨last, ranCleanup, five⟩ := cleanup_works _ input (four.owned owned)
  refine ⟨last, ?_, four.trans five.changes⟩
  unfold tick
  simp only [ranObserve, ranServe, bind, Except.bind]
  exact ranCleanup

/-- A poll of readiness is work and does not panic. -/
theorem pollReady_works (loop : EventLoop stack regex) (outbound : OutboundTcp.PollInput)
    (published : PublishedTcp.PollInput) (owned : Owned loop) :
    ∃ ready next, loop.pollReady outbound published = .ok (ready, next) ∧ Works loop next := by
  obtain ⟨outboundReady, ⟨outboundNext, sockets⟩, ranOutbound, acts⟩ :=
    OutboundTcp.pollReady_acts loop.config outbound (loop.outbound, loop.sockets)
      owned.outboundHeld
  have first := acts_works loop acts
  obtain ⟨publishedReady, ranPublished⟩ := PublishedTcp.pollReady_ok published
    (loop.published, sockets) (first.changes.owned owned).publishedHeld
  have second := first.trans (published_works _
    (PublishedTcp.pollRecv_changes loop.published sockets published.yields))
  unfold pollReady
  simp only [ranOutbound, ranPublished, bind, Except.bind]
  exact ⟨_, _, rfl, second⟩

/-- An accept task that sends a connection is work. -/
theorem accept_works (loop : EventLoop stack regex) (accepted : Published.AcceptedConnection) :
    Works loop { loop with published := (loop.published.send accepted).getD loop.published } := by
  unfold PublishedTcp.send
  split
  · have sent : PublishedTcp.Change (loop.published, loop.sockets)
        ({ loop.published with acceptedRx := loop.published.acceptedRx ++ [accepted] },
          loop.sockets) := .queued _ loop.published.pending
    exact .single (.published sent)
  · exact .refl

/-- A step makes changes and does not panic. -/
theorem step_changes (loop : EventLoop stack regex) (event : Event) (owned : Owned loop) :
    ∃ next, loop.step event = .ok next ∧ Changes loop next := by
  cases event with
  | tick input => exact tick_changes loop input owned
  | poll outbound published =>
    obtain ⟨ready, next, ran, works⟩ := pollReady_works loop outbound published owned
    refine ⟨next, ?_, works.changes⟩
    simp only [step, ran, bind, Except.bind]
    rfl
  | accept accepted => exact ⟨_, rfl, (accept_works loop accepted).changes⟩

/-- The loop starts with the sockets divided: only the interceptor has one. -/
theorem new_owned (config : AppConfig regex) (interface : stack.Interface) :
    Owned (new config interface) := by
  have kinds := StackApi.kinds_add (∅ : stack.Sockets) (.udp stack.dnsSocket)
  refine ⟨fun handle member => ?_, fun handle member => ?_, ?_, ?_, ?_⟩
  · exact absurd member (Finset.notMem_empty handle)
  · exact absurd member (Finset.notMem_empty handle)
  · intro handle member
    rw [Finset.mem_singleton] at member
    rw [member]
    exact (kinds _).trans (if_pos rfl)
  · exact Finset.disjoint_empty_left _
  · intro handle present
    refine Or.inr (Or.inr (Finset.mem_singleton.mpr ?_))
    by_contra other
    apply present
    exact (kinds handle).trans (if_neg other)

/-- A run does not panic and keeps the division. -/
theorem run_owned (config : AppConfig regex) (interface : stack.Interface) (events : List Event) :
    ∃ loop, (new config interface).run events = .ok loop ∧ Owned loop := by
  have step : ∀ event ∈ events, ∀ loop : EventLoop stack regex, Owned loop →
      ∃ next, loop.step event = .ok next ∧ Owned next := by
    intro event _ loop owned
    obtain ⟨next, ran, changes⟩ := step_changes loop event owned
    exact ⟨next, ran, changes.owned owned⟩
  exact foldlM_all Owned step (new config interface) (new_owned config interface)

/-! ## Ownership in every reachable state -/

/-- Every live handle belongs to exactly one component and holds a socket of its type. -/
structure HandleOwnership (loop : EventLoop stack regex) : Prop where
  /-- No handle is outbound and published. -/
  outbound_published : Disjoint loop.outbound.states.keys loop.published.states.keys
  /-- The interceptor's handle is not outbound. -/
  outbound_dns : Disjoint loop.outbound.states.keys {loop.dns.handle}
  /-- The interceptor's handle is not published. -/
  published_dns : Disjoint loop.published.states.keys {loop.dns.handle}
  /-- The live handles are those of the components. -/
  live : loop.sockets.keys =
    loop.outbound.states.keys ∪ loop.published.states.keys ∪ {loop.dns.handle}
  /-- Outbound handles hold TCP sockets. -/
  outbound_tcp : ∀ handle ∈ loop.outbound.states.keys,
    ∃ socket, loop.sockets.lookup handle = some (.tcp socket)
  /-- Published handles hold TCP sockets. -/
  published_tcp : ∀ handle ∈ loop.published.states.keys,
    ∃ socket, loop.sockets.lookup handle = some (.tcp socket)
  /-- The interceptor's handle holds a UDP socket. -/
  dns_udp : ∃ socket, loop.sockets.lookup loop.dns.handle = some (.udp socket)

/-- A handle is live when a type is known for it. -/
theorem mem_keys_iff_kinds (sockets : stack.Sockets) (handle : SocketHandle) :
    handle ∈ sockets.keys ↔ StackApi.kinds sockets handle ≠ none := by
  rw [HashMap.mem_keys_iff, StackApi.kinds, Ne, Option.map_eq_none_iff, ← Ne,
    Option.ne_none_iff_exists']

/-- A TCP socket is under a handle of that type. -/
theorem lookup_tcp {sockets : stack.Sockets} {handle : SocketHandle}
    (typed : StackApi.kinds sockets handle = some .tcp) :
    ∃ socket, sockets.lookup handle = some (.tcp socket) := by
  obtain ⟨found, read, kind⟩ := Option.map_eq_some_iff.mp typed
  cases found with
  | tcp socket => exact ⟨socket, read⟩
  | udp socket => contradiction

/-- A UDP socket is under a handle of that type. -/
theorem lookup_udp {sockets : stack.Sockets} {handle : SocketHandle}
    (typed : StackApi.kinds sockets handle = some .udp) :
    ∃ socket, sockets.lookup handle = some (.udp socket) := by
  obtain ⟨found, read, kind⟩ := Option.map_eq_some_iff.mp typed
  cases found with
  | tcp socket => contradiction
  | udp socket => exact ⟨socket, read⟩

/-- A divided socket set is owned. -/
theorem Owned.ownership {loop : EventLoop stack regex} (owned : Owned loop) :
    HandleOwnership loop where
  outbound_published := owned.apart
  outbound_dns := Divided.disjoint_of_kinds owned.outboundHeld owned.dnsHeld
  published_dns := Divided.disjoint_of_kinds owned.publishedHeld owned.dnsHeld
  live := by
    ext handle
    rw [mem_keys_iff_kinds, Finset.mem_union, Finset.mem_union, or_assoc]
    constructor
    · exact owned.covered handle
    · rintro (ours | theirs | last)
      · rw [owned.outboundHeld handle ours]
        exact Option.some_ne_none _
      · rw [owned.publishedHeld handle theirs]
        exact Option.some_ne_none _
      · rw [owned.dnsHeld handle last]
        exact Option.some_ne_none _
  outbound_tcp handle member := lookup_tcp (owned.outboundHeld handle member)
  published_tcp handle member := lookup_tcp (owned.publishedHeld handle member)
  dns_udp := lookup_udp (owned.dnsHeld _ (Finset.mem_singleton_self _))

/-- Whatever packets, task results, socket states, times, iteration orders and host
connections the loop meets, a run of ticks and polls never panics, and after it every live
handle belongs to exactly one component. -/
theorem socket_handle_ownership (config : AppConfig regex) (interface : stack.Interface)
    (events : List Event) :
    ∃ loop, (new config interface).run events = .ok loop ∧ HandleOwnership loop := by
  obtain ⟨loop, ran, owned⟩ := run_owned config interface events
  exact ⟨loop, ran, owned.ownership⟩

/-- A tick that reads packets, at time zero. -/
def tickOn (packets : List (List UInt8)) : TickInput :=
  ⟨packets, fun _ => 0, fun _ => 0, [], 0, ⟨fun _ => 0, ascending, ascending, ascending⟩,
    ⟨fun _ => 0, ascending, ascending⟩, 0, ascending, ascending⟩

/-- After an accepted connection and a tick on a quiet stack, the interceptor has the first
handle and the connection the second. -/
theorem socket_handle_ownership_accepted :
    let config : AppConfig RuleMatcher.literalRegex :=
      { defaultProxy := .direct, rules := ⟨none, [], .empty⟩, specs := [], accepted := rfl }
    let accepted : Published.AcceptedConnection :=
      ⟨⟨[], [], []⟩, ⟨.new 127 0 0 1, 40000⟩, ⟨.unspecified, 8080, 80⟩⟩
    let input : TickInput := ⟨[], fun _ => 0, fun _ => 0, [], 0,
      ⟨fun _ => 0, ascending, ascending, ascending⟩, ⟨fun _ => 0, ascending, ascending⟩, 0,
      ascending, ascending⟩
    ∃ loop : EventLoop quietStack RuleMatcher.literalRegex,
      (new config ()).run [.accept accepted, .tick input] = .ok loop ∧
        loop.sockets.keys = {0, 1} ∧ loop.dns.handle = 0 ∧ HandleOwnership loop := by
  intro config accepted input
  obtain ⟨loop, ran, owned⟩ := @socket_handle_ownership quietStack _ config ()
    [.accept accepted, .tick input]
  have seen : ((new config () : EventLoop quietStack RuleMatcher.literalRegex).run
      [.accept accepted, .tick input]).toOption.map (fun loop =>
        (loop.sockets.keys, loop.dns.handle)) = some ({0, 1}, 0) := by decide +kernel
  rw [ran] at seen
  simp only [Except.toOption, Option.map_some, Option.some.injEq, Prod.mk.injEq] at seen
  exact ⟨loop, ran, seen.1, seen.2, owned⟩

end EventLoop

end NsProxy
