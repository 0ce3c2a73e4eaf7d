import NsProxy.EventLoop.ConnectTasks
import NsProxy.EventLoop.Interception
import NsProxy.EventLoop.Ownership

/-!
# Where the upstream connects go

The parts of the program meet in one question: to which destination, and over which route, is
the connect of an application's connection made? The application resolves a name, the
interceptor gives it a pool address, the application connects to that address, and the loop
turns the address back into the name and asks the rules for a route. Over every run of the
event loop, each spawned connect goes to the name that holds the address among the names that
were asked for so far, or to the address itself when no name holds it, over the route that the
rules of the command line give to that destination.
-/

namespace NsProxy.EventLoop

open Smoltcp Outbound

/-! ## The datagrams that the interceptor receives -/

namespace DnsInterceptor

/-- The datagrams that one call of `process` receives, in order. -/
def received (udp : UdpApi) (dns : DnsInterceptor) (socket : udp.Socket) : List Datagram :=
  if _ : udp.canRecv socket = true then
    match (udp.recvSlice socket dnsBufSize).1 with
    | none => []
    | some datagram =>
      datagram :: received udp (dns.answer datagram.payload).1
        (respond udp (udp.recvSlice socket dnsBufSize).2 datagram.endpoint
          (dns.answer datagram.payload).2)
  else []
termination_by (udp.rx socket).length
decreasing_by
  rw [respond_rx]
  exact recvSlice_shortens udp socket dnsBufSize ‹_›

/-- The interceptor after a call is the one that answered the received datagrams. -/
theorem process_eq_received (udp : UdpApi) (dns : DnsInterceptor) (socket : udp.Socket) :
    (process udp dns socket).1 = (dns.answerAll (dns.received udp socket)).1 := by
  fun_induction process udp dns socket with
  | case1 dns socket ready failed =>
    rw [received, dif_pos ready]
    simp only [failed]
    rfl
  | case2 dns socket ready datagram got ih =>
    rw [received, dif_pos ready]
    simp only [got, answerAll]
    exact ih
  | case3 dns socket idle =>
    rw [received, dif_neg idle]
    rfl

/-- The names that a list of datagrams has the pool allocate, oldest first. -/
def allocatedNames (datagrams : List Datagram) : List String :=
  (FakeDns.new.allocations (datagrams.filterMap askedDomain)).map Prod.fst

/-- An interceptor that answered datagrams from the start represents their allocations. -/
theorem represents_allocatedNames {dns : DnsInterceptor} {datagrams : List Datagram}
    (answered : dns.fakeDns = FakeDns.new.resolveAll (datagrams.filterMap askedDomain)) :
    FakeDns.Represents dns.fakeDns (allocatedNames datagrams) := by
  have tracks := FakeDns.run_represents FakeDns.represents_new (datagrams.filterMap askedDomain)
  rw [answered]
  simpa [allocatedNames] using tracks.1

end DnsInterceptor

/-! ## Destinations and routes -/

/-- What an endpoint of the namespace stands for, when these names were allocated: the name
that holds its address, or the address itself when no name does. -/
inductive Destination (names : List String) (endpoint : Endpoint) : ProxyTarget → Prop
  /-- The address is that of a live allocation. -/
  | name {index : Nat} {domain : String} (address : endpoint.addr = FakeDns.poolAddr index)
    (holds : Ring.Holds FakeDns.capacity names index domain) :
    Destination names endpoint (.domain domain endpoint.port)
  /-- No live allocation has the address. -/
  | address (unheld : ∀ index domain, Ring.Holds FakeDns.capacity names index domain →
      endpoint.addr ≠ FakeDns.poolAddr index) :
    Destination names endpoint (.ip (.v4 endpoint.addr) endpoint.port)

/-- `target_for` gives the destination. -/
theorem targetFor_destination {dns : DnsInterceptor} {names : List String}
    (represents : FakeDns.Represents dns.fakeDns names) (endpoint : Endpoint) :
    Destination names endpoint (dns.targetFor endpoint.addr endpoint.port) := by
  by_cases held : ∃ index domain, Ring.Holds FakeDns.capacity names index domain ∧
      endpoint.addr = FakeDns.poolAddr index
  · obtain ⟨index, domain, holds, address⟩ := held
    rw [address, DnsInterceptor.targetFor_live represents holds]
    exact .name address holds
  · have missing : dns.fakeDns.lookup endpoint.addr = none := by
      rw [FakeDns.lookup, Option.eq_none_iff_forall_ne_some]
      intro domain found
      obtain ⟨index, holds, address⟩ := (represents.backward _ _).mp found
      exact held ⟨index, domain, holds, address⟩
    have plain : dns.targetFor endpoint.addr endpoint.port =
        .ip (.v4 endpoint.addr) endpoint.port := by
      unfold DnsInterceptor.targetFor
      rw [missing]
      split <;> rfl
    rw [plain]
    apply Destination.address
    intro index domain holds address
    exact held ⟨index, domain, holds, address⟩

/-- The route that the command line gives to a destination: the first domain rule that matches
a name, the longest prefix that agrees with an address, and else the default. -/
inductive Routed {regex : RegexApi} (config : AppConfig regex) : ProxyTarget → ProxyConfig → Prop
  /-- A name goes by the first rule that matches it. -/
  | name (domain : String) (port : UInt16) :
    Routed config (.domain domain port)
      ((config.specs.findSome? (RuleMatcher.domainRoute regex domain)).getD config.defaultProxy)
  /-- An address goes by the rule with the longest prefix. -/
  | rule {addr : Ipv4Addr} (port : UInt16) {index : Nat} {rule : PrefixTrie.Rule}
    (wins : PrefixTrie.Wins (config.specs.filterMap (RuleMatcher.ipEntry regex)) addr.bits index
      rule) :
    Routed config (.ip (.v4 addr) port) rule.action.proxy
  /-- An address that no rule agrees with goes by the default. -/
  | default {addr : Ipv4Addr} (port : UInt16)
    (unmatched : ∀ rule ∈ config.specs.filterMap (RuleMatcher.ipEntry regex),
      ¬ rule.Agrees addr.bits) :
    Routed config (.ip (.v4 addr) port) config.defaultProxy

/-- `proxy_for` gives the route of a name or an IPv4 address. -/
theorem proxyFor_routed {regex : RegexApi} {config : AppConfig regex} {names : List String}
    {endpoint : Endpoint} {target : ProxyTarget} (destination : Destination names endpoint target)
    {proxy : ProxyConfig} (routed : config.toConfig.proxyFor target = some proxy) :
    Routed config target proxy := by
  cases destination with
  | @name index domain address holds =>
    have matched := RuleMatcher.matchDomain_eq config.accepted domain
    rw [RuleMatcher.find?_domainEntry] at matched
    simp only [Config.proxyFor, matched, Option.map_some, Option.some.injEq] at routed
    rw [← routed]
    exact .name domain endpoint.port
  | address unheld =>
    simp only [Config.proxyFor, RuleMatcher.matchIp, RuleMatcher.cidr_eq config.accepted,
      Option.map_some, Option.some.injEq] at routed
    rw [← routed]
    cases found : PrefixTrie.get (PrefixTrie.insertAll
        (config.specs.filterMap (RuleMatcher.ipEntry regex))) endpoint.addr.bits with
    | none => exact .default endpoint.port ((PrefixTrie.get_eq_none_iff _ _).mp found)
    | some action =>
      obtain ⟨index, rule, wins, same⟩ := PrefixTrie.wins_of_get found
      rw [← same]
      exact .rule endpoint.port wins

/-! ## What the loop hears -/

variable {stack : StackApi} {regex : RegexApi}

/-- The datagrams that the interceptor receives during a step. -/
def heardIn (loop : EventLoop stack regex) : Event → Run (List Datagram)
  | .tick input => do
    let observed ← loop.observe input
    let polled := observed.pollInterface input.firstPoll
    let socket ← StackApi.getUdp polled.sockets polled.dns.handle
    return polled.dns.received stack.udp socket
  | .poll _ _ => return []
  | .accept _ => return []

/-- The datagrams that the interceptor receives during a run. -/
def heard (loop : EventLoop stack regex) : List Event → Run (List Datagram)
  | [] => return []
  | event :: rest => do
    let first ← heardIn loop event
    let next ← loop.step event
    let later ← heard next rest
    return first ++ later

/-- Work of the loop keeps the configuration. -/
theorem Works.config {before after : EventLoop stack regex} (works : Works before after) :
    after.config = before.config := by
  induction works with
  | refl => rfl
  | tail _ work same =>
    rw [← same]
    cases work <;> rfl

/-- The parts of a tick, each with the work that it is. -/
theorem tick_parts (loop : EventLoop stack regex) (input : TickInput) (owned : Owned loop) :
    ∃ observed served last, loop.observe input = .ok observed ∧ Works loop observed ∧
      Owned (observed.pollInterface input.firstPoll) ∧
      (observed.pollInterface input.firstPoll).serve input = .ok served ∧
      Works (observed.pollInterface input.firstPoll) served ∧
      Owned (served.pollInterface input.secondPoll) ∧
      (served.pollInterface input.secondPoll).cleanup input = .ok last ∧
      Works (served.pollInterface input.secondPoll) last ∧ loop.tick input = .ok last := by
  obtain ⟨observed, ranObserve, one⟩ := observe_works loop input
  have two := Changes.owned (one.changes.trans (pollInterface_changes observed input.firstPoll))
    owned
  obtain ⟨served, ranServe, three⟩ := serve_works _ input two
  have four := Changes.owned
    (three.changes.trans (pollInterface_changes served input.secondPoll)) two
  obtain ⟨last, ranCleanup, five⟩ := cleanup_works _ input four
  refine ⟨observed, served, last, ranObserve, one, two, ranServe, three, four, ranCleanup, five, ?_⟩
  unfold tick
  simp only [ranObserve, ranServe, bind, Except.bind]
  exact ranCleanup

/-- `observe_syns` and `attach_accepted` leave the interceptor and the tasks alone. -/
theorem observe_frame {loop next : EventLoop stack regex} {input : TickInput}
    (ran : loop.observe input = .ok next) :
    next.dns = loop.dns ∧ next.outbound.taskLog = loop.outbound.taskLog := by
  obtain ⟨⟨outbound, sockets⟩, observed, listens⟩ := OutboundTcp.observeSyns_listens
    input.synClock (loop.rxQueue ++ input.packets) (loop.outbound, loop.sockets)
  have silent : outbound.taskLog = loop.outbound.taskLog := by
    clear observed
    generalize reached : (outbound, sockets) = after at listens
    have same : after.1.taskLog = loop.outbound.taskLog := by
      clear reached
      induction listens with
      | refl => rfl
      | tail _ listens same =>
        cases listens
        exact same
    rw [← reached] at same
    exact same
  unfold observe at ran
  simp only [observed, bind, Except.bind] at ran
  have same := Except.ok.inj ran
  rw [← same]
  exact ⟨rfl, silent⟩

/-- A task stays aimed when the interceptor has used its own socket. -/
theorem aimed_of_answered {config : AppConfig regex} {dns : DnsInterceptor}
    {sockets : stack.Sockets} {probe handle : SocketHandle} {socket : stack.udp.Socket}
    {task : ConnectTask}
    (aimed : OutboundTcp.Aimed config dns (StackApi.set sockets probe (.udp socket)) handle task) :
    OutboundTcp.Aimed config dns sockets handle task := by
  obtain ⟨found, endpoint, got, rest⟩ := aimed
  have different : handle ≠ probe := by
    rintro rfl
    have kind := StackApi.kinds_of_getTcp got
    simp [StackApi.kinds, StackApi.set, AnySocket.kind] at kind
  refine ⟨found, endpoint, ?_, rest⟩
  unfold StackApi.getTcp at got ⊢
  rw [StackApi.set, HashMap.lookup_insert_if, if_neg different] at got
  exact got

/-- Between the polls the interceptor answers what it receives, and each connect that is
spawned is aimed by the interceptor after that. -/
theorem serve_spawns {loop next : EventLoop stack regex} {input : TickInput} (owned : Owned loop)
    (ran : loop.serve input = .ok next) :
    ∃ socket news, StackApi.getUdp loop.sockets loop.dns.handle = .ok socket ∧
      next.dns = (loop.dns.answerAll (loop.dns.received stack.udp socket)).1 ∧
      next.outbound.taskLog = loop.outbound.taskLog ++ news ∧
      ∀ handle task, .spawned handle task ∈ news →
        OutboundTcp.Aimed loop.config next.dns loop.sockets handle task := by
  have typed := owned.dnsHeld loop.dns.handle (Finset.mem_singleton_self _)
  obtain ⟨socket, got⟩ := StackApi.getUdp_ok typed
  have touched : StackApi.Touches loop.dns.handle loop.sockets
      (StackApi.set loop.sockets loop.dns.handle (.udp (loop.dns.process stack.udp socket).2)) :=
    StackApi.touches_set typed
  have kept : Owned { loop with
      dns := (loop.dns.process stack.udp socket).1
      sockets := StackApi.set loop.sockets loop.dns.handle
        (.udp (loop.dns.process stack.udp socket).2) } :=
    (Work.answered (process_handle stack.udp loop.dns socket) touched).change.owned owned
  obtain ⟨⟨outbound, relayed⟩, ranOutbound, acts⟩ := OutboundTcp.process_acts loop.config
    (loop.dns.process stack.udp socket).1 input.outbound
    (loop.outbound, StackApi.set loop.sockets loop.dns.handle
      (.udp (loop.dns.process stack.udp socket).2)) kept.outboundHeld
  obtain ⟨news, log, aimed⟩ := OutboundTcp.Acts.spawns acts
  unfold serve DnsInterceptor.processSet at ran
  simp only [got, bind, Except.bind, pure, Except.pure] at ran
  rw [ranOutbound] at ran
  obtain ⟨⟨published, sockets⟩, -, ran⟩ := Error.bind_eq_ok.mp ran
  have same := Except.ok.inj ran
  rw [← same]
  refine ⟨socket, news, got, DnsInterceptor.process_eq_received _ _ _, log, ?_⟩
  intro handle task spawned
  obtain ⟨-, interceptor, asked, aimed⟩ := aimed handle task spawned
  rw [Option.some.inj asked]
  exact aimed_of_answered aimed

/-- A part of the loop that answers no datagram and spawns no connect. -/
structure Silent (loop next : EventLoop stack regex) : Prop where
  /-- The interceptor is the same. -/
  dns : next.dns = loop.dns
  /-- No connect is spawned. -/
  spawns : ∃ news, next.outbound.taskLog = loop.outbound.taskLog ++ news ∧
    ∀ handle task, .spawned handle task ∉ news

/-- Without an interceptor to ask, no act spawns a connect. -/
theorem acts_silent {config : AppConfig regex} {before after : OutboundTcp × stack.Sockets}
    (acts : OutboundTcp.Acts config none before after) :
    ∃ news, after.1.taskLog = before.1.taskLog ++ news ∧
      ∀ handle task, .spawned handle task ∉ news := by
  obtain ⟨news, log, known⟩ := OutboundTcp.Acts.spawns acts
  refine ⟨news, log, ?_⟩
  intro handle task spawned
  obtain ⟨-, interceptor, asked, -⟩ := known handle task spawned
  contradiction

/-- The cleanup answers no datagram and spawns no connect. -/
theorem cleanup_silent {loop next : EventLoop stack regex} {input : TickInput}
    (owned : Owned loop) (ran : loop.cleanup input = .ok next) : Silent loop next := by
  obtain ⟨⟨outbound, kept⟩, ranOutbound, acts⟩ := OutboundTcp.cleanup_acts
    loop.config input.outboundCleanup (loop.outbound, loop.sockets) owned.outboundHeld
  unfold cleanup at ran
  simp only [ranOutbound, bind, Except.bind] at ran
  obtain ⟨⟨published, sockets⟩, -, ran⟩ := Error.bind_eq_ok.mp ran
  have same := Except.ok.inj ran
  rw [← same]
  exact ⟨rfl, acts_silent acts⟩

/-- The poll for readiness answers no datagram and spawns no connect. -/
theorem pollReady_silent {loop next : EventLoop stack regex} {outbound : OutboundTcp.PollInput}
    {published : PublishedTcp.PollInput} {ready : Bool} (owned : Owned loop)
    (ran : loop.pollReady outbound published = .ok (ready, next)) : Silent loop next := by
  obtain ⟨outboundReady, ⟨outboundNext, sockets⟩, ranOutbound, acts⟩ :=
    OutboundTcp.pollReady_acts loop.config outbound (loop.outbound, loop.sockets)
      owned.outboundHeld
  unfold pollReady at ran
  simp only [ranOutbound, bind, Except.bind] at ran
  obtain ⟨⟨publishedReady, publishedNext, after⟩, -, ran⟩ := Error.bind_eq_ok.mp ran
  have same := Except.ok.inj ran
  rw [Prod.mk.injEq] at same
  rw [← same.2]
  exact ⟨rfl, acts_silent acts⟩

/-- During a step, the socket under a handle has a local endpoint when the loop serves it. -/
def ServedAt (loop : EventLoop stack regex) (event : Event) (handle : SocketHandle)
    (endpoint : Endpoint) : Prop :=
  ∃ input observed socket, event = .tick input ∧ loop.observe input = .ok observed ∧
    StackApi.getTcp (observed.pollInterface input.firstPoll).sockets handle = .ok socket ∧
    stack.tcp.localEndpoint socket = some endpoint

/-- What a step adds to the datagrams that were answered and the connects that were spawned. -/
structure StepSpawns (loop : EventLoop stack regex) (event : Event)
    (next : EventLoop stack regex) (datagrams : List Datagram) (news : List TaskEvent) :
    Prop where
  /-- The configuration stays. -/
  config : next.config = loop.config
  /-- These datagrams are received. -/
  heard : heardIn loop event = .ok datagrams
  /-- They are answered. -/
  dns : next.dns = (loop.dns.answerAll datagrams).1
  /-- These are the news of the tasks. -/
  log : next.outbound.taskLog = loop.outbound.taskLog ++ news
  /-- Each spawned connect is that of a served endpoint. -/
  aimed : ∀ handle task, .spawned handle task ∈ news → ∃ endpoint,
    ServedAt loop event handle endpoint ∧
      task.target = next.dns.targetFor endpoint.addr endpoint.port ∧
      loop.config.toConfig.proxyFor task.target = some task.proxy

/-- A silent step that hears no datagram adds no answers and no connects. -/
theorem Silent.stepSpawns {loop next : EventLoop stack regex} {event : Event}
    (silent : Silent loop next) (config : next.config = loop.config)
    (unheard : heardIn loop event = .ok []) : ∃ news, StepSpawns loop event next [] news := by
  obtain ⟨news, log, none⟩ := silent.spawns
  refine ⟨news, config, unheard, silent.dns, log, ?_⟩
  intro handle task spawned
  exact absurd spawned (none handle task)

/-- A tick answers what it receives and aims what it spawns. -/
theorem tick_spawns (loop : EventLoop stack regex) (input : TickInput) (owned : Owned loop) :
    ∃ next datagrams news, loop.tick input = .ok next ∧
      StepSpawns loop (.tick input) next datagrams news := by
  obtain ⟨observed, served, last, ranObserve, first, ownedFirst, ranServe, second, ownedSecond,
    ranCleanup, third, ran⟩ := tick_parts loop input owned
  have quiet := observe_frame ranObserve
  obtain ⟨socket, news, got, answered, log, aimed⟩ := serve_spawns ownedFirst ranServe
  have after := cleanup_silent ownedSecond ranCleanup
  obtain ⟨more, logged, none⟩ := after.spawns
  refine ⟨last, (observed.pollInterface input.firstPoll).dns.received stack.udp socket,
    news ++ more, ran, ?_, ?_, ?_, ?_, ?_⟩
  · rw [third.config]
    show served.config = _
    rw [second.config]
    exact first.config
  · simp only [heardIn, ranObserve, got, bind, Except.bind]
    rfl
  · rw [after.dns]
    show served.dns = _
    rw [answered]
    show ((observed.dns).answerAll _).1 = _
    rw [quiet.1]
  · rw [logged]
    show served.outbound.taskLog ++ more = _
    rw [log]
    show observed.outbound.taskLog ++ news ++ more = _
    rw [quiet.2, List.append_assoc]
  · intro handle task spawned
    rcases List.mem_append.mp spawned with early | late
    · obtain ⟨found, endpoint, under, bound, target, routed⟩ := aimed handle task early
      have configured : (observed.pollInterface input.firstPoll).config = loop.config :=
        first.config
      rw [configured] at routed
      refine ⟨endpoint, ⟨input, observed, found, rfl, ranObserve, under, bound⟩, ?_, routed⟩
      rw [after.dns]
      exact target
    · exact absurd late (none handle task)

/-- Every step answers what it receives and aims what it spawns. -/
theorem step_spawns (loop : EventLoop stack regex) (event : Event) (owned : Owned loop) :
    ∃ next datagrams news, loop.step event = .ok next ∧ Owned next ∧
      StepSpawns loop event next datagrams news := by
  obtain ⟨next, ran, changes⟩ := step_changes loop event owned
  have kept : Owned next := Changes.owned changes owned
  cases event with
  | tick input =>
    obtain ⟨last, datagrams, news, ticked, spawns⟩ := tick_spawns loop input owned
    have same : last = next := Except.ok.inj (ticked.symm.trans ran)
    rw [same] at spawns
    exact ⟨next, datagrams, news, ran, kept, spawns⟩
  | poll outbound published =>
    obtain ⟨ready, last, polled, works⟩ := pollReady_works loop outbound published owned
    have stepped : loop.step (.poll outbound published) = .ok last := by
      simp only [step, polled, bind, Except.bind]
      rfl
    have same : last = next := Except.ok.inj (stepped.symm.trans ran)
    rw [same] at polled works
    have unheard : heardIn loop (.poll outbound published) = .ok [] := rfl
    obtain ⟨news, spawns⟩ := (pollReady_silent owned polled).stepSpawns works.config unheard
    exact ⟨next, [], news, ran, kept, spawns⟩
  | accept accepted =>
    have same := Except.ok.inj ran
    have silent : Silent loop next := by
      rw [← same]
      exact ⟨rfl, [], (List.append_nil _).symm, fun _ _ => List.not_mem_nil⟩
    have config : next.config = loop.config := by rw [← same]
    have unheard : heardIn loop (.accept accepted) = .ok [] := rfl
    obtain ⟨news, spawns⟩ := silent.stepSpawns config unheard
    exact ⟨next, [], news, ran, kept, spawns⟩

/-- A connect that is spawned in a run, at the step that spawns it: the datagrams heard up to
then, and the endpoint that the step serves. -/
structure SpawnedIn (start : EventLoop stack regex) (events : List Event) (handle : SocketHandle)
    (task : ConnectTask) (datagrams : List Datagram) (endpoint : Endpoint) : Prop where
  /-- The run splits at a step that serves the endpoint, with the datagrams heard so far. -/
  split : ∃ earlier event later before, events = earlier ++ event :: later ∧
    start.run earlier = .ok before ∧ ServedAt before event handle endpoint ∧
    heard start (earlier ++ [event]) = .ok datagrams
  /-- The connect goes to the target of the endpoint after these datagrams. -/
  target : task.target =
    (start.dns.answerAll datagrams).1.targetFor endpoint.addr endpoint.port
  /-- Its route is that of the target. -/
  routed : start.config.toConfig.proxyFor task.target = some task.proxy

/-- A connect spawned after the first step, seen from the start. -/
theorem SpawnedIn.later {start next : EventLoop stack regex} {event : Event}
    {first datagrams : List Datagram} {news : List TaskEvent} {rest : List Event}
    {handle : SocketHandle} {task : ConnectTask} {endpoint : Endpoint}
    (stepped : start.step event = .ok next) (spawns : StepSpawns start event next first news)
    (spawned : SpawnedIn next rest handle task datagrams endpoint) :
    SpawnedIn start (event :: rest) handle task (first ++ datagrams) endpoint := by
  obtain ⟨earlier, spawning, later, before, parts, ran, served, hears⟩ := spawned.split
  refine ⟨⟨event :: earlier, spawning, later, before, ?_, ?_, served, ?_⟩, ?_, ?_⟩
  · rw [parts, List.cons_append]
  · rw [run, List.foldlM_cons, stepped]
    exact ran
  · simp only [List.cons_append, heard, spawns.heard, stepped, hears, bind, Except.bind]
    rfl
  · rw [DnsInterceptor.answerAll_append]
    show _ = ((start.dns.answerAll first).1.answerAll datagrams).1.targetFor _ _
    rw [← spawns.dns]
    exact spawned.target
  · rw [← spawns.config]
    exact spawned.routed

/-- Every connect that a run spawns is aimed at the step that spawns it. -/
theorem run_spawns (events : List Event) (start : EventLoop stack regex) (owned : Owned start) :
    ∃ last news, start.run events = .ok last ∧
      last.outbound.taskLog = start.outbound.taskLog ++ news ∧
      ∀ handle task, .spawned handle task ∈ news →
        ∃ datagrams endpoint, SpawnedIn start events handle task datagrams endpoint := by
  induction events generalizing start with
  | nil =>
    refine ⟨start, [], rfl, (List.append_nil _).symm, ?_⟩
    intro handle task spawned
    exact absurd spawned List.not_mem_nil
  | cons event rest ih =>
    obtain ⟨next, first, news, stepped, kept, spawns⟩ := step_spawns start event owned
    obtain ⟨last, more, ran, log, known⟩ := ih next kept
    refine ⟨last, news ++ more, ?_, ?_, ?_⟩
    · rw [run, List.foldlM_cons, stepped]
      exact ran
    · rw [log, spawns.log, List.append_assoc]
    · intro handle task spawned
      rcases List.mem_append.mp spawned with now | later
      · obtain ⟨endpoint, served, target, routed⟩ := spawns.aimed handle task now
        refine ⟨first, endpoint, ⟨[], event, rest, start, rfl, rfl, served, ?_⟩, ?_, routed⟩
        · simp only [List.nil_append, heard, spawns.heard, stepped, bind, Except.bind, pure,
            Except.pure, List.append_nil]
        · rw [← spawns.dns]
          exact target
      · obtain ⟨datagrams, endpoint, spawned⟩ := known handle task later
        exact ⟨first ++ datagrams, endpoint, spawned.later stepped spawns⟩

/-- In every run of the event loop, every upstream connect goes to what its endpoint stands for
by the names that the namespace had asked for when it was spawned, over the route that the
rules give to that destination. -/
theorem connects_follow_queries (config : AppConfig regex) (interface : stack.Interface)
    (events : List Event) :
    ∃ loop, (new config interface).run events = .ok loop ∧
      ∀ handle task, .spawned handle task ∈ loop.outbound.taskLog →
        ∃ earlier event later before datagrams endpoint,
          events = earlier ++ event :: later ∧
          (new config interface).run earlier = .ok before ∧
          ServedAt before event handle endpoint ∧
          heard (new config interface) (earlier ++ [event]) = .ok datagrams ∧
          Destination (DnsInterceptor.allocatedNames datagrams) endpoint task.target ∧
          Routed config task.target task.proxy := by
  obtain ⟨last, news, ran, log, known⟩ := run_spawns events (new config interface)
    (new_owned config interface)
  refine ⟨last, ran, ?_⟩
  intro handle task spawned
  rw [log] at spawned
  obtain ⟨datagrams, endpoint, spawned⟩ := known handle task spawned
  obtain ⟨earlier, event, later, before, parts, reached, served, hears⟩ := spawned.split
  have answered : ((new config interface).dns.answerAll datagrams).1.fakeDns =
      FakeDns.new.resolveAll (datagrams.filterMap DnsInterceptor.askedDomain) :=
    DnsInterceptor.answerAll_fakeDns _ _
  have destination := targetFor_destination
    (DnsInterceptor.represents_allocatedNames answered) endpoint
  rw [← spawned.target] at destination
  exact ⟨earlier, event, later, before, datagrams, endpoint, parts, reached, served, hears,
    destination, proxyFor_routed destination spawned.routed⟩

/-! ## On the small stack -/

/-- A packet of the small stack, with datagrams: these go to the socket of the interceptor. -/
def receivePacket (sockets : SocketSet segmentTcp (queueUdp 16)) (packet : List UInt8) :
    SocketSet segmentTcp (queueUdp 16) :=
  if Tun.protocol packet = 17 then
    match sockets.lookup 0 with
    | some (.udp (waiting, sent)) => sockets.insert 0 (.udp (waiting ++
        [⟨packet.drop 28, ⟨Tun.addressField packet 12, Tun.portField packet 20⟩⟩], sent))
    | _ => sockets
  else receiveSegment sockets packet

/-- Sockets stay under their handles. -/
theorem receivePacket_kind (sockets : SocketSet segmentTcp (queueUdp 16)) (packet : List UInt8)
    (handle : SocketHandle) :
    ((receivePacket sockets packet).lookup handle).map AnySocket.kind =
      (sockets.lookup handle).map AnySocket.kind := by
  unfold receivePacket
  split
  · split
    · rename_i waiting sent found
      rw [HashMap.lookup_insert_if]
      split
      · rename_i same
        rw [same, found]
        rfl
      · rfl
    · rfl
  · exact receiveSegment_kind sockets packet handle

/-- The small stack with datagrams. -/
def datagramStack : StackApi where
  tcp := segmentTcp
  udp := queueUdp 16
  dnsSocket := ([], [])
  Interface := Unit
  connect := segmentStack.connect
  freeHandle := lowestFree
  freeHandle_fresh := lowestFree_notMem
  poll _ interface packets sockets := (interface, [], packets.foldl receivePacket sockets)
  poll_kind _ _ packets sockets handle := by
    induction packets generalizing sockets with
    | nil => rfl
    | cons packet rest ih =>
      rw [List.foldl_cons, ih]
      exact receivePacket_kind sockets packet handle

/-- A rule for one name. -/
def nameSpecs : List String := ["domain:a=socks5://127.0.0.1:1080"]

/-- The rules that are made of it. -/
def nameRules : RuleMatcher RuleMatcher.literalRegex :=
  match RuleMatcher.fromSpecs RuleMatcher.literalRegex nameSpecs with
  | .ok rules => rules
  | .error _ => ⟨none, [], .empty⟩

/-- The rule is accepted. -/
theorem nameRules_accepted :
    RuleMatcher.fromSpecs RuleMatcher.literalRegex nameSpecs = .ok nameRules := by
  have made :
      (RuleMatcher.fromSpecs RuleMatcher.literalRegex nameSpecs).toOption.isSome = true := by
    decide +kernel
  unfold nameRules
  split
  · assumption
  · rename_i refused
    rw [refused] at made
    contradiction

/-- Everything but the name goes out directly. -/
def nameConfig : AppConfig RuleMatcher.literalRegex where
  defaultProxy := .direct
  rules := nameRules
  specs := nameSpecs
  accepted := nameRules_accepted

/-- A query for the address of `a`, from the namespace to the gateway. -/
def queryPacket : List UInt8 :=
  [0x45, 0, 0, 47, 0, 0, 0, 0, 64, 17, 0, 0, 172, 23, 255, 255, 172, 23, 255, 254,
    0x9c, 0x41, 0, 53, 0, 27, 0, 0] ++
    [0, 7, 1, 0, 0, 1, 0, 0, 0, 0, 0, 0, 1, 97, 0, 0, 1, 0, 1]

/-- A packet to the port 80 of the address that answers the query, with some flags. -/
def namePacket (flags : UInt8) : List UInt8 :=
  [0x45, 0, 0, 40, 0, 0, 0, 0, 64, 6, 0, 0, 172, 23, 255, 255, 198, 18, 0, 1,
    0x9c, 0x40, 0, 80, 0, 0, 0, 1, 0, 0, 0, 0, 0x50, flags, 0xff, 0xff, 0, 0, 0, 0]

/-- The name is asked for, and then its address is connected to. -/
def nameEvents : List Event :=
  [.tick (tickOn [queryPacket]), .tick (tickOn [namePacket 0x02, namePacket 0x10])]

/-- The connects of a history. -/
def connectsIn (log : List TaskEvent) : List (SocketHandle × ProxyTarget × ProxyConfig) :=
  log.filterMap fun event =>
    match event with
    | .spawned handle task => some (handle, task.target, task.proxy)
    | _ => none

/-- A connect is found with its task. -/
theorem mem_connectsIn {log : List TaskEvent} {handle : SocketHandle} {target : ProxyTarget}
    {proxy : ProxyConfig} :
    (handle, target, proxy) ∈ connectsIn log ↔
      ∃ task, .spawned handle task ∈ log ∧ task.target = target ∧ task.proxy = proxy := by
  unfold connectsIn
  rw [List.mem_filterMap]
  constructor
  · rintro ⟨event, member, same⟩
    cases event with
    | spawned other task =>
      obtain ⟨rfl, rfl, rfl⟩ := by simpa using same
      exact ⟨task, member, rfl, rfl⟩
    | polled task result => contradiction
    | aborted task => contradiction
  · rintro ⟨task, member, rfl, rfl⟩
    exact ⟨_, member, rfl⟩

/-- The connect goes to the name that was asked for, by its rule. -/
theorem connects_follow_queries_named :
    ∃ (loop : EventLoop datagramStack RuleMatcher.literalRegex) (task : ConnectTask)
      (datagrams : List Datagram) (endpoint : Endpoint),
      (new nameConfig ()).run nameEvents = .ok loop ∧
      .spawned 1 task ∈ loop.outbound.taskLog ∧
      task.target = .domain "a" 80 ∧ task.proxy = .socks5 "127.0.0.1:1080" none ∧
      Destination (DnsInterceptor.allocatedNames datagrams) endpoint task.target ∧
      Routed nameConfig task.target task.proxy := by
  obtain ⟨loop, ran, followed⟩ :=
    @connects_follow_queries datagramStack _ nameConfig () nameEvents
  have evaluated : (((new nameConfig () : EventLoop datagramStack _).run nameEvents).map fun loop =>
      connectsIn loop.outbound.taskLog).toOption =
      some [(1, .domain "a" 80, .socks5 "127.0.0.1:1080" none)] := by
    decide +kernel
  rw [ran] at evaluated
  have member : (1, .domain "a" 80, .socks5 "127.0.0.1:1080" none) ∈
      connectsIn loop.outbound.taskLog := by
    rw [show connectsIn loop.outbound.taskLog = _ from Option.some.inj evaluated]
    exact List.mem_singleton.mpr rfl
  obtain ⟨task, spawned, target, proxy⟩ := mem_connectsIn.mp member
  obtain ⟨-, -, -, -, datagrams, endpoint, -, -, -, -, destination, routed⟩ :=
    followed 1 task spawned
  exact ⟨loop, task, datagrams, endpoint, ran, spawned, target, proxy, destination, routed⟩

end NsProxy.EventLoop
