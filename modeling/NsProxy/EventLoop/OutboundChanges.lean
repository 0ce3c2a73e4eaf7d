import Mathlib.Logic.Relation
import NsProxy.EventLoop.Outbound

/-!
# What a method of `OutboundTcp` can do

Every method is a sequence of three kinds of change: a listen socket is registered for a new
four-tuple, the state under one handle moves on, or a closing handle is forgotten together
with its socket. `Act` says in full what happens under one handle, with the branch of the
source that is taken and what becomes of the task and the socket; `ChangeAt` is what most
results need of it. Each loop of the source is walked once, here; what holds along runs is
proved from the acts and the changes.
-/

namespace NsProxy.EventLoop

open Smoltcp Tun Outbound

/-- The moves of the state of a connection. -/
inductive Outbound.State.Moves : State → State → Prop
  | start (createdAt : Nat) (task : ConnectTask) : Moves (.listening createdAt) (.connecting task)
  | expire (createdAt : Nat) : Moves (.listening createdAt) .closing
  | wait (task : ConnectTask) : Moves (.connecting task) (.connecting task)
  | connect (task : ConnectTask) (stream : ProxyStream) :
    Moves (.connecting task) (.established ⟨stream, [], .open⟩)
  | abandon (task : ConnectTask) : Moves (.connecting task) .closing
  | relay (context next : ForwardContext) : Moves (.established context) (.established next)
  | finish (context : ForwardContext) : Moves (.established context) .closing

/-- A task that is over without a stream. -/
def Outbound.TaskPoll.IsFailure : TaskPoll → Prop
  | .finished (.error _) => True
  | .panicked _ => True
  | _ => False

namespace OutboundTcp

variable {stack : StackApi} {regex : RegexApi}

/-- A change to the connection under one handle. -/
inductive ChangeAt (handle : SocketHandle) :
    OutboundTcp × stack.Sockets → OutboundTcp × stack.Sockets → Prop
  /-- Its state moves, and its socket may be used. -/
  | advanced {before after : OutboundTcp} {sockets touched : stack.Sockets} {old new : State}
    (found : before.states.lookup handle = some old) (moves : old.Moves new)
    (states : after.states = before.states.insert handle new)
    (endpoints : after.listeningEndpoints = before.listeningEndpoints)
    (registered : after.handleToEndpoint = before.handleToEndpoint)
    (touches : StackApi.Touches handle sockets touched) :
    ChangeAt handle (before, sockets) (after, touched)
  /-- It is closing and is forgotten. -/
  | removed {before : OutboundTcp} {sockets rest : stack.Sockets}
    (found : before.states.lookup handle = some .closing)
    (freed : StackApi.remove sockets handle = .ok rest) :
    ChangeAt handle (before, sockets) (before.forget handle, rest)

/-- The state under one handle is replaced, and the log of tasks goes on. -/
def progress (outbound : OutboundTcp) (handle : SocketHandle) (events : List TaskEvent)
    (state : State) : OutboundTcp :=
  { outbound with
    states := outbound.states.insert handle state
    taskLog := outbound.taskLog ++ events }

/-- What is done under one handle, by the branches of the source. Connects are spawned only
where there is an interceptor to ask for the target. -/
inductive Act (config : AppConfig regex) (dns : Option DnsInterceptor) (handle : SocketHandle) :
    OutboundTcp × stack.Sockets → OutboundTcp × stack.Sockets → Prop
  /-- `update_listeners`: the handshake is over, and the upstream connect is spawned. -/
  | started {outbound : OutboundTcp} {sockets : stack.Sockets} {createdAt : Nat}
    {socket : stack.tcp.Socket} {endpoint : Endpoint} {task : ConnectTask}
    {interceptor : DnsInterceptor} (asked : dns = some interceptor)
    (found : outbound.states.lookup handle = some (.listening createdAt))
    (got : StackApi.getTcp sockets handle = .ok socket)
    (accepted : stack.tcp.state socket = .established ∨ stack.tcp.state socket = .closeWait)
    (bound : stack.tcp.localEndpoint socket = some endpoint)
    (numbered : task.id = outbound.nextTask)
    (aimed : task.target = interceptor.targetFor endpoint.addr endpoint.port)
    (routed : config.toConfig.proxyFor task.target = some task.proxy) :
    Act config dns handle (outbound, sockets)
      ({ outbound.progress handle [.spawned handle task] (.connecting task) with
        nextTask := outbound.nextTask + 1 }, sockets)
  /-- `update_listeners`: the client is gone. -/
  | closed {outbound : OutboundTcp} {sockets : stack.Sockets} {createdAt : Nat}
    {socket : stack.tcp.Socket}
    (found : outbound.states.lookup handle = some (.listening createdAt))
    (got : StackApi.getTcp sockets handle = .ok socket)
    (gone : stack.tcp.state socket = .closed ∨ stack.tcp.state socket = .timeWait) :
    Act config dns handle (outbound, sockets) (outbound.progress handle [] .closing, sockets)
  /-- `update_listeners`: the handshake took too long. -/
  | expired {outbound : OutboundTcp} {sockets : stack.Sockets} {createdAt : Nat}
    {socket : stack.tcp.Socket}
    (found : outbound.states.lookup handle = some (.listening createdAt))
    (got : StackApi.getTcp sockets handle = .ok socket)
    (unaccepted : ¬ (stack.tcp.state socket = .established ∨
      stack.tcp.state socket = .closeWait)) :
    Act config dns handle (outbound, sockets)
      (outbound.progress handle [] .closing,
        StackApi.set sockets handle (.tcp (stack.tcp.abort socket)))
  /-- `poll_connecting`: the upstream connection is there. -/
  | connected {outbound : OutboundTcp} {sockets : stack.Sockets} {task : ConnectTask}
    (found : outbound.states.lookup handle = some (.connecting task)) (stream : ProxyStream) :
    Act config dns handle (outbound, sockets)
      (outbound.progress handle [.polled task (.finished (.ok stream))]
        (.established ⟨stream, [], .open⟩), sockets)
  /-- `poll_connecting`: there will be no upstream connection. -/
  | failed {outbound : OutboundTcp} {sockets : stack.Sockets} {task : ConnectTask}
    {socket : stack.tcp.Socket} {result : TaskPoll}
    (found : outbound.states.lookup handle = some (.connecting task))
    (got : StackApi.getTcp sockets handle = .ok socket) (failure : result.IsFailure) :
    Act config dns handle (outbound, sockets)
      (outbound.progress handle [.polled task result] .closing,
        StackApi.set sockets handle (.tcp (stack.tcp.abort socket)))
  /-- `poll_connecting`: the client is gone before the upstream connection is there. -/
  | abandoned {outbound : OutboundTcp} {sockets : stack.Sockets} {task : ConnectTask}
    {socket : stack.tcp.Socket}
    (found : outbound.states.lookup handle = some (.connecting task))
    (got : StackApi.getTcp sockets handle = .ok socket)
    (gone : clientGone (stack.tcp.state socket) = true) :
    Act config dns handle (outbound, sockets)
      (outbound.progress handle [.polled task .pending, .aborted task] .closing,
        StackApi.set sockets handle (.tcp (stack.tcp.abort socket)))
  /-- `poll_connecting`: the upstream connection is not there yet. -/
  | waiting {outbound : OutboundTcp} {sockets : stack.Sockets} {task : ConnectTask}
    (found : outbound.states.lookup handle = some (.connecting task)) :
    Act config dns handle (outbound, sockets)
      (outbound.progress handle [.polled task .pending] (.connecting task), sockets)
  /-- `shuttle_established`. -/
  | relayed {outbound : OutboundTcp} {sockets : stack.Sockets} {context next : ForwardContext}
    {socket used : stack.tcp.Socket} {closing : Bool}
    (found : outbound.states.lookup handle = some (.established context))
    (got : StackApi.getTcp sockets handle = .ok socket)
    (shuttled : shuttle context socket = (next, used, closing)) :
    Act config dns handle (outbound, sockets)
      (outbound.progress handle [] (if closing then .closing else .established next),
        StackApi.set sockets handle (.tcp used))
  /-- `cleanup`. -/
  | removed {outbound : OutboundTcp} {sockets rest : stack.Sockets}
    (found : outbound.states.lookup handle = some .closing)
    (freed : StackApi.remove sockets handle = .ok rest) :
    Act config dns handle (outbound, sockets) (outbound.forget handle, rest)

/-- Any number of acts. -/
abbrev Acts (config : AppConfig regex) (dns : Option DnsInterceptor)
    (before after : OutboundTcp × stack.Sockets) : Prop :=
  Relation.ReflTransGen (fun before after => ∃ handle, Act config dns handle before after)
    before after

/-- A listen socket is registered for the four-tuple of a SYN. -/
inductive Listens : OutboundTcp × stack.Sockets → OutboundTcp × stack.Sockets → Prop
  | intro {outbound : OutboundTcp} {sockets : stack.Sockets} {key : EndpointKey}
    {socket : stack.tcp.Socket} (packet : List UInt8) (now : Nat)
    (read : parseTcpSyn packet = .ok (some key)) (unseen : key ∉ outbound.listeningEndpoints)
    (made : stack.tcp.listen stack.tcp.new key.dstPort = some socket) :
    Listens (outbound, sockets)
      (outbound.register (StackApi.add sockets (.tcp socket)).1 key now,
        (StackApi.add sockets (.tcp socket)).2)

/-- One change. -/
inductive Change : OutboundTcp × stack.Sockets → OutboundTcp × stack.Sockets → Prop
  /-- A listen socket for a four-tuple without one. -/
  | listened {outbound : OutboundTcp} {sockets : stack.Sockets} {key : EndpointKey}
    {socket : stack.tcp.Socket} (now : Nat) (unseen : key ∉ outbound.listeningEndpoints)
    (made : stack.tcp.listen stack.tcp.new key.dstPort = some socket) :
    Change (outbound, sockets)
      (outbound.register (StackApi.add sockets (.tcp socket)).1 key now,
        (StackApi.add sockets (.tcp socket)).2)
  /-- A change to a connection. -/
  | changed {before after : OutboundTcp × stack.Sockets} (handle : SocketHandle)
    (change : ChangeAt handle before after) : Change before after

/-- Any number of changes. -/
abbrev Changes (before after : OutboundTcp × stack.Sockets) : Prop :=
  Relation.ReflTransGen Change before after

/-- Any number of changes to connections. -/
abbrev Works (before after : OutboundTcp × stack.Sockets) : Prop :=
  Relation.ReflTransGen (fun before after => ∃ handle, ChangeAt handle before after) before after

/-- The sockets of all connections are live TCP sockets. -/
abbrev Owns (state : OutboundTcp × stack.Sockets) : Prop :=
  Held .tcp (StackApi.kinds state.2) state.1.states.keys

/-! ## Changes keep the sockets -/

/-- A change to one connection leaves the states of the others alone. -/
theorem ChangeAt.frame {handle : SocketHandle} {before after : OutboundTcp × stack.Sockets}
    (change : ChangeAt handle before after) (other : SocketHandle) (different : other ≠ handle) :
    after.1.states.lookup other = before.1.states.lookup other := by
  cases change with
  | advanced _ _ states _ _ _ =>
    show Finmap.lookup other _ = _
    rw [states, HashMap.lookup_insert_if, if_neg different]
  | removed _ _ =>
    show (Finmap.erase handle _).lookup other = _
    rw [HashMap.lookup_erase_if, if_neg different]

/-- A change to one connection is a turn of the owner of the connections. -/
theorem ChangeAt.turn {handle : SocketHandle} {before after : OutboundTcp × stack.Sockets}
    (change : ChangeAt handle before after) (owns : Owns before) :
    Turn .tcp (StackApi.kinds before.2) before.1.states.keys (StackApi.kinds after.2)
      after.1.states.keys := by
  cases change with
  | advanced found _ states _ _ touches =>
    rw [states]
    exact StackApi.turn_touch owns found touches _
  | removed found freed => exact StackApi.turn_remove owns found freed

/-- A change is a turn of the owner of the connections. -/
theorem Change.turn {before after : OutboundTcp × stack.Sockets} (change : Change before after)
    (owns : Owns before) :
    Turn .tcp (StackApi.kinds before.2) before.1.states.keys (StackApi.kinds after.2)
      after.1.states.keys := by
  cases change with
  | @listened _ _ _ socket now _ _ => exact StackApi.turn_add owns socket (.listening now)
  | changed handle change => exact change.turn owns

/-- Any number of changes is a turn. -/
theorem Changes.turn {before after : OutboundTcp × stack.Sockets} (changes : Changes before after)
    (owns : Owns before) :
    Turn .tcp (StackApi.kinds before.2) before.1.states.keys (StackApi.kinds after.2)
      after.1.states.keys :=
  Turn.path (fun _ _ change owns => Change.turn change owns) changes owns

/-- Changes to connections are changes. -/
theorem Works.changes {before after : OutboundTcp × stack.Sockets} (works : Works before after) :
    Changes before after := by
  induction works with
  | refl => exact .refl
  | tail _ change reached =>
    obtain ⟨handle, change⟩ := change
    exact reached.tail (.changed handle change)

/-! ## Acts are changes -/

variable {config : AppConfig regex} {dns : Option DnsInterceptor}

/-- The connection under a live handle moves, by an act that leaves its four-tuple alone. -/
theorem progress_changeAt {outbound : OutboundTcp} {sockets touched : stack.Sockets}
    {handle : SocketHandle} {old new : State} (events : List TaskEvent)
    (found : outbound.states.lookup handle = some old) (moves : old.Moves new)
    (touches : StackApi.Touches handle sockets touched) :
    ChangeAt handle (outbound, sockets) (outbound.progress handle events new, touched) :=
  .advanced found moves rfl rfl rfl touches

/-- Replacing the TCP socket that was read under a handle. -/
theorem touches_got {sockets : stack.Sockets} {handle : SocketHandle} {socket : stack.tcp.Socket}
    (got : StackApi.getTcp sockets handle = .ok socket) (used : stack.tcp.Socket) :
    StackApi.Touches handle sockets (StackApi.set sockets handle (.tcp used)) :=
  StackApi.touches_set (StackApi.kinds_of_getTcp got)

/-- An act is a change to the connection under its handle. -/
theorem Act.changeAt {handle : SocketHandle} {before after : OutboundTcp × stack.Sockets}
    (act : Act config dns handle before after) : ChangeAt handle before after := by
  cases act with
  | started _ found _ _ _ _ _ _ => exact .advanced found (.start _ _) rfl rfl rfl (.refl _ _)
  | closed found _ _ => exact progress_changeAt _ found (.expire _) (.refl _ _)
  | expired found got _ => exact progress_changeAt _ found (.expire _) (touches_got got _)
  | connected found stream => exact progress_changeAt _ found (.connect _ stream) (.refl _ _)
  | failed found got _ => exact progress_changeAt _ found (.abandon _) (touches_got got _)
  | abandoned found got _ => exact progress_changeAt _ found (.abandon _) (touches_got got _)
  | waiting found => exact progress_changeAt _ found (.wait _) (.refl _ _)
  | @relayed _ _ context next _ _ closing found got _ =>
    cases closing with
    | true => exact progress_changeAt _ found (.finish context) (touches_got got _)
    | false => exact progress_changeAt _ found (.relay context next) (touches_got got _)
  | removed found freed => exact .removed found freed

/-- Acts are changes to connections. -/
theorem Acts.works {before after : OutboundTcp × stack.Sockets}
    (acts : Acts config dns before after) : Works before after := by
  induction acts with
  | refl => exact .refl
  | tail _ act reached =>
    obtain ⟨handle, act⟩ := act
    exact reached.tail ⟨handle, act.changeAt⟩

/-! ## The loops make acts -/

/-- A loop over connections, each of one kind of state when it starts, acts on one connection
at a time and does not panic. -/
theorem loop_acts {σ : Type} {body : σ → SocketHandle → Run σ}
    (view : σ → OutboundTcp × stack.Sockets) (kind : State → Bool)
    (step : ∀ handle state value, Owns (view state) →
      (view state).1.states.lookup handle = some value → kind value = true →
      ∃ next, body state handle = .ok next ∧
        Relation.ReflGen (fun before after => Act config dns handle (view before) (view after))
          state next)
    {list : List SocketHandle} (distinct : list.Nodup) (start : σ) (owns : Owns (view start))
    (present : ∀ handle ∈ list, ∃ value,
      (view start).1.states.lookup handle = some value ∧ kind value = true) :
    ∃ last, list.foldlM body start = .ok last ∧ Acts config dns (view start) (view last) := by
  obtain ⟨last, ran, path⟩ := foldlM_changes
    (fun state handle => (view state).1.states.lookup handle) kind (fun state => Owns (view state))
    (fun handle before after => Act config dns handle (view before) (view after))
    (fun _ _ _ act => act.changeAt.frame) (fun _ _ _ act owns => (act.changeAt.turn owns).held)
    step distinct start owns present
  exact ⟨last, ran, path.lift view fun _ _ act => act⟩

/-- One packet of `observe_syns`. -/
theorem observePacket_listens (state : OutboundTcp × stack.Sockets) (packet : List UInt8 × Nat) :
    ∃ next, observePacket state packet = .ok next ∧ Relation.ReflGen Listens state next := by
  obtain ⟨outbound, sockets⟩ := state
  obtain ⟨parsed, read⟩ := parseTcpSyn_ok packet.1
  unfold observePacket
  rw [read]
  cases parsed with
  | none => exact ⟨_, rfl, .refl⟩
  | some key =>
    by_cases seen : key ∈ outbound.listeningEndpoints
    · refine ⟨(outbound, sockets), ?_, .refl⟩
      simp only [bind, Except.bind, seen, if_true]
      rfl
    · cases made : stack.tcp.listen stack.tcp.new key.dstPort with
      | none =>
        refine ⟨(outbound, sockets), ?_, .refl⟩
        simp only [bind, Except.bind, seen, if_false, made]
        rfl
      | some socket =>
        refine ⟨_, ?_, .single (.intro packet.1 packet.2 read seen made)⟩
        simp only [bind, Except.bind, seen, if_false, made]
        rfl

/-- `observe_syns` registers listen sockets. -/
theorem observeSyns_listens (clock : Nat → Nat) (packets : List (List UInt8))
    (state : OutboundTcp × stack.Sockets) :
    ∃ next, observeSyns clock packets state = .ok next ∧
      Relation.ReflTransGen Listens state next := by
  apply foldlM_invariant (fun _ now => Relation.ReflTransGen Listens state now) _
    Relation.ReflTransGen.refl
  intro packet _ now reached
  obtain ⟨next, ran, listens⟩ := observePacket_listens now packet
  exact ⟨next, ran, reached.trans listens.to_reflTransGen⟩

/-- Registering a listen socket is a change. -/
theorem Listens.change {before after : OutboundTcp × stack.Sockets}
    (listens : Listens before after) : Change before after := by
  cases listens with
  | intro packet now _ unseen made => exact .listened now unseen made

/-- Replacing a state is progress without news of tasks. -/
theorem setState_eq_progress (outbound : OutboundTcp) (handle : SocketHandle) (state : State) :
    outbound.setState handle state = outbound.progress handle [] state := by
  unfold setState progress
  rw [List.append_nil]

/-- Taking a state out, logging and putting one back is progress. -/
theorem record_setState_eq_progress (outbound : OutboundTcp) (handle : SocketHandle)
    (event : TaskEvent) (state : State) :
    (record { outbound with states := outbound.states.erase handle } event).setState handle state =
      outbound.progress handle [event] state := by
  unfold setState progress record
  rw [HashMap.insert_erase_self]

/-- The same with two events. -/
theorem record_record_setState_eq_progress (outbound : OutboundTcp) (handle : SocketHandle)
    (first second : TaskEvent) (state : State) :
    ((record { outbound with states := outbound.states.erase handle } first).record
      second).setState handle state = outbound.progress handle [first, second] state := by
  unfold setState progress record
  rw [HashMap.insert_erase_self, List.append_assoc]
  rfl

/-- One handle of `update_listeners`. -/
theorem updateListener_acts (config : AppConfig regex) (dns : DnsInterceptor)
    (clock : Nat → Nat) (handle : SocketHandle) (state : OutboundTcp × stack.Sockets)
    (value : State) (owns : Owns state) (found : state.1.states.lookup handle = some value) :
    ∃ next, updateListener config dns clock state handle = .ok next ∧
      Relation.ReflGen (Act config (some dns) handle) state next := by
  obtain ⟨outbound, sockets⟩ := state
  obtain ⟨typed, socket, got⟩ := StackApi.held_getTcp owns found
  unfold updateListener
  simp only [found]
  cases value with
  | listening createdAt =>
    simp only [got, bind, Except.bind, setState_eq_progress]
    split
    · rename_i accepted
      cases bound : stack.tcp.localEndpoint socket with
      | none => exact ⟨_, rfl, .refl⟩
      | some endpoint =>
        obtain ⟨proxy, routed⟩ := config.proxyFor_ok (dns.targetFor endpoint.addr endpoint.port)
        simp only [startConnect, routed]
        exact ⟨_, rfl, .single (.started rfl found got accepted bound rfl rfl routed)⟩
    · rename_i unaccepted
      split
      · rename_i gone
        exact ⟨_, rfl, .single (.closed found got gone)⟩
      · split
        · exact ⟨_, rfl, .single (.expired found got unaccepted)⟩
        · exact ⟨_, rfl, .refl⟩
  | connecting _ => exact ⟨_, rfl, .refl⟩
  | established _ => exact ⟨_, rfl, .refl⟩
  | closing => exact ⟨_, rfl, .refl⟩

/-- One handle of `poll_connecting`. -/
theorem pollConnect_acts (config : AppConfig regex) (dns : Option DnsInterceptor)
    (polls : Nat → TaskPoll) (handle : SocketHandle)
    (state : (Bool × OutboundTcp) × stack.Sockets) (value : State)
    (owns : Owns (state.1.2, state.2)) (found : state.1.2.states.lookup handle = some value)
    (shape : value.isConnecting = true) :
    ∃ next, pollConnect polls state handle = .ok next ∧
      Act config dns handle (state.1.2, state.2) (next.1.2, next.2) := by
  obtain ⟨⟨ready, outbound⟩, sockets⟩ := state
  obtain ⟨typed, socket, got⟩ := StackApi.held_getTcp owns found
  cases value with
  | connecting task =>
    unfold pollConnect
    simp only [found, record_setState_eq_progress, record_record_setState_eq_progress]
    -- a finished task needs no access to the socket set
    cases polls task.id with
    | finished result =>
      cases result with
      | ok stream => exact ⟨_, rfl, .connected found stream⟩
      | error _ =>
        simp only [got, bind, Except.bind]
        exact ⟨_, rfl, .failed found got trivial⟩
    | panicked _ =>
      simp only [got, bind, Except.bind]
      exact ⟨_, rfl, .failed found got trivial⟩
    | pending =>
      simp only [got, bind, Except.bind]
      split
      · rename_i gone
        exact ⟨_, rfl, .abandoned found got gone⟩
      · exact ⟨_, rfl, .waiting found⟩
  | listening _ => contradiction
  | established _ => contradiction
  | closing => contradiction

/-- One handle of `shuttle_established`. -/
theorem shuttleHandle_acts (config : AppConfig regex) (dns : Option DnsInterceptor)
    (handle : SocketHandle) (state : OutboundTcp × stack.Sockets)
    (value : State) (owns : Owns state) (found : state.1.states.lookup handle = some value) :
    ∃ next, shuttleHandle state handle = .ok next ∧
      Relation.ReflGen (Act config dns handle) state next := by
  obtain ⟨outbound, sockets⟩ := state
  obtain ⟨typed, socket, got⟩ := StackApi.held_getTcp owns found
  unfold shuttleHandle
  simp only [found]
  cases value with
  | established context =>
    simp only [got, bind, Except.bind, setState_eq_progress]
    exact ⟨_, rfl, .single (.relayed found got rfl)⟩
  | listening _ => exact ⟨_, rfl, .refl⟩
  | connecting _ => exact ⟨_, rfl, .refl⟩
  | closing => exact ⟨_, rfl, .refl⟩

/-- One handle of `cleanup`. -/
theorem cleanupHandle_acts (config : AppConfig regex) (dns : Option DnsInterceptor)
    (handle : SocketHandle) (state : OutboundTcp × stack.Sockets)
    (value : State) (owns : Owns state) (found : state.1.states.lookup handle = some value)
    (shape : value.isClosing = true) :
    ∃ next, cleanupHandle state handle = .ok next ∧
      Relation.ReflGen (Act config dns handle) state next := by
  obtain ⟨outbound, sockets⟩ := state
  have closing : value = .closing := by
    cases value with
    | closing => rfl
    | _ => contradiction
  subst closing
  obtain ⟨rest, freed, _⟩ := StackApi.held_remove owns found
  refine ⟨(outbound.forget handle, rest), ?_, .single (.removed found freed)⟩
  unfold cleanupHandle
  rw [freed]
  rfl

/-! ## The methods make acts -/

/-- `log_listener_transitions` changes nothing. -/
theorem logListenerTransitions_ok (order : IterOrder SocketHandle)
    (state : OutboundTcp × stack.Sockets) (owns : Owns state) :
    logListenerTransitions order state = .ok state := by
  have walk := order.visit_filter state.1.states State.isListening
  have step : ∀ handle ∈ state.1.handlesWhere order State.isListening, ∀ now, now = state →
      ∃ next, logListener now handle = .ok next ∧ next = state := by
    intro handle member now same
    obtain ⟨value, found, _⟩ := walk.2 handle member
    obtain ⟨_, socket, got⟩ := StackApi.held_getTcp owns found
    refine ⟨state, ?_, rfl⟩
    rw [same, logListener, got]
    rfl
  obtain ⟨last, ran, same⟩ := foldlM_all (fun now => now = state) step state rfl
  rw [same] at ran
  exact ran

/-- `process` acts on connections and does not panic. -/
theorem process_acts (config : AppConfig regex) (dns : DnsInterceptor) (input : ProcessInput)
    (state : OutboundTcp × stack.Sockets) (owns : Owns state) :
    ∃ next, process config dns input state = .ok next ∧ Acts config (some dns) state next := by
  obtain ⟨listened, updated, first⟩ := loop_acts id (fun _ => true)
    (fun handle now value owns found _ =>
      updateListener_acts config dns input.clock handle now value owns found)
    (input.updateOrder.nodup state.1.states.keys) state owns
    (fun handle member => by
      obtain ⟨value, found⟩ := input.updateOrder.visit_entries state.1.states handle member
      exact ⟨value, found, rfl⟩)
  have walk := input.shuttleOrder.visit_filter listened.1.states State.isEstablished
  obtain ⟨last, relayed, second⟩ := loop_acts id State.isEstablished
    (fun handle now value owns found _ =>
      shuttleHandle_acts config (some dns) handle now value owns found)
    walk.1 listened (first.works.changes.turn owns).held walk.2
  refine ⟨last, ?_, first.trans second⟩
  unfold process
  rw [logListenerTransitions_ok input.logOrder state owns]
  show (updateListeners config dns input.clock input.updateOrder state).bind _ = _
  rw [show updateListeners config dns input.clock input.updateOrder state = .ok listened from
    updated]
  exact relayed

/-- `poll_ready` acts on connections and does not panic. -/
theorem pollReady_acts (config : AppConfig regex) (input : PollInput)
    (state : OutboundTcp × stack.Sockets) (owns : Owns state) :
    ∃ ready next, pollReady input state = .ok (ready, next) ∧ Acts config none state next := by
  have walk := input.connectOrder.visit_filter state.1.states State.isConnecting
  have body : ∀ handle (now : (Bool × OutboundTcp) × stack.Sockets) value,
      Owns (now.1.2, now.2) → now.1.2.states.lookup handle = some value →
      value.isConnecting = true → ∃ next, pollConnect input.polls now handle = .ok next ∧
        Relation.ReflGen (fun before after : (Bool × OutboundTcp) × stack.Sockets =>
          Act config none handle (before.1.2, before.2) (after.1.2, after.2)) now next := by
    intro handle now value owns found shape
    obtain ⟨next, ran, act⟩ := pollConnect_acts config none input.polls handle now value owns found
      shape
    exact ⟨next, ran, .single act⟩
  obtain ⟨⟨⟨ready, outbound⟩, sockets⟩, polled, acts⟩ := loop_acts
    (fun now : (Bool × OutboundTcp) × stack.Sockets => (now.1.2, now.2)) State.isConnecting
    body walk.1 ((false, state.1), state.2) owns walk.2
  have kept : Owns (outbound, sockets) := (acts.works.changes.turn owns).held
  have step : ∀ handle ∈ input.readyOrder.visit outbound.states.keys, ∀ ready, True →
      ∃ next, pollHandle outbound sockets ready handle = .ok next ∧ True := by
    intro handle member ready _
    obtain ⟨value, found⟩ := input.readyOrder.visit_entries outbound.states handle member
    obtain ⟨_, socket, got⟩ := StackApi.held_getTcp kept found
    unfold pollHandle
    simp only [found]
    cases value with
    | established context =>
      simp only [got, bind, Except.bind]
      exact ⟨_, rfl, trivial⟩
    | listening _ => exact ⟨_, rfl, trivial⟩
    | connecting _ => exact ⟨_, rfl, trivial⟩
    | closing => exact ⟨_, rfl, trivial⟩
  obtain ⟨final, read, _⟩ := foldlM_all (fun _ => True) step ready trivial
  refine ⟨final, (outbound, sockets), ?_, acts⟩
  unfold pollReady
  rw [show pollConnecting input.polls input.connectOrder state = .ok ((ready, outbound), sockets)
    from polled]
  simp only [bind, Except.bind, read]
  rfl

/-- `cleanup` acts on connections and does not panic. -/
theorem cleanup_acts (config : AppConfig regex) (order : IterOrder SocketHandle)
    (state : OutboundTcp × stack.Sockets) (owns : Owns state) :
    ∃ next, cleanup order state = .ok next ∧ Acts config none state next := by
  have walk := order.visit_filter state.1.states State.isClosing
  exact loop_acts id State.isClosing (cleanupHandle_acts config none) walk.1 state owns walk.2

end OutboundTcp

end NsProxy.EventLoop
