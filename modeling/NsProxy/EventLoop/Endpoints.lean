import NsProxy.EventLoop.OutboundChanges
import NsProxy.Lib.Enumerates

/-!
# Four-tuples over whole runs

`OutboundTcp` is run on its own, in any interleaving of its methods with the rest of the event
loop, which may do anything to the socket set that leaves the outbound sockets in place. Along
every run each live handle has one four-tuple of its own, and the four-tuples for which no new
listener is made are exactly those.
-/

namespace NsProxy.EventLoop

open Smoltcp Tun Outbound

namespace OutboundTcp

variable {stack : StackApi} {regex : RegexApi} {config : AppConfig regex}

/-! ## Runs of the component -/

/-- A step of the component, with the shared socket set, or of its surroundings. -/
inductive Step (config : AppConfig regex) :
    OutboundTcp × stack.Sockets → OutboundTcp × stack.Sockets → Prop
  /-- `observe_syns` on any packets. -/
  | observeSyns {before after : OutboundTcp × stack.Sockets} (clock : Nat → Nat)
    (packets : List (List UInt8)) (ran : OutboundTcp.observeSyns clock packets before = .ok after) :
    Step config before after
  /-- `process`. -/
  | process {before after : OutboundTcp × stack.Sockets} (dns : DnsInterceptor)
    (input : ProcessInput) (ran : OutboundTcp.process config dns input before = .ok after) :
    Step config before after
  /-- `poll_ready`. -/
  | pollReady {before after : OutboundTcp × stack.Sockets} {ready : Bool} (input : PollInput)
    (ran : OutboundTcp.pollReady input before = .ok (ready, after)) : Step config before after
  /-- `cleanup`. -/
  | cleanup {before after : OutboundTcp × stack.Sockets} (order : IterOrder SocketHandle)
    (ran : OutboundTcp.cleanup order before = .ok after) : Step config before after
  /-- The rest of the event loop leaves the outbound sockets in place. -/
  | others {outbound : OutboundTcp} {before after : stack.Sockets}
    (kept : Owns (outbound, after)) : Step config (outbound, before) (outbound, after)

/-- A state that a run from a new component, beside whatever sockets there are, reaches. -/
def Reachable (config : AppConfig regex) (state : OutboundTcp × stack.Sockets) : Prop :=
  ∃ sockets, Relation.ReflTransGen (Step config) (new, sockets) state

/-- What a step is made of. -/
theorem Step.cases {before after : OutboundTcp × stack.Sockets} (step : Step config before after)
    (owns : Owns before) :
    Relation.ReflTransGen Listens before after ∨
      (∃ dns, Acts config dns before after ∧ ∀ interceptor, dns = some interceptor →
        ∃ input, OutboundTcp.process config interceptor input before = .ok after) ∨
      (after.1 = before.1 ∧ Owns after) := by
  cases step with
  | observeSyns clock packets ran =>
    obtain ⟨next, same, listens⟩ := observeSyns_listens clock packets before
    obtain rfl := Except.ok.inj (ran.symm.trans same)
    exact .inl listens
  | process dns input ran =>
    obtain ⟨next, same, acts⟩ := process_acts config dns input before owns
    obtain rfl := Except.ok.inj (ran.symm.trans same)
    refine .inr (.inl ⟨some dns, acts, ?_⟩)
    intro interceptor same
    obtain rfl := Option.some.inj same
    exact ⟨input, ran⟩
  | pollReady input ran =>
    obtain ⟨ready, next, same, acts⟩ := pollReady_acts config input before owns
    obtain rfl := (Prod.mk.inj (Except.ok.inj (ran.symm.trans same))).2
    exact .inr (.inl ⟨none, acts, by simp⟩)
  | cleanup order ran =>
    obtain ⟨next, same, acts⟩ := cleanup_acts config order before owns
    obtain rfl := Except.ok.inj (ran.symm.trans same)
    exact .inr (.inl ⟨none, acts, by simp⟩)
  | others kept => exact .inr (.inr ⟨rfl, kept⟩)

/-- Every step is a sequence of changes, or leaves the component alone. -/
theorem Step.changes {before after : OutboundTcp × stack.Sockets}
    (step : Step config before after) (owns : Owns before) :
    Changes before after ∨ (after.1 = before.1 ∧ Owns after) := by
  rcases step.cases owns with listens | ⟨dns, acts, -⟩ | others
  · exact .inl (listens.lift id fun _ _ step => step.change)
  · exact .inl acts.works.changes
  · exact .inr others

/-- The outbound sockets stay in place. -/
theorem Step.owns {before after : OutboundTcp × stack.Sockets} (step : Step config before after)
    (owns : Owns before) : Owns after := by
  rcases step.changes owns with changes | ⟨-, kept⟩
  · exact (changes.turn owns).held
  · exact kept

/-- A reachable component owns its sockets. -/
theorem Reachable.owns {state : OutboundTcp × stack.Sockets} (reached : Reachable config state) :
    Owns state := by
  obtain ⟨sockets, steps⟩ := reached
  induction steps with
  | refl => exact fun handle member => absurd member (Finset.notMem_empty handle)
  | tail _ step kept => exact step.owns kept

/-- A step leads from a reachable state to a reachable one. -/
theorem Reachable.step {before after : OutboundTcp × stack.Sockets}
    (reached : Reachable config before) (step : Step config before after) :
    Reachable config after := by
  obtain ⟨sockets, steps⟩ := reached
  exact ⟨sockets, steps.tail step⟩

/-! ## The books of the four-tuples -/

/-- The books of the four-tuples balance. -/
structure Registered (outbound : OutboundTcp) : Prop where
  /-- Every connection has a four-tuple, and nothing else has. -/
  keys : outbound.handleToEndpoint.keys = outbound.states.keys
  /-- No two connections share a four-tuple, and no listener is made for theirs. -/
  endpoints : Enumerates outbound.handleToEndpoint outbound.listeningEndpoints

/-- The books of a new component are empty. -/
theorem registered_new : Registered new where
  keys := rfl
  endpoints := Enumerates.empty

/-- A new listener has a handle and a four-tuple of its own. -/
theorem Registered.register {outbound : OutboundTcp} (registered : Registered outbound)
    {handle : SocketHandle} {key : EndpointKey} (fresh : handle ∉ outbound.states.keys)
    (unseen : key ∉ outbound.listeningEndpoints) (now : Nat) :
    Registered (outbound.register handle key now) where
  keys := by
    show (outbound.handleToEndpoint.insert handle key).keys =
      (outbound.states.insert handle _).keys
    rw [HashMap.keys_insert, HashMap.keys_insert, registered.keys]
  endpoints := by
    have absent : outbound.handleToEndpoint.lookup handle = none := by
      rw [← registered.keys, Finmap.mem_keys] at fresh
      exact Finmap.lookup_eq_none.mpr fresh
    exact registered.endpoints.insert absent unseen

/-- A forgotten connection gives its four-tuple back. -/
theorem Registered.forget {outbound : OutboundTcp} (registered : Registered outbound)
    {handle : SocketHandle} (inside : handle ∈ outbound.states.keys) :
    Registered (outbound.forget handle) := by
  rw [← registered.keys] at inside
  obtain ⟨key, found⟩ := (HashMap.mem_keys_iff _ _).mp inside
  constructor
  · show (outbound.handleToEndpoint.erase handle).keys = (outbound.states.erase handle).keys
    rw [Finmap.keys_erase, Finmap.keys_erase, registered.keys]
  · have freed : (outbound.forget handle).listeningEndpoints =
        outbound.listeningEndpoints.erase key := by
      simp only [OutboundTcp.forget, found]
    rw [freed]
    exact registered.endpoints.erase found

/-- Every change keeps the books. -/
theorem Change.registered {before after : OutboundTcp × stack.Sockets}
    (change : Change before after) (owns : Owns before) (registered : Registered before.1) :
    Registered after.1 := by
  cases change with
  | @listened _ _ key socket now unseen made =>
    exact registered.register (StackApi.held_fresh owns (.tcp socket)) unseen now
  | changed handle change =>
    cases change with
    | @advanced outbound next _ _ old new found moves states endpoints kept touches =>
      constructor
      · show next.handleToEndpoint.keys = next.states.keys
        rw [kept, states, HashMap.keys_insert_of_lookup found, registered.keys]
      · show Enumerates next.handleToEndpoint next.listeningEndpoints
        rw [kept, endpoints]
        exact registered.endpoints
    | removed found freed => exact registered.forget ((HashMap.mem_keys_iff _ _).mpr ⟨_, found⟩)

/-- Any number of changes keeps the books. -/
theorem Changes.registered {before after : OutboundTcp × stack.Sockets}
    (changes : Changes before after) (owns : Owns before) (registered : Registered before.1) :
    Registered after.1 := by
  induction changes with
  | refl => exact registered
  | tail reached change kept => exact Change.registered change (Changes.turn reached owns).held kept

/-- In every reachable state the books balance. -/
theorem Reachable.registered {state : OutboundTcp × stack.Sockets}
    (reached : Reachable config state) : Registered state.1 := by
  obtain ⟨sockets, steps⟩ := reached
  induction steps with
  | refl => exact registered_new
  | @tail before after run step kept =>
    have owns : Owns before := Reachable.owns ⟨sockets, run⟩
    rcases step.changes owns with changes | ⟨same, -⟩
    · exact changes.registered owns kept
    · rwa [same]

/-! ## Four-tuples stay with their handles -/

/-- A change to a connection makes no new one, and those that are left keep their four-tuples. -/
theorem ChangeAt.endpoint {handle probe : SocketHandle} {before after : OutboundTcp × stack.Sockets}
    (change : ChangeAt handle before after) (lives : probe ∈ after.1.states.keys) :
    probe ∈ before.1.states.keys ∧
      after.1.handleToEndpoint.lookup probe = before.1.handleToEndpoint.lookup probe := by
  cases change with
  | @advanced outbound next _ _ old new found moves states endpoints kept touches =>
    have keys : next.states.keys = outbound.states.keys := by
      rw [states, HashMap.keys_insert_of_lookup found]
    refine ⟨?_, ?_⟩
    · rw [← keys]
      exact lives
    · show next.handleToEndpoint.lookup probe = _
      rw [kept]
  | @removed outbound _ _ found freed =>
    have left : probe ≠ handle ∧ probe ∈ outbound.states.keys := by
      change probe ∈ (outbound.states.erase handle).keys at lives
      rw [Finmap.keys_erase, Finset.mem_erase] at lives
      exact lives
    refine ⟨left.2, ?_⟩
    show (outbound.handleToEndpoint.erase handle).lookup probe = _
    rw [HashMap.lookup_erase_if, if_neg left.1]

/-- A handle that lives through the work keeps its four-tuple. -/
theorem Works.endpoint {probe : SocketHandle} {before after : OutboundTcp × stack.Sockets}
    (works : Works before after) (lives : probe ∈ after.1.states.keys) :
    probe ∈ before.1.states.keys ∧
      after.1.handleToEndpoint.lookup probe = before.1.handleToEndpoint.lookup probe := by
  induction works with
  | refl => exact ⟨lives, rfl⟩
  | tail _ change kept =>
    obtain ⟨handle, change⟩ := change
    obtain ⟨middle, same⟩ := change.endpoint lives
    obtain ⟨started, earlier⟩ := kept middle
    exact ⟨started, same.trans earlier⟩

/-- A new listener leaves the four-tuples of the others alone. -/
theorem Listens.endpoint {probe : SocketHandle} {before after : OutboundTcp × stack.Sockets}
    (listens : Listens before after) (owns : Owns before) (lives : probe ∈ before.1.states.keys) :
    probe ∈ after.1.states.keys ∧
      after.1.handleToEndpoint.lookup probe = before.1.handleToEndpoint.lookup probe := by
  cases listens with
  | @intro outbound sockets key socket packet now read unseen made =>
    have different : probe ≠ (StackApi.add sockets (.tcp socket)).1 := by
      intro same
      rw [same] at lives
      exact StackApi.held_fresh owns (.tcp socket) lives
    constructor
    · show probe ∈ (outbound.states.insert _ _).keys
      rw [HashMap.keys_insert]
      exact Finset.mem_insert_of_mem lives
    · show (outbound.handleToEndpoint.insert _ _).lookup probe = _
      rw [HashMap.lookup_insert_if, if_neg different]

/-- The listeners added by a tick leave the handles that live, with their four-tuples. -/
theorem listens_endpoint {probe : SocketHandle} {before after : OutboundTcp × stack.Sockets}
    (listens : Relation.ReflTransGen Listens before after) (owns : Owns before)
    (lives : probe ∈ before.1.states.keys) :
    probe ∈ after.1.states.keys ∧
      after.1.handleToEndpoint.lookup probe = before.1.handleToEndpoint.lookup probe := by
  induction listens with
  | refl => exact ⟨lives, rfl⟩
  | tail reached step kept =>
    have changes : Changes _ _ := reached.lift id fun _ _ step => step.change
    obtain ⟨next, same⟩ := step.endpoint (changes.turn owns).held kept.1
    exact ⟨next, same.trans kept.2⟩

/-- A handle that lives before and after a step keeps its four-tuple. -/
theorem Step.endpoint {handle : SocketHandle} {before after : OutboundTcp × stack.Sockets}
    (step : Step config before after) (owns : Owns before)
    (lived : handle ∈ before.1.states.keys) (lives : handle ∈ after.1.states.keys) :
    after.1.handleToEndpoint.lookup handle = before.1.handleToEndpoint.lookup handle := by
  rcases step.cases owns with listens | ⟨dns, acts, -⟩ | ⟨same, -⟩
  · exact (listens_endpoint listens owns lived).2
  · exact (acts.works.endpoint lives).2
  · rw [same]

/-- A SYN whose four-tuple a live handle has changes nothing. -/
theorem observePacket_registered {state : OutboundTcp × stack.Sockets} {packet : List UInt8}
    {key : EndpointKey} (now : Nat) (read : parseTcpSyn packet = .ok (some key))
    (known : key ∈ state.1.listeningEndpoints) :
    observePacket state (packet, now) = .ok state := by
  obtain ⟨outbound, sockets⟩ := state
  unfold observePacket
  simp only [read, bind, Except.bind]
  rw [if_pos known]
  rfl

/-- Forgetting one handle leaves the four-tuple of another registered. -/
theorem Registered.forget_other {outbound : OutboundTcp} (registered : Registered outbound)
    {handle other : SocketHandle} {key : EndpointKey} (live : handle ∈ outbound.states.keys)
    (different : other ≠ handle) (found : outbound.handleToEndpoint.lookup other = some key) :
    (outbound.forget handle).handleToEndpoint.lookup other = some key ∧
      key ∈ (outbound.forget handle).listeningEndpoints := by
  have kept : (outbound.forget handle).handleToEndpoint.lookup other = some key := by
    show (outbound.handleToEndpoint.erase handle).lookup other = _
    rw [HashMap.lookup_erase_if, if_neg different, found]
  exact ⟨kept, ((registered.forget live).endpoints.mem_iff key).mpr ⟨other, kept⟩⟩

/-- In every state that any interleaving of the methods reaches: the handles with a four-tuple
are the live ones, no two share a four-tuple, and the four-tuples for which no listener is made
are theirs. So a SYN sent again while its handle lives makes no second socket, a handle keeps
its four-tuple for itself as long as it lives, and forgetting one handle leaves the others
registered. -/
theorem outbound_endpoint_bookkeeping {state : OutboundTcp × stack.Sockets}
    (reached : Reachable config state) :
    state.1.handleToEndpoint.keys = state.1.states.keys ∧
    (∀ left right key, state.1.handleToEndpoint.lookup left = some key →
      state.1.handleToEndpoint.lookup right = some key → left = right) ∧
    (∀ key, key ∈ state.1.listeningEndpoints ↔
      ∃ handle, state.1.handleToEndpoint.lookup handle = some key) ∧
    (∀ packet now key handle, parseTcpSyn packet = .ok (some key) →
      state.1.handleToEndpoint.lookup handle = some key →
      observePacket state (packet, now) = .ok state) ∧
    (∀ after handle key, Step config state after →
      state.1.handleToEndpoint.lookup handle = some key → handle ∈ after.1.states.keys →
      after.1.handleToEndpoint.lookup handle = some key ∧ key ∈ after.1.listeningEndpoints ∧
        ∀ other, after.1.handleToEndpoint.lookup other = some key → other = handle) ∧
    (∀ handle other key, handle ∈ state.1.states.keys → other ≠ handle →
      state.1.handleToEndpoint.lookup other = some key →
      (state.1.forget handle).handleToEndpoint.lookup other = some key ∧
        key ∈ (state.1.forget handle).listeningEndpoints) := by
  have registered := reached.registered
  refine ⟨registered.keys, registered.endpoints.injective, registered.endpoints.mem_iff, ?_, ?_, ?_⟩
  · intro packet now key handle read found
    exact observePacket_registered now read ((registered.endpoints.mem_iff key).mpr ⟨handle, found⟩)
  · intro after handle key step found lives
    have later := (reached.step step).registered.endpoints
    have lived : handle ∈ state.1.states.keys := by
      rw [← registered.keys]
      exact (HashMap.mem_keys_iff _ _).mpr ⟨key, found⟩
    have kept : after.1.handleToEndpoint.lookup handle = some key := by
      rw [step.endpoint reached.owns lived lives, found]
    refine ⟨kept, (later.mem_iff key).mpr ⟨handle, kept⟩, ?_⟩
    intro other also
    exact later.injective other handle key also kept
  · intro handle other key live different found
    exact registered.forget_other live different found

/-- A SYN from the namespace to port 80. -/
def synPacket : List UInt8 :=
  [0x45, 0, 0, 40, 0, 0, 0, 0, 64, 6, 0, 0, 172, 23, 255, 255, 93, 184, 216, 34,
    0x9c, 0x40, 0, 80, 0, 0, 0, 1, 0, 0, 0, 0, 0x50, 0x02, 0xff, 0xff, 0, 0, 0, 0]

/-- Everything goes out directly. -/
def directConfig : AppConfig RuleMatcher.literalRegex :=
  { defaultProxy := .direct, rules := ⟨none, [], .empty⟩, specs := [], accepted := rfl }

/-- A SYN that is seen twice between a short and an empty packet has one handle. -/
theorem outbound_endpoint_bookkeeping_retransmitted :
    ∃ state : OutboundTcp × quietStack.Sockets,
      observeSyns (fun _ => 0) [[], synPacket, synPacket.take 39, synPacket] (new, ∅) =
        .ok state ∧ state.1.states.keys = {0} ∧
      state.1.handleToEndpoint.keys = state.1.states.keys := by
  obtain ⟨state, ran, -⟩ := observeSyns_listens (fun _ => 0)
    [[], synPacket, synPacket.take 39, synPacket] ((new, ∅) : OutboundTcp × quietStack.Sockets)
  have reached : Reachable directConfig state := ⟨∅, .single (.observeSyns _ _ ran)⟩
  have seen : ((observeSyns (fun _ => 0) [[], synPacket, synPacket.take 39, synPacket]
      ((new, ∅) : OutboundTcp × quietStack.Sockets)).toOption.map fun state =>
        state.1.states.keys) = some {0} := by decide +kernel
  rw [ran] at seen
  simp only [Except.toOption, Option.map_some, Option.some.injEq] at seen
  exact ⟨state, ran, seen, (outbound_endpoint_bookkeeping reached).1⟩

end OutboundTcp

end NsProxy.EventLoop
