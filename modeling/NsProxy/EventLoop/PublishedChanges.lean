import Mathlib.Logic.Relation
import NsProxy.EventLoop.Published

/-!
# What a method of `PublishedTcp` can do

Every method is a sequence of four kinds of change: connections move between the channel and
`pending`, an accepted connection is settled, the state under one handle moves on, or a
closing handle is forgotten together with its socket and its port.
-/

namespace NsProxy.EventLoop

open Smoltcp Tokio Published

/-- The moves of the state of a connection. -/
inductive Published.State.Moves : State → State → Prop
  | wait (stream : TcpStream) (peerAddr : Endpoint) (createdAt : Nat) :
    Moves (.connecting stream peerAddr createdAt) (.connecting stream peerAddr createdAt)
  | connect (stream : TcpStream) (peerAddr : Endpoint) (createdAt : Nat) :
    Moves (.connecting stream peerAddr createdAt) (.established ⟨stream, peerAddr, [], false⟩)
  | abandon (stream : TcpStream) (peerAddr : Endpoint) (createdAt : Nat) :
    Moves (.connecting stream peerAddr createdAt) .closing
  | relay (context next : ConnectionContext) : Moves (.established context) (.established next)
  | finish (context : ConnectionContext) : Moves (.established context) .closing

namespace PublishedTcp

variable {stack : StackApi}

/-- What `attach_accepted` does with one connection. -/
inductive Settles (accepted : AcceptedConnection) :
    Outcome → PublishedTcp × stack.Sockets → PublishedTcp × stack.Sockets → Prop
  /-- It gets a port and a new socket. -/
  | attached {published : PublishedTcp} {sockets : stack.Sockets} {ports : PortAllocator}
    {port : UInt16} (socket : stack.tcp.Socket) (now : Nat)
    (allocated : published.ports.allocate = (some port, ports)) :
    Settles accepted (.attached (StackApi.add sockets (.tcp socket)).1 port) (published, sockets)
      ({ published with ports := ports }.enroll (StackApi.add sockets (.tcp socket)).1 port
        accepted now, (StackApi.add sockets (.tcp socket)).2)
  /-- There is no port. -/
  | exhausted {published : PublishedTcp} {sockets : stack.Sockets} {ports : PortAllocator}
    (allocated : published.ports.allocate = (none, ports)) :
    Settles accepted .exhausted (published, sockets) ({ published with ports := ports }, sockets)
  /-- The stack refuses, and the port is given back. -/
  | refused {published : PublishedTcp} {sockets : stack.Sockets} {ports : PortAllocator}
    {port : UInt16} (allocated : published.ports.allocate = (some port, ports)) :
    Settles accepted .refused (published, sockets)
      ({ published with ports := ports.release port }, sockets)

/-- Connections settled one after another, with what became of each. -/
inductive SettlesAll : List (AcceptedConnection × Outcome) →
    PublishedTcp × stack.Sockets → PublishedTcp × stack.Sockets → Prop
  | nil (state : PublishedTcp × stack.Sockets) : SettlesAll [] state state
  | cons {accepted : AcceptedConnection} {outcome : Outcome}
    {rest : List (AcceptedConnection × Outcome)} {before between after :
      PublishedTcp × stack.Sockets} (first : Settles accepted outcome before between)
    (later : SettlesAll rest between after) :
    SettlesAll ((accepted, outcome) :: rest) before after

/-- A change to the connection under one handle. -/
inductive ChangeAt (handle : SocketHandle) :
    PublishedTcp × stack.Sockets → PublishedTcp × stack.Sockets → Prop
  /-- Its state moves, and its socket may be used. -/
  | advanced {published : PublishedTcp} {sockets touched : stack.Sockets} {old new : State}
    (found : published.states.lookup handle = some old) (moves : old.Moves new)
    (touches : StackApi.Touches handle sockets touched) :
    ChangeAt handle (published, sockets) (published.setState handle new, touched)
  /-- It is closing and is forgotten. -/
  | removed {published : PublishedTcp} {sockets rest : stack.Sockets}
    (found : published.states.lookup handle = some .closing)
    (freed : StackApi.remove sockets handle = .ok rest) :
    ChangeAt handle (published, sockets) (published.forget handle, rest)

/-- One change. -/
inductive Change : PublishedTcp × stack.Sockets → PublishedTcp × stack.Sockets → Prop
  /-- Connections move between the channel and `pending`. -/
  | queued {published : PublishedTcp} {sockets : stack.Sockets}
    (acceptedRx pending : List AcceptedConnection) :
    Change (published, sockets)
      ({ published with acceptedRx := acceptedRx, pending := pending }, sockets)
  /-- A connection is settled. -/
  | settled {before after : PublishedTcp × stack.Sockets} {accepted : AcceptedConnection}
    {outcome : Outcome} (settles : Settles accepted outcome before after) : Change before after
  /-- A change to a connection. -/
  | changed {before after : PublishedTcp × stack.Sockets} (handle : SocketHandle)
    (change : ChangeAt handle before after) : Change before after

/-- Any number of changes. -/
abbrev Changes (before after : PublishedTcp × stack.Sockets) : Prop :=
  Relation.ReflTransGen Change before after

/-- Any number of changes to connections: the queues are left alone. -/
abbrev Works (before after : PublishedTcp × stack.Sockets) : Prop :=
  Relation.ReflTransGen (fun before after => ∃ handle, ChangeAt handle before after) before after

/-- The sockets of all connections are live TCP sockets. -/
abbrev Owns (state : PublishedTcp × stack.Sockets) : Prop :=
  Held .tcp (StackApi.kinds state.2) state.1.states.keys

/-! ## Changes keep the sockets -/

/-- A change to one connection leaves the states of the others alone. -/
theorem ChangeAt.frame {handle : SocketHandle} {before after : PublishedTcp × stack.Sockets}
    (change : ChangeAt handle before after) (other : SocketHandle) (different : other ≠ handle) :
    after.1.states.lookup other = before.1.states.lookup other := by
  cases change with
  | advanced _ _ _ =>
    show (Finmap.insert handle _ _).lookup other = _
    rw [HashMap.lookup_insert_if, if_neg different]
  | removed _ _ =>
    show (Finmap.erase handle _).lookup other = _
    rw [HashMap.lookup_erase_if, if_neg different]

/-- A change to one connection is a turn of the owner of the connections. -/
theorem ChangeAt.turn {handle : SocketHandle} {before after : PublishedTcp × stack.Sockets}
    (change : ChangeAt handle before after) (owns : Owns before) :
    Turn .tcp (StackApi.kinds before.2) before.1.states.keys (StackApi.kinds after.2)
      after.1.states.keys := by
  cases change with
  | advanced found _ touches => exact StackApi.turn_touch owns found touches _
  | removed found freed => exact StackApi.turn_remove owns found freed

/-- Settling a connection is a turn of the owner of the connections. -/
theorem Settles.turn {accepted : AcceptedConnection} {outcome : Outcome}
    {before after : PublishedTcp × stack.Sockets} (settles : Settles accepted outcome before after)
    (owns : Owns before) :
    Turn .tcp (StackApi.kinds before.2) before.1.states.keys (StackApi.kinds after.2)
      after.1.states.keys := by
  cases settles with
  | attached socket now _ => exact StackApi.turn_add owns socket _
  | exhausted _ => exact Turn.refl owns
  | refused _ => exact Turn.refl owns

/-- A change is a turn of the owner of the connections. -/
theorem Change.turn {before after : PublishedTcp × stack.Sockets} (change : Change before after)
    (owns : Owns before) :
    Turn .tcp (StackApi.kinds before.2) before.1.states.keys (StackApi.kinds after.2)
      after.1.states.keys := by
  cases change with
  | queued _ _ => exact Turn.refl owns
  | settled settles => exact settles.turn owns
  | changed handle change => exact change.turn owns

/-- Any number of changes is a turn. -/
theorem Changes.turn {before after : PublishedTcp × stack.Sockets}
    (changes : Changes before after) (owns : Owns before) :
    Turn .tcp (StackApi.kinds before.2) before.1.states.keys (StackApi.kinds after.2)
      after.1.states.keys :=
  Turn.path (fun _ _ change owns => Change.turn change owns) changes owns

/-- Changes to connections are changes. -/
theorem Works.changes {before after : PublishedTcp × stack.Sockets} (works : Works before after) :
    Changes before after := by
  induction works with
  | refl => exact .refl
  | tail _ change reached =>
    obtain ⟨handle, change⟩ := change
    exact reached.tail (.changed handle change)

/-- Changes to connections leave the queues alone. -/
theorem Works.queues {before after : PublishedTcp × stack.Sockets} (works : Works before after) :
    after.1.pending = before.1.pending ∧ after.1.acceptedRx = before.1.acceptedRx := by
  induction works with
  | refl => exact ⟨rfl, rfl⟩
  | tail _ change kept =>
    obtain ⟨handle, change⟩ := change
    cases change with
    | advanced _ _ _ => exact kept
    | removed _ _ => exact kept

/-! ## The loops make changes -/

/-- A loop over connections, each of one kind of state when it starts, changes one connection
at a time and does not panic. -/
theorem loop_works {body : PublishedTcp × stack.Sockets → SocketHandle →
      Run (PublishedTcp × stack.Sockets)} (kind : State → Bool)
    (step : ∀ handle state value, Owns state → state.1.states.lookup handle = some value →
      kind value = true → ∃ next, body state handle = .ok next ∧
        Relation.ReflGen (ChangeAt handle) state next)
    (order : IterOrder SocketHandle) (start : PublishedTcp × stack.Sockets) (owns : Owns start) :
    ∃ last, (start.1.handlesWhere order kind).foldlM body start = .ok last ∧
      Works start last := by
  obtain ⟨distinct, present⟩ := order.visit_filter start.1.states kind
  exact foldlM_changes (fun state handle => state.1.states.lookup handle) kind Owns ChangeAt
    (fun _ _ _ change => change.frame) (fun _ _ _ change owns => (change.turn owns).held)
    step distinct start owns present

/-- The move of a connection whose entry is in the map. -/
theorem advance {published : PublishedTcp} {sockets touched : stack.Sockets}
    {handle : SocketHandle} {old new : State}
    (found : published.states.lookup handle = some old) (moves : old.Moves new)
    (touches : StackApi.Touches handle sockets touched) :
    Relation.ReflGen (ChangeAt handle) (published, sockets)
      (published.setState handle new, touched) :=
  .single (.advanced found moves touches)

/-- The move of a connection whose entry was taken out of the map. -/
theorem advance_removed {published : PublishedTcp} {sockets touched : stack.Sockets}
    {handle : SocketHandle} {old new : State}
    (found : published.states.lookup handle = some old) (moves : old.Moves new)
    (touches : StackApi.Touches handle sockets touched) :
    Relation.ReflGen (ChangeAt handle) (published, sockets)
      ({ published with states := published.states.erase handle }.setState handle new,
        touched) := by
  have back : { published with states := published.states.erase handle }.setState handle new =
      published.setState handle new := by
    simp only [setState]
    rw [HashMap.insert_erase_self]
  rw [back]
  exact advance found moves touches

/-- One handle of `poll_connecting`. -/
theorem pollConnect_changes (clock : Nat → Nat) (handle : SocketHandle)
    (state : PublishedTcp × stack.Sockets) (value : State) (owns : Owns state)
    (found : state.1.states.lookup handle = some value) (shape : value.isConnecting = true) :
    ∃ next, pollConnect clock state handle = .ok next ∧
      Relation.ReflGen (ChangeAt handle) state next := by
  obtain ⟨published, sockets⟩ := state
  obtain ⟨typed, socket, got⟩ := StackApi.held_getTcp owns found
  cases value with
  | connecting stream peerAddr createdAt =>
    unfold pollConnect
    simp only [found, got, bind, Except.bind]
    split
    · exact ⟨_, rfl, advance_removed found (.connect stream peerAddr createdAt)
        (.refl handle sockets)⟩
    · split
      · exact ⟨_, rfl, advance_removed found (.abandon stream peerAddr createdAt)
          (.refl handle sockets)⟩
      · split
        · exact ⟨_, rfl, advance_removed found (.abandon stream peerAddr createdAt)
            (StackApi.touches_set typed)⟩
        · exact ⟨_, rfl, advance_removed found (.wait stream peerAddr createdAt)
            (.refl handle sockets)⟩
  | established _ => contradiction
  | closing => contradiction

/-- One handle of `shuttle_established`. -/
theorem shuttleHandle_changes (handle : SocketHandle) (state : PublishedTcp × stack.Sockets)
    (value : State) (owns : Owns state) (found : state.1.states.lookup handle = some value) :
    ∃ next, shuttleHandle state handle = .ok next ∧
      Relation.ReflGen (ChangeAt handle) state next := by
  obtain ⟨published, sockets⟩ := state
  obtain ⟨typed, socket, got⟩ := StackApi.held_getTcp owns found
  unfold shuttleHandle
  simp only [found]
  cases value with
  | established context =>
    simp only [got, bind, Except.bind]
    refine ⟨_, rfl, ?_⟩
    cases (shuttle context socket).2.2 with
    | true => exact advance found (.finish context) (StackApi.touches_set typed)
    | false => exact advance found (.relay context _) (StackApi.touches_set typed)
  | connecting _ _ _ => exact ⟨_, rfl, .refl⟩
  | closing => exact ⟨_, rfl, .refl⟩

/-- One handle of `cleanup`. -/
theorem cleanupHandle_changes (handle : SocketHandle) (state : PublishedTcp × stack.Sockets)
    (value : State) (owns : Owns state) (found : state.1.states.lookup handle = some value)
    (shape : value.isClosing = true) :
    ∃ next, cleanupHandle state handle = .ok next ∧
      Relation.ReflGen (ChangeAt handle) state next := by
  obtain ⟨published, sockets⟩ := state
  have closing : value = .closing := by
    cases value with
    | closing => rfl
    | _ => contradiction
  subst closing
  obtain ⟨rest, freed, _⟩ := StackApi.held_remove owns found
  refine ⟨(published.forget handle, rest), ?_, .single (.removed found freed)⟩
  unfold cleanupHandle
  rw [freed]
  rfl

/-! ## The methods make changes -/

/-- One connection of `attach_accepted`. -/
theorem attach_settles (now : Nat) (interface : stack.Interface)
    (state : PublishedTcp × stack.Sockets) (accepted : AcceptedConnection) :
    Settles accepted (attach now interface state accepted).1 state
      (attach now interface state accepted).2.2 := by
  obtain ⟨published, sockets⟩ := state
  unfold attach
  rcases allocated : published.ports.allocate with ⟨_ | port, ports⟩
  · simp only [allocated]
    exact .exhausted allocated
  · simp only [allocated]
    rcases stack.connect interface stack.tcp.new ⟨tunAddr, accepted.spec.namespacePort⟩
      ⟨tunGw, port⟩ with ⟨_ | socket, _⟩
    · exact .refused allocated
    · exact .attached socket now allocated

/-- The loop of `attach_accepted` settles every connection once, in order. -/
theorem attachAll_settles (connections : List (AcceptedConnection × Nat))
    (interface : stack.Interface) (state : PublishedTcp × stack.Sockets) :
    SettlesAll (attachAll interface state connections).1 state
        (attachAll interface state connections).2.2 ∧
      (attachAll interface state connections).1.map Prod.fst = connections.map Prod.fst := by
  induction connections generalizing interface state with
  | nil => exact ⟨.nil state, rfl⟩
  | cons connection rest ih =>
    obtain ⟨accepted, now⟩ := connection
    have first := attach_settles now interface state accepted
    have later := ih (attach now interface state accepted).2.1
      (attach now interface state accepted).2.2
    simp only [attachAll, List.map_cons]
    exact ⟨.cons first later.1, congrArg (accepted :: ·) later.2⟩

/-- Settling connections makes changes. -/
theorem SettlesAll.changes {settled : List (AcceptedConnection × Outcome)}
    {before after : PublishedTcp × stack.Sockets} (settles : SettlesAll settled before after) :
    Changes before after := by
  induction settles with
  | nil _ => exact .refl
  | cons first _ changes => exact changes.head (.settled first)

/-- `attach_accepted` makes changes. -/
theorem attachAccepted_changes (clock : Nat → Nat) (late : List AcceptedConnection)
    (interface : stack.Interface) (state : PublishedTcp × stack.Sockets) :
    Changes state (attachAccepted clock late interface state).2.2 := by
  have loop := (attachAll_settles ((state.1.receiveAll late).pending.zipIdx.map fun accepted =>
    (accepted.1, clock accepted.2)) interface
      ({ state.1.receiveAll late with pending := [] }, state.2)).1
  exact loop.changes.head (.queued [] [])

/-- `process` works on connections and does not panic. -/
theorem process_works (input : ProcessInput) (state : PublishedTcp × stack.Sockets)
    (owns : Owns state) : ∃ next, process input state = .ok next ∧ Works state next := by
  obtain ⟨polled, ran, first⟩ := loop_works State.isConnecting
    (pollConnect_changes input.clock) input.connectOrder state owns
  obtain ⟨last, relayed, second⟩ := loop_works State.isEstablished
    (fun handle now value owns found _ => shuttleHandle_changes handle now value owns found)
    input.shuttleOrder polled (first.changes.turn owns).held
  refine ⟨last, ?_, first.trans second⟩
  unfold process
  rw [show pollConnecting input.clock input.connectOrder state = .ok polled from ran]
  exact relayed

/-- `poll_ready` moves at most one connection, changes no socket and does not panic. -/
theorem pollReady_ok (input : PollInput) (state : PublishedTcp × stack.Sockets)
    (owns : Owns state) :
    ∃ ready, pollReady input state = .ok (ready, (state.1.pollRecv input.yields).2, state.2) := by
  obtain ⟨published, sockets⟩ := state
  have same : (published.pollRecv input.yields).2.states = published.states := by
    unfold pollRecv
    cases published.acceptedRx with
    | nil => rfl
    | cons accepted rest =>
      simp only
      split <;> rfl
  have kept : Owns ((published.pollRecv input.yields).2, sockets) := by
    unfold Owns
    rw [same]
    exact owns
  have step : ∀ handle ∈ input.readyOrder.visit (published.pollRecv input.yields).2.states.keys,
      ∀ ready, True → ∃ next,
        pollHandle (published.pollRecv input.yields).2 sockets ready handle = .ok next ∧ True := by
    intro handle member ready _
    obtain ⟨value, found⟩ := input.readyOrder.visit_entries _ handle member
    obtain ⟨_, socket, got⟩ := StackApi.held_getTcp kept found
    unfold pollHandle
    simp only [found]
    cases value with
    | established context =>
      simp only [got, bind, Except.bind]
      exact ⟨_, rfl, trivial⟩
    | connecting _ _ _ => exact ⟨_, rfl, trivial⟩
    | closing => exact ⟨_, rfl, trivial⟩
  obtain ⟨final, read, _⟩ := foldlM_all (fun _ => True) step
    (published.pollRecv input.yields).1 trivial
  refine ⟨final, ?_⟩
  unfold pollReady
  simp only [bind, Except.bind, read]
  rfl

/-- Receiving from the channel makes a change. -/
theorem pollRecv_changes (published : PublishedTcp) (sockets : stack.Sockets) (yields : Bool) :
    Changes (published, sockets) ((published.pollRecv yields).2, sockets) := by
  unfold pollRecv
  cases published.acceptedRx with
  | nil => exact .refl
  | cons accepted rest =>
    simp only
    split
    · exact .refl
    · exact .single (.queued _ _)

/-- `cleanup` works on connections and does not panic. -/
theorem cleanup_works (order : IterOrder SocketHandle) (state : PublishedTcp × stack.Sockets)
    (owns : Owns state) : ∃ next, cleanup order state = .ok next ∧ Works state next :=
  loop_works State.isClosing cleanupHandle_changes order state owns

end PublishedTcp

end NsProxy.EventLoop
