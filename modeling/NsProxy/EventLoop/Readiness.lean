import NsProxy.EventLoop.Attempts
import NsProxy.EventLoop.Listeners

/-!
# Waking up for what the relays will do

`poll_ready` decides whether the event loop wakes up, and `shuttle_established` what it then
does with the streams. Both walk all connections, with conditions written in two places. In
every state that the loop reaches, and whatever the streams have become ready for in the
meantime, a stream is polled exactly for what the shuttle would try on it. So the poll is ready
when some attempt would find its stream ready, and besides only when a connect task or an
accepted connection is, or when the client of a connect task has gone.
-/

namespace NsProxy.EventLoop

open Smoltcp Tokio

/-- The sockets that the component finds under a handle are those of an equal entry. -/
theorem getTcp_congr {stack : StackApi} {before after : stack.Sockets} {handle : SocketHandle}
    (same : after.lookup handle = before.lookup handle) :
    StackApi.getTcp after handle = StackApi.getTcp before handle := by
  unfold StackApi.getTcp
  rw [same]

/-- Changing a socket leaves the others alone. -/
theorem getTcp_set_of_ne {stack : StackApi} (sockets : stack.Sockets) {handle other : SocketHandle}
    (socket : stack.tcp.Socket) (different : other ≠ handle) :
    StackApi.getTcp (StackApi.set sockets handle (.tcp socket)) other =
      StackApi.getTcp sockets other := by
  apply getTcp_congr
  rw [StackApi.set, HashMap.lookup_insert_if, if_neg different]

/-- A walk over all keys and one over the keys of one kind both come to a key of that kind. -/
theorem visited_iff {ν : Type} {map : HashMap SocketHandle ν} {kind : ν → Bool}
    {handle : SocketHandle} {value : ν} (found : map.lookup handle = some value)
    (shape : kind value = true) (all part : IterOrder SocketHandle) :
    handle ∈ all.visit map.keys ↔
      handle ∈ (part.visit map.keys).filter fun key => (map.lookup key).any kind := by
  have inside : handle ∈ map.keys := (HashMap.mem_keys_iff map handle).mpr ⟨value, found⟩
  rw [List.mem_filter, all.mem_visit, part.mem_visit, found]
  exact ⟨fun _ => ⟨inside, shape⟩, fun _ => inside⟩

/-- Whether one of the polled directions is ready. -/
theorem any_pollsIf {read write : Prop} [Decidable read] [Decidable write]
    (ready : Direction → Bool) :
    (pollsIf read write).any ready =
      (decide (read ∧ ready .read = true) || decide (write ∧ ready .write = true)) := by
  rw [Bool.eq_iff_iff, List.any_eq_true]
  simp only [mem_pollsIf, Bool.or_eq_true, decide_eq_true_eq]
  constructor
  · rintro ⟨way, ⟨holds, rfl⟩ | ⟨holds, rfl⟩, fine⟩
    · exact Or.inl ⟨holds, fine⟩
    · exact Or.inr ⟨holds, fine⟩
  · rintro (⟨holds, fine⟩ | ⟨holds, fine⟩)
    · exact ⟨.read, Or.inl ⟨holds, rfl⟩, fine⟩
    · exact ⟨.write, Or.inr ⟨holds, rfl⟩, fine⟩

/-! ## Outbound connections -/

namespace OutboundTcp

open Outbound

variable {stack : StackApi} {regex : RegexApi}

/-- The established connection under a handle, with its socket. -/
def connection (state : OutboundTcp × stack.Sockets) (handle : SocketHandle) :
    Option (ForwardContext × stack.tcp.Socket) :=
  match state.1.states.lookup handle, StackApi.getTcp state.2 handle with
  | some (.established context), .ok socket => some (context, socket)
  | _, _ => none

/-- Under a handle whose entry is established, the connection is found with its socket. -/
theorem connection_eq_some {state : OutboundTcp × stack.Sockets} {handle : SocketHandle}
    {context : ForwardContext} {socket : stack.tcp.Socket}
    (found : state.1.states.lookup handle = some (.established context))
    (got : StackApi.getTcp state.2 handle = .ok socket) :
    connection state handle = some (context, socket) := by
  unfold connection
  rw [found, got]

/-- Under any other handle there is no connection. -/
theorem connection_eq_none {state : OutboundTcp × stack.Sockets} {handle : SocketHandle}
    (other : ∀ context, state.1.states.lookup handle ≠ some (.established context)) :
    connection state handle = none := by
  unfold connection
  split
  · rename_i context socket found _
    exact absurd found (other context)
  · rfl

/-- What `shuttle_established` tries on the streams, in order. -/
def attempted (order : IterOrder SocketHandle) (state : OutboundTcp × stack.Sockets) :
    Run (List (SocketHandle × Attempt)) :=
  observed shuttleHandle
    (fun now => Readiness.tagged (connection now) fun found => attempts found.1 found.2)
    (state.1.handlesWhere order State.isEstablished) state

/-- What `poll_ready` polls the streams for, in order. -/
def polled (input : PollInput) (state : OutboundTcp × stack.Sockets) :
    Run (List (SocketHandle × Direction)) := do
  let ((_, outbound), sockets) ← pollConnecting input.polls input.connectOrder state
  return (input.readyOrder.visit outbound.states.keys).flatMap
    (Readiness.tagged (connection (outbound, sockets)) fun found => polls found.1 found.2)

/-- A connection is read off its entry and its socket alone. -/
theorem connection_congr {before after : OutboundTcp × stack.Sockets} {handle : SocketHandle}
    (state : after.1.states.lookup handle = before.1.states.lookup handle)
    (socket : StackApi.getTcp after.2 handle = StackApi.getTcp before.2 handle) :
    connection after handle = connection before handle := by
  unfold connection
  rw [state, socket]

/-- A round on one connection leaves the others alone. -/
theorem connection_shuttleHandle {state next : OutboundTcp × stack.Sockets} {handle : SocketHandle}
    (ran : shuttleHandle state handle = .ok next) {other : SocketHandle}
    (different : other ≠ handle) : connection next other = connection state other := by
  obtain ⟨outbound, sockets⟩ := state
  unfold shuttleHandle at ran
  dsimp only at ran
  split at ran
  · contradiction
  · obtain ⟨socket, got, ran⟩ := Error.bind_eq_ok.mp ran
    have same := Except.ok.inj ran
    rw [← same]
    apply connection_congr
    · rw [setState, HashMap.lookup_insert_if, if_neg different]
    · exact getTcp_set_of_ne _ _ different
  · have same := Except.ok.inj ran
    rw [same]

/-- The shuttle tries on each connection what a round on it would try at the start. -/
theorem attempted_eq (config : AppConfig regex) (order : IterOrder SocketHandle)
    {state : OutboundTcp × stack.Sockets} (owns : Owns state) :
    attempted order state = .ok ((state.1.handlesWhere order State.isEstablished).flatMap
      (Readiness.tagged (connection state) fun found => attempts found.1 found.2)) := by
  have walk := order.visit_filter state.1.states State.isEstablished
  obtain ⟨last, ran, -⟩ := loop_acts id State.isEstablished
    (fun handle now value owns found _ =>
      shuttleHandle_acts config none handle now value owns found)
    walk.1 state owns walk.2
  apply observed_eq _ walk.1 ran
  intro now handle next stepped other different
  unfold Readiness.tagged
  rw [connection_shuttleHandle stepped different]

/-- Polling the connection under a handle finds its stream ready. -/
def pollsReady (state : OutboundTcp × stack.Sockets) (handle : SocketHandle) : Bool :=
  (connection state handle).any fun found =>
    (polls found.1 found.2).any (StreamKind.proxy.ready found.1.stream)

/-- One connection of the loop of `poll_ready`. -/
theorem pollHandle_eq {state : OutboundTcp × stack.Sockets} {ready next : Bool}
    {handle : SocketHandle} (ran : pollHandle state.1 state.2 ready handle = .ok next) :
    next = (ready || pollsReady state handle) := by
  unfold pollHandle at ran
  unfold pollsReady
  split at ran
  · rename_i context found
    obtain ⟨socket, got, ran⟩ := Error.bind_eq_ok.mp ran
    have same := Except.ok.inj ran
    rw [← same, connection_eq_some found got, Option.any_some, polls, any_pollsIf, Bool.or_assoc]
    congr 2
    · simp only [StreamKind.proxy, and_assoc]
    · rw [Bool.eq_iff_iff, Bool.and_eq_true, decide_eq_true_eq]
      rfl
  · rename_i other
    have same := Except.ok.inj ran
    rw [connection_eq_none other, Option.any_none, Bool.or_false, same]

/-- The wait for a connect task ends: the task is ready, or its client has gone. -/
def waitEnds (polls : Nat → TaskPoll) (state : OutboundTcp × stack.Sockets)
    (handle : SocketHandle) : Bool :=
  match state.1.states.lookup handle with
  | some (.connecting task) =>
    match polls task.id with
    | .pending =>
      match StackApi.getTcp state.2 handle with
      | .ok socket => clientGone (stack.tcp.state socket)
      | .error _ => false
    | _ => true
  | _ => false

/-- The end of a wait is read off the entry and the socket alone. -/
theorem waitEnds_congr {polls : Nat → TaskPoll} {before after : OutboundTcp × stack.Sockets}
    {handle : SocketHandle} (state : after.1.states.lookup handle = before.1.states.lookup handle)
    (socket : StackApi.getTcp after.2 handle = StackApi.getTcp before.2 handle) :
    waitEnds polls after handle = waitEnds polls before handle := by
  unfold waitEnds
  rw [state, socket]

/-- While its task is pending, the wait for it ends only when its client has gone. -/
theorem waitEnds_iff {polls : Nat → TaskPoll} {state : OutboundTcp × stack.Sockets}
    {handle : SocketHandle} (pending : ∀ task,
      state.1.states.lookup handle = some (.connecting task) → polls task.id = .pending) :
    waitEnds polls state handle = true ↔ ∃ task socket,
      state.1.states.lookup handle = some (.connecting task) ∧
        StackApi.getTcp state.2 handle = .ok socket ∧
        clientGone (stack.tcp.state socket) = true := by
  unfold waitEnds
  split
  · rename_i task found
    rw [pending task found]
    dsimp only
    cases got : StackApi.getTcp state.2 handle with
    | error panic => simp
    | ok socket =>
      constructor
      · intro gone
        exact ⟨task, socket, found, rfl, gone⟩
      · rintro ⟨_, other, -, same, gone⟩
        rw [Except.ok.inj same]
        exact gone
  · rename_i other
    simp only [Bool.false_eq_true, false_iff, not_exists, not_and]
    intro task socket found
    exact absurd found (other task)

/-- A state put back under a handle leaves the others alone. -/
theorem lookup_setState_erase (outbound : OutboundTcp) {handle other : SocketHandle}
    (events : List TaskEvent) (value : State) (different : other ≠ handle) :
    ({ outbound with states := outbound.states.erase handle, taskLog := events }.setState handle
      value).states.lookup other = outbound.states.lookup other := by
  rw [setState, HashMap.lookup_insert_if, if_neg different, HashMap.lookup_erase_if,
    if_neg different]

/-- One handle of `poll_connecting` reports the end of its wait and leaves the others alone. -/
theorem pollConnect_eq {polls : Nat → TaskPoll} {now next : (Bool × OutboundTcp) × stack.Sockets}
    {handle : SocketHandle} (ran : pollConnect polls now handle = .ok next) :
    next.1.1 = (now.1.1 || waitEnds polls (now.1.2, now.2) handle) ∧
      ∀ other, other ≠ handle →
        next.1.2.states.lookup other = now.1.2.states.lookup other ∧
          StackApi.getTcp next.2 other = StackApi.getTcp now.2 other := by
  obtain ⟨⟨ready, outbound⟩, sockets⟩ := now
  unfold pollConnect at ran
  unfold waitEnds
  dsimp only at ran ⊢
  split at ran
  · contradiction
  · rename_i task found
    rw [found]
    dsimp only
    split at ran
    · rename_i stream finished
      have same := Except.ok.inj ran
      rw [← same, finished]
      refine ⟨(Bool.or_true ready).symm, ?_⟩
      intro other different
      exact ⟨lookup_setState_erase outbound _ _ different, rfl⟩
    · rename_i causes failed
      obtain ⟨socket, got, ran⟩ := Error.bind_eq_ok.mp ran
      have same := Except.ok.inj ran
      rw [← same, failed]
      refine ⟨(Bool.or_true ready).symm, ?_⟩
      intro other different
      exact ⟨lookup_setState_erase outbound _ _ different, getTcp_set_of_ne sockets _ different⟩
    · rename_i message panicked
      obtain ⟨socket, got, ran⟩ := Error.bind_eq_ok.mp ran
      have same := Except.ok.inj ran
      rw [← same, panicked]
      refine ⟨(Bool.or_true ready).symm, ?_⟩
      intro other different
      exact ⟨lookup_setState_erase outbound _ _ different, getTcp_set_of_ne sockets _ different⟩
    · rename_i pending
      obtain ⟨socket, got, ran⟩ := Error.bind_eq_ok.mp ran
      rw [pending, got]
      dsimp only at ran ⊢
      by_cases gone : clientGone (stack.tcp.state socket) = true
      · rw [if_pos gone] at ran
        have same := Except.ok.inj ran
        rw [← same, gone]
        refine ⟨(Bool.or_true ready).symm, ?_⟩
        intro other different
        exact ⟨lookup_setState_erase outbound _ _ different, getTcp_set_of_ne sockets _ different⟩
      · rw [if_neg gone] at ran
        have same := Except.ok.inj ran
        rw [Bool.not_eq_true] at gone
        rw [← same, gone]
        refine ⟨(Bool.or_false ready).symm, ?_⟩
        intro other different
        exact ⟨lookup_setState_erase outbound _ _ different, rfl⟩
  · contradiction

/-- `poll_connecting` is ready exactly when the wait for some connect task ends. -/
theorem pollConnecting_eq {polls : Nat → TaskPoll} {order : IterOrder SocketHandle}
    {state : OutboundTcp × stack.Sockets} {next : (Bool × OutboundTcp) × stack.Sockets}
    (ran : pollConnecting polls order state = .ok next) :
    next.1.1 = true ↔ ∃ handle, waitEnds polls state handle = true := by
  have walk := order.visit_filter state.1.states State.isConnecting
  have raised := foldlM_flag (fun now : (Bool × OutboundTcp) × stack.Sockets => now.1.1)
    (fun now => waitEnds polls (now.1.2, now.2)) (fun _ _ _ ran => (pollConnect_eq ran).1)
    (by
      intro now handle next ran other different
      have frame := (pollConnect_eq ran).2 other different
      exact waitEnds_congr frame.1 frame.2)
    walk.1 ran
  rw [raised, Bool.false_or, List.any_eq_true]
  constructor
  · rintro ⟨handle, -, ends⟩
    exact ⟨handle, ends⟩
  · rintro ⟨handle, ends⟩
    refine ⟨handle, ?_, ends⟩
    rw [List.mem_filter, order.mem_visit, HashMap.mem_keys_iff]
    unfold waitEnds at ends
    split at ends
    · rename_i task found
      rw [found]
      exact ⟨⟨_, rfl⟩, rfl⟩
    · contradiction

/-- Both walks come to every established connection. -/
theorem connection_visited {state : OutboundTcp × stack.Sockets}
    (all part : IterOrder SocketHandle) (handle : SocketHandle)
    (present : connection state handle ≠ none) :
    handle ∈ all.visit state.1.states.keys ↔
      handle ∈ state.1.handlesWhere part State.isEstablished := by
  have relayed : ∃ context, state.1.states.lookup handle = some (.established context) := by
    by_contra other
    exact present (connection_eq_none (not_exists.mp other))
  obtain ⟨context, found⟩ := relayed
  exact visited_iff found rfl all part

/-- `poll_ready` polls for what the shuttle then tries, and is ready when an attempt would find
its stream ready or the wait for a connect task ends. -/
theorem pollReady_agrees (config : AppConfig regex) (buffers : TcpBuffers stack.tcp)
    {state : OutboundTcp × stack.Sockets} (owns : Owns state) (input : PollInput)
    (order : IterOrder SocketHandle) :
    ∃ ready next seen tried, pollReady input state = .ok (ready, next) ∧
      polled input state = .ok seen ∧ attempted order next = .ok tried ∧
      (∀ handle way, (handle, way) ∈ seen ↔
        ∃ attempt, (handle, attempt) ∈ tried ∧ attempt.direction = way) ∧
      (ready = true ↔ (∃ handle attempt, (handle, attempt) ∈ tried ∧ attempt.ready = true) ∨
        ∃ handle, waitEnds input.polls state handle = true) := by
  obtain ⟨ready, next, ran, acts⟩ := pollReady_acts config input state owns
  have kept : Owns next := (acts.works.changes.turn owns).held
  have polling := ran
  unfold pollReady at polling
  obtain ⟨⟨⟨waited, outbound⟩, sockets⟩, connected, polling⟩ := Error.bind_eq_ok.mp polling
  obtain ⟨final, looped, polling⟩ := Error.bind_eq_ok.mp polling
  have same := Except.ok.inj polling
  rw [Prod.mk.injEq] at same
  obtain ⟨rfl, rfl⟩ := same
  have raised := foldlM_flag id (fun _ => pollsReady (outbound, sockets))
    (fun _ _ _ ran => pollHandle_eq ran) (fun _ _ _ _ _ _ => rfl)
    (input.readyOrder.nodup outbound.states.keys) looped
  have covers := @connection_visited stack (outbound, sockets) input.readyOrder order
  refine ⟨final, (outbound, sockets), _, _, ran, ?_, attempted_eq config order kept,
    Readiness.mem_polls_iff (polls_match buffers) covers, ?_⟩
  · unfold polled
    simp only [connected, bind, Except.bind]
    rfl
  · have waits := pollConnecting_eq connected
    have tries := Readiness.any_polls_iff (polls_match buffers) covers
    rw [show final = (waited || _) from raised, Bool.or_eq_true, ← waits, ← tries, or_comm]
    rfl

end OutboundTcp

/-! ## Published connections -/

namespace PublishedTcp

open Published

variable {stack : StackApi}

/-- The established connection under a handle, with its socket. -/
def connection (state : PublishedTcp × stack.Sockets) (handle : SocketHandle) :
    Option (ConnectionContext × stack.tcp.Socket) :=
  match state.1.states.lookup handle, StackApi.getTcp state.2 handle with
  | some (.established context), .ok socket => some (context, socket)
  | _, _ => none

/-- Under a handle whose entry is established, the connection is found with its socket. -/
theorem connection_eq_some {state : PublishedTcp × stack.Sockets} {handle : SocketHandle}
    {context : ConnectionContext} {socket : stack.tcp.Socket}
    (found : state.1.states.lookup handle = some (.established context))
    (got : StackApi.getTcp state.2 handle = .ok socket) :
    connection state handle = some (context, socket) := by
  unfold connection
  rw [found, got]

/-- Under any other handle there is no connection. -/
theorem connection_eq_none {state : PublishedTcp × stack.Sockets} {handle : SocketHandle}
    (other : ∀ context, state.1.states.lookup handle ≠ some (.established context)) :
    connection state handle = none := by
  unfold connection
  split
  · rename_i context socket found _
    exact absurd found (other context)
  · rfl

/-- What `shuttle_established` tries on the streams, in order. -/
def attempted (order : IterOrder SocketHandle) (state : PublishedTcp × stack.Sockets) :
    Run (List (SocketHandle × Attempt)) :=
  observed shuttleHandle
    (fun now => Readiness.tagged (connection now) fun found => attempts found.1 found.2)
    (state.1.handlesWhere order State.isEstablished) state

/-- What `poll_ready` polls the streams for, in order. -/
def polled (input : PollInput) (state : PublishedTcp × stack.Sockets) :
    List (SocketHandle × Direction) :=
  let (_, published) := state.1.pollRecv input.yields
  (input.readyOrder.visit published.states.keys).flatMap
    (Readiness.tagged (connection (published, state.2)) fun found => polls found.1 found.2)

/-- A round on one connection leaves the others alone. -/
theorem connection_shuttleHandle {state next : PublishedTcp × stack.Sockets}
    {handle : SocketHandle} (ran : shuttleHandle state handle = .ok next) {other : SocketHandle}
    (different : other ≠ handle) : connection next other = connection state other := by
  obtain ⟨published, sockets⟩ := state
  unfold shuttleHandle at ran
  dsimp only at ran
  split at ran
  · contradiction
  · obtain ⟨socket, got, ran⟩ := Error.bind_eq_ok.mp ran
    have same := Except.ok.inj ran
    rw [← same, connection, connection, setState, HashMap.lookup_insert_if, if_neg different,
      getTcp_set_of_ne _ _ different]
  · have same := Except.ok.inj ran
    rw [same]

/-- The shuttle tries on each connection what a round on it would try at the start. -/
theorem attempted_eq (order : IterOrder SocketHandle) {state : PublishedTcp × stack.Sockets}
    (owns : Owns state) :
    attempted order state = .ok ((state.1.handlesWhere order State.isEstablished).flatMap
      (Readiness.tagged (connection state) fun found => attempts found.1 found.2)) := by
  have walk := order.visit_filter state.1.states State.isEstablished
  obtain ⟨last, ran, -⟩ := loop_works State.isEstablished
    (fun handle now value owns found _ => shuttleHandle_changes handle now value owns found) order
    state owns
  apply observed_eq _ walk.1 ran
  intro now handle next stepped other different
  unfold Readiness.tagged
  rw [connection_shuttleHandle stepped different]

/-- Polling the connection under a handle finds its stream ready. -/
def pollsReady (state : PublishedTcp × stack.Sockets) (handle : SocketHandle) : Bool :=
  (connection state handle).any fun found =>
    (polls found.1 found.2).any (StreamKind.tcp.ready found.1.stream)

/-- One connection of the loop of `poll_ready`. -/
theorem pollHandle_eq {state : PublishedTcp × stack.Sockets} {ready next : Bool}
    {handle : SocketHandle} (ran : pollHandle state.1 state.2 ready handle = .ok next) :
    next = (ready || pollsReady state handle) := by
  unfold pollHandle at ran
  unfold pollsReady
  split at ran
  · rename_i context found
    obtain ⟨socket, got, ran⟩ := Error.bind_eq_ok.mp ran
    have same := Except.ok.inj ran
    rw [← same, connection_eq_some found got, Option.any_some, polls, any_pollsIf, Bool.or_assoc]
    congr 2
    · simp only [StreamKind.tcp, and_assoc]
    · rw [Bool.eq_iff_iff, Bool.and_eq_true, decide_eq_true_eq]
      rfl
  · rename_i other
    have same := Except.ok.inj ran
    rw [connection_eq_none other, Option.any_none, Bool.or_false, same]

/-- Both walks come to every established connection. -/
theorem connection_visited {state : PublishedTcp × stack.Sockets}
    (all part : IterOrder SocketHandle) (handle : SocketHandle)
    (present : connection state handle ≠ none) :
    handle ∈ all.visit state.1.states.keys ↔
      handle ∈ state.1.handlesWhere part State.isEstablished := by
  have relayed : ∃ context, state.1.states.lookup handle = some (.established context) := by
    by_contra other
    exact present (connection_eq_none (not_exists.mp other))
  obtain ⟨context, found⟩ := relayed
  exact visited_iff found rfl all part

/-- `poll_ready` polls for what the shuttle then tries, and is ready when an attempt would find
its stream ready or an accepted connection is received. -/
theorem pollReady_agrees (buffers : TcpBuffers stack.tcp) {state : PublishedTcp × stack.Sockets}
    (owns : Owns state) (input : PollInput) (order : IterOrder SocketHandle) :
    ∃ ready next tried, pollReady input state = .ok (ready, next) ∧
      attempted order next = .ok tried ∧
      (∀ handle way, (handle, way) ∈ polled input state ↔
        ∃ attempt, (handle, attempt) ∈ tried ∧ attempt.direction = way) ∧
      (ready = true ↔ (∃ handle attempt, (handle, attempt) ∈ tried ∧ attempt.ready = true) ∨
        (state.1.pollRecv input.yields).1 = true) := by
  obtain ⟨ready, ran⟩ := pollReady_ok input state owns
  have kept : Owns ((state.1.pollRecv input.yields).2, state.2) :=
    (Changes.turn (pollRecv_changes state.1 state.2 input.yields) owns).held
  have polling := ran
  unfold pollReady at polling
  obtain ⟨final, looped, polling⟩ := Error.bind_eq_ok.mp polling
  have same := Except.ok.inj polling
  rw [Prod.mk.injEq] at same
  obtain ⟨rfl, -⟩ := same
  have raised := foldlM_flag id
    (fun _ => pollsReady ((state.1.pollRecv input.yields).2, state.2))
    (fun _ _ _ ran => pollHandle_eq ran) (fun _ _ _ _ _ _ => rfl)
    (input.readyOrder.nodup (state.1.pollRecv input.yields).2.states.keys) looped
  have covers := @connection_visited stack ((state.1.pollRecv input.yields).2, state.2)
    input.readyOrder order
  refine ⟨final, _, _, ran, attempted_eq order kept,
    Readiness.mem_polls_iff (polls_match buffers) covers, ?_⟩
  have tries := Readiness.any_polls_iff (polls_match buffers) covers
  rw [show final = ((state.1.pollRecv input.yields).1 || _) from raised, Bool.or_eq_true, ← tries,
    or_comm]
  rfl

end PublishedTcp

/-! ## In every reachable state -/

/-- A stream that meanwhile became ready, or no longer is: what its next calls find is open. -/
def Rescheduled (before after : TcpStream) : Prop :=
  ∃ incoming outgoing, after = { before with incoming := incoming, outgoing := outgoing }

/-- The same outbound connections, with any readiness of their streams. -/
structure OutboundTcp.Rescheduled (before after : OutboundTcp) : Prop where
  /-- Nothing but the streams differs. -/
  rest : after = { before with states := after.states }
  /-- Established connections keep all but what the next calls on their streams find. -/
  established : ∀ handle context, before.states.lookup handle = some (.established context) →
    ∃ inner, EventLoop.Rescheduled context.stream.inner inner ∧ after.states.lookup handle =
      some (.established { context with stream := { context.stream with inner := inner } })
  /-- The other entries are the same. -/
  others : ∀ handle,
    (∀ context, before.states.lookup handle ≠ some (.established context)) →
      after.states.lookup handle = before.states.lookup handle

/-- The same published connections, with any readiness of their streams. -/
structure PublishedTcp.Rescheduled (before after : PublishedTcp) : Prop where
  /-- Nothing but the streams differs. -/
  rest : after = { before with states := after.states }
  /-- Established connections keep all but what the next calls on their streams find. -/
  established : ∀ handle context, before.states.lookup handle = some (.established context) →
    ∃ stream, EventLoop.Rescheduled context.stream stream ∧ after.states.lookup handle =
      some (.established { context with stream := stream })
  /-- The other entries are the same. -/
  others : ∀ handle,
    (∀ context, before.states.lookup handle ≠ some (.established context)) →
      after.states.lookup handle = before.states.lookup handle

/-- Maps whose entries differ only at one kind of value have the same keys. -/
theorem keys_of_entries {ν χ : Type} {before after : HashMap SocketHandle ν} (kind : χ → ν)
    (kept : ∀ handle context, before.lookup handle = some (kind context) →
      ∃ value, after.lookup handle = some value)
    (others : ∀ handle, (∀ context, before.lookup handle ≠ some (kind context)) →
      after.lookup handle = before.lookup handle) : after.keys = before.keys := by
  ext handle
  rw [HashMap.mem_keys_iff, HashMap.mem_keys_iff]
  by_cases relayed : ∃ context, before.lookup handle = some (kind context)
  · obtain ⟨context, found⟩ := relayed
    have still := kept handle context found
    exact ⟨fun _ => ⟨_, found⟩, fun _ => still⟩
  · rw [others handle (not_exists.mp relayed)]

/-- The same outbound connections have the same handles. -/
theorem OutboundTcp.Rescheduled.keys {before after : OutboundTcp}
    (same : Rescheduled before after) : after.states.keys = before.states.keys := by
  apply keys_of_entries _ _ same.others
  intro handle context found
  obtain ⟨inner, -, changed⟩ := same.established handle context found
  exact ⟨_, changed⟩

/-- The same published connections have the same handles. -/
theorem PublishedTcp.Rescheduled.keys {before after : PublishedTcp}
    (same : Rescheduled before after) : after.states.keys = before.states.keys := by
  apply keys_of_entries _ _ same.others
  intro handle context found
  obtain ⟨stream, -, changed⟩ := same.established handle context found
  exact ⟨_, changed⟩

variable {stack : StackApi} {regex : RegexApi}

/-- In every reachable state, with any readiness of the streams, both components poll a stream
for exactly what their shuttle then tries on it. While no connect task is ready, the outbound
poll is ready exactly when an attempt would find its stream ready, or a client that waits for
its connect task has gone; while no accepted connection is received, the published poll is
ready exactly when an attempt would find its stream ready. -/
theorem readiness_agrees_with_relay (buffers : TcpBuffers stack.tcp) {config : AppConfig regex}
    {interface : stack.Interface} {events : List Event} {loop : EventLoop stack regex}
    (ran : (new config interface).run events = .ok loop) {outbound : OutboundTcp}
    (outboundReady : loop.outbound.Rescheduled outbound) {published : PublishedTcp}
    (publishedReady : loop.published.Rescheduled published) :
    (∀ (input : OutboundTcp.PollInput) (order : IterOrder SocketHandle),
      ∃ ready next seen tried,
        OutboundTcp.pollReady input (outbound, loop.sockets) = .ok (ready, next) ∧
        OutboundTcp.polled input (outbound, loop.sockets) = .ok seen ∧
        OutboundTcp.attempted order next = .ok tried ∧
        (∀ handle way, (handle, way) ∈ seen ↔
          ∃ attempt, (handle, attempt) ∈ tried ∧ attempt.direction = way) ∧
        ((∀ handle task, outbound.states.lookup handle = some (.connecting task) →
            input.polls task.id = .pending) →
          (ready = true ↔
            (∃ handle attempt, (handle, attempt) ∈ tried ∧ attempt.ready = true) ∨
            ∃ handle task socket, outbound.states.lookup handle = some (.connecting task) ∧
              StackApi.getTcp loop.sockets handle = .ok socket ∧
              OutboundTcp.clientGone (stack.tcp.state socket) = true))) ∧
    (∀ (input : PublishedTcp.PollInput) (order : IterOrder SocketHandle),
      ∃ ready next tried,
        PublishedTcp.pollReady input (published, loop.sockets) = .ok (ready, next) ∧
        PublishedTcp.attempted order next = .ok tried ∧
        (∀ handle way, (handle, way) ∈ PublishedTcp.polled input (published, loop.sockets) ↔
          ∃ attempt, (handle, attempt) ∈ tried ∧ attempt.direction = way) ∧
        ((published.pollRecv input.yields).1 = false →
          (ready = true ↔
            ∃ handle attempt, (handle, attempt) ∈ tried ∧ attempt.ready = true))) := by
  obtain ⟨reached, same, owned⟩ := run_owned config interface events
  rw [ran] at same
  obtain rfl := Except.ok.inj same
  constructor
  · intro input order
    have owns : OutboundTcp.Owns (outbound, loop.sockets) := by
      unfold OutboundTcp.Owns
      rw [outboundReady.keys]
      exact owned.outboundHeld
    obtain ⟨ready, next, seen, tried, polledReady, polled, attempted, agree, woken⟩ :=
      OutboundTcp.pollReady_agrees config buffers owns input order
    refine ⟨ready, next, seen, tried, polledReady, polled, attempted, agree, ?_⟩
    intro pending
    rw [woken]
    apply or_congr_right
    apply exists_congr
    intro handle
    exact OutboundTcp.waitEnds_iff (pending handle)
  · intro input order
    have owns : PublishedTcp.Owns (published, loop.sockets) := by
      unfold PublishedTcp.Owns
      rw [publishedReady.keys]
      exact owned.publishedHeld
    obtain ⟨ready, next, tried, polledReady, attempted, agree, woken⟩ :=
      PublishedTcp.pollReady_agrees buffers owns input order
    refine ⟨ready, next, tried, polledReady, attempted, agree, ?_⟩
    intro quiet
    rw [woken, quiet]
    simp

/-- The outbound connections may stay as ready as they are. -/
theorem OutboundTcp.Rescheduled.refl (outbound : OutboundTcp) : Rescheduled outbound outbound where
  rest := rfl
  established _ context found := ⟨context.stream.inner, ⟨_, _, rfl⟩, found⟩
  others _ _ := rfl

/-- The published connections may stay as ready as they are. -/
theorem PublishedTcp.Rescheduled.refl (published : PublishedTcp) :
    Rescheduled published published where
  rest := rfl
  established _ context found := ⟨context.stream, ⟨_, _, rfl⟩, found⟩
  others _ _ := rfl

/-! ## On the small stack -/

/-- A poll that finds every task in one state. -/
def pollAll (result : Outbound.TaskPoll) : OutboundTcp.PollInput :=
  ⟨fun _ => result, ascending, ascending⟩

/-- A stream that is not ready, after a handshake that read one byte ahead. -/
def prefetched : ProxyStream := .new ⟨[.wouldBlock], [.wouldBlock], []⟩ [7]

/-- A client connects, and its connect task finishes. -/
def connected : List Event :=
  [.tick (tickOn [OutboundTcp.synPacket]), .tick (tickOn [flagPacket 0x10]),
    .poll (pollAll (.finished (.ok prefetched))) ⟨true, ascending⟩]

/-- A client connects, and resets the connection while its connect task is pending. -/
def abandoned : List Event :=
  [.tick (tickOn [OutboundTcp.synPacket]), .tick (tickOn [flagPacket 0x10]),
    .tick (tickOn [flagPacket 0x04])]

/-- After a run: what a poll that finds no task ready returns, and what the shuttle tries in the
state before the poll and in the state after it. -/
def pollThenTry (events : List Event) :
    Run (Bool × List (SocketHandle × Attempt) × List (SocketHandle × Attempt)) := do
  let loop ← freshLoop.run events
  let (ready, next) ← OutboundTcp.pollReady (pollAll .pending) (loop.outbound, loop.sockets)
  let early ← OutboundTcp.attempted ascending (loop.outbound, loop.sockets)
  let tried ← OutboundTcp.attempted ascending next
  return (ready, early, tried)

/-- The evaluation of a run with a poll and a shuttle after it shows both as they happen. -/
theorem pollThenTry_eq_ok {events : List Event} {ready : Bool}
    {early tried : List (SocketHandle × Attempt)}
    (evaluated : (pollThenTry events).toOption = some (ready, early, tried)) :
    ∃ loop next, freshLoop.run events = .ok loop ∧
      OutboundTcp.pollReady (pollAll .pending) (loop.outbound, loop.sockets) = .ok (ready, next) ∧
      OutboundTcp.attempted ascending (loop.outbound, loop.sockets) = .ok early ∧
      OutboundTcp.attempted ascending next = .ok tried := by
  cases ran : pollThenTry events with
  | error panic =>
    rw [ran] at evaluated
    contradiction
  | ok result =>
    rw [ran] at evaluated
    obtain rfl : result = (ready, early, tried) := Option.some.inj evaluated
    obtain ⟨loop, reached, ran⟩ := Error.bind_eq_ok.mp ran
    obtain ⟨⟨woken, next⟩, polled, ran⟩ := Error.bind_eq_ok.mp ran
    obtain ⟨before, first, ran⟩ := Error.bind_eq_ok.mp ran
    obtain ⟨after, second, ran⟩ := Error.bind_eq_ok.mp ran
    have same := Except.ok.inj ran
    simp only [Prod.mk.injEq] at same
    obtain ⟨rfl, rfl, rfl⟩ := same
    exact ⟨loop, next, reached, polled, first, second⟩

/-- The byte that was read ahead wakes the loop, and the shuttle reads it, though the socket is
not ready; nothing else is polled. -/
theorem readiness_agrees_prefetched :
    ∃ loop next seen, freshLoop.run connected = .ok loop ∧
      OutboundTcp.pollReady (pollAll .pending) (loop.outbound, loop.sockets) = .ok (true, next) ∧
      OutboundTcp.polled (pollAll .pending) (loop.outbound, loop.sockets) = .ok seen ∧
      OutboundTcp.attempted ascending next = .ok [(1, ⟨.tryRead 65536, true⟩)] ∧
      ∀ handle way, (handle, way) ∈ seen ↔ handle = 1 ∧ way = .read := by
  obtain ⟨loop, next, reached, polled, -, tried⟩ := @pollThenTry_eq_ok connected true
    [(1, ⟨.tryRead 65536, true⟩)] [(1, ⟨.tryRead 65536, true⟩)] (by decide +kernel)
  obtain ⟨ready, later, seen, attempts, ran, watched, made, agree, -⟩ :=
    (readiness_agrees_with_relay segmentBuffers reached (.refl loop.outbound)
      (.refl loop.published)).1 (pollAll .pending) ascending
  rw [polled, Except.ok.injEq, Prod.mk.injEq] at ran
  rw [← ran.2, tried, Except.ok.injEq] at made
  refine ⟨loop, next, seen, reached, polled, watched, tried, ?_⟩
  intro handle way
  rw [agree, ← made]
  simp [Attempt.direction, StreamCall.direction, eq_comm]

/-- A client that resets its connection wakes the loop while its connect task is pending: the
shuttle tries nothing at all. -/
theorem abandoned_client_wakes :
    (∀ id, (pollAll .pending).polls id = .pending) ∧
    ∃ loop next, freshLoop.run abandoned = .ok loop ∧
      OutboundTcp.pollReady (pollAll .pending) (loop.outbound, loop.sockets) = .ok (true, next) ∧
      OutboundTcp.attempted ascending (loop.outbound, loop.sockets) = .ok [] ∧
      OutboundTcp.attempted ascending next = .ok [] := by
  refine ⟨fun _ => rfl, ?_⟩
  apply pollThenTry_eq_ok
  decide +kernel

end NsProxy.EventLoop
