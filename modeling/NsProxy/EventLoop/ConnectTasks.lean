import NsProxy.EventLoop.Endpoints
import NsProxy.Smoltcp.Segments

/-!
# Upstream connects over whole runs

A connect task is spawned when a handshake is over, its handle is kept in the state of the
connection, and dropping a handle would detach the task instead of cancelling it. Along every
run of `OutboundTcp` a connection spawns at most one task, and every task is polled to its end
once or aborted: a task that is not over is held by the one connection that spawned it.
-/

namespace NsProxy.EventLoop

open Smoltcp Outbound

/-- The task of an event. -/
def Outbound.TaskEvent.task : TaskEvent → ConnectTask
  | spawned _ task => task
  | polled task _ => task
  | aborted task => task

/-- The connection that spawns a task. -/
def Outbound.TaskEvent.spawner : TaskEvent → Option SocketHandle
  | spawned handle _ => some handle
  | _ => none

/-- The tasks that one connection spawns. -/
def Outbound.spawnsOf (handle : SocketHandle) (events : List TaskEvent) : List TaskEvent :=
  events.filter fun event => event.spawner = some handle

/-- The events of one task. -/
def Outbound.eventsOf (id : Nat) (log : List TaskEvent) : List TaskEvent :=
  log.filter fun event => event.task.id = id

/-- A task is over: it was polled to its end, or aborted. -/
inductive Outbound.ConnectTask.Ends (task : ConnectTask) : TaskEvent → Prop
  | finished (result : Except Error ProxyStream) : Ends task (.polled task (.finished result))
  | panicked (message : String) : Ends task (.polled task (.panicked message))
  | aborted : Ends task (.aborted task)

/-- The events of a task that is not over: it was spawned, and was pending at every poll. -/
def Outbound.Pending (handle : SocketHandle) (task : ConnectTask) (events : List TaskEvent) :
    Prop :=
  ∃ polls, events = .spawned handle task :: List.replicate polls (.polled task .pending)

/-- The events of a task that is over: nothing comes after its end. -/
def Outbound.Finished (handle : SocketHandle) (task : ConnectTask) (events : List TaskEvent) :
    Prop :=
  ∃ before last, Pending handle task before ∧ task.Ends last ∧ events = before ++ [last]

namespace Outbound

/-! ## The events of a task -/

/-- The events of a task in two histories are those in the first and then those in the second. -/
theorem eventsOf_append (id : Nat) (left right : List TaskEvent) :
    eventsOf id (left ++ right) = eventsOf id left ++ eventsOf id right :=
  List.filter_append left right

/-- The events of one task are none of another. -/
theorem eventsOf_other {id : Nat} {task : ConnectTask} {events : List TaskEvent}
    (all : ∀ event ∈ events, event.task = task) (other : task.id ≠ id) :
    eventsOf id events = [] := by
  apply List.filter_eq_nil_iff.mpr
  intro event member
  rw [all event member]
  simpa using other

/-- A history about one task alone is all events of it. -/
theorem eventsOf_same {task : ConnectTask} {events : List TaskEvent}
    (all : ∀ event ∈ events, event.task = task) : eventsOf task.id events = events := by
  apply List.filter_eq_self.mpr
  intro event member
  rw [all event member]
  simp

/-- Another poll of a task that is not over. -/
theorem Pending.poll {handle : SocketHandle} {task : ConnectTask} {events : List TaskEvent}
    (pending : Pending handle task events) :
    Pending handle task (events ++ [.polled task .pending]) := by
  obtain ⟨polls, shape⟩ := pending
  refine ⟨polls + 1, ?_⟩
  rw [shape, List.replicate_succ', List.cons_append]

/-- The events of a task tell which connection spawned it. -/
theorem Pending.unique {handle other : SocketHandle} {task next : ConnectTask}
    {events : List TaskEvent} (pending : Pending handle task events)
    (also : Pending other next events) : handle = other := by
  obtain ⟨polls, shape⟩ := pending
  obtain ⟨others, same⟩ := also
  rw [shape] at same
  have first := (List.cons.inj same).1
  injection first

/-- A task is not both over and not over. -/
theorem Pending.not_finished {handle other : SocketHandle} {task next : ConnectTask}
    {events : List TaskEvent} (pending : Pending handle task events) :
    ¬ Finished other next events := by
  rintro ⟨before, last, -, ends, parts⟩
  obtain ⟨polls, shape⟩ := pending
  have member : last ∈ events := by simp [parts]
  rw [shape, List.mem_cons, List.mem_replicate] at member
  rcases member with first | ⟨-, later⟩
  · rw [first] at ends
    cases ends
  · rw [later] at ends
    cases ends

end Outbound

/-- Of a list without repetitions, one element gives a value and the others none. -/
theorem filterMap_eq_singleton {α β : Type} {list : List α} {pick : α → Option β} {one : α}
    {value : β} (distinct : list.Nodup) (member : one ∈ list) (gives : pick one = some value)
    (others : ∀ other ∈ list, other ≠ one → pick other = none) : list.filterMap pick = [value] := by
  obtain ⟨before, after, parts⟩ := List.append_of_mem member
  rw [parts, List.nodup_append, List.nodup_cons] at distinct
  have first : before.filterMap pick = [] := by
    apply List.filterMap_eq_nil_iff.mpr
    intro other inside
    apply others other (by simp [parts, inside])
    exact distinct.2.2 other inside one List.mem_cons_self
  have last : after.filterMap pick = [] := by
    apply List.filterMap_eq_nil_iff.mpr
    intro other inside
    apply others other (by simp [parts, inside])
    intro same
    rw [same] at inside
    exact distinct.2.1.1 inside
  rw [parts, List.filterMap_append, List.filterMap_cons, gives, first, last]
  rfl

namespace OutboundTcp

variable {stack : StackApi} {regex : RegexApi} {config : AppConfig regex}

/-! ## Every task is held or over -/

/-- A connection holds a task. -/
def Holds (outbound : OutboundTcp) (handle : SocketHandle) (task : ConnectTask) : Prop :=
  outbound.states.lookup handle = some (.connecting task)

/-- Every task is held and not over, or over. -/
structure Tracked (outbound : OutboundTcp) : Prop where
  /-- A held task is not over, and was spawned by the connection that holds it. -/
  held : ∀ handle task, outbound.Holds handle task →
    task.id < outbound.nextTask ∧ Pending handle task (eventsOf task.id outbound.taskLog)
  /-- Every task is held or over. -/
  settled : ∀ id < outbound.nextTask,
    (∃ handle task, task.id = id ∧ outbound.Holds handle task) ∨
      ∃ handle task, task.id = id ∧ Finished handle task (eventsOf id outbound.taskLog)
  /-- Nothing happens to a task before it is spawned. -/
  unspawned : ∀ id, outbound.nextTask ≤ id → eventsOf id outbound.taskLog = []

/-- A new component has spawned no task. -/
theorem tracked_new : Tracked new where
  held handle task holds := by
    unfold Holds new at holds
    rw [Finmap.lookup_empty] at holds
    contradiction
  settled id small := absurd small (Nat.not_lt_zero id)
  unspawned id _ := rfl

/-- What is known depends on the held tasks and the log only. -/
theorem Tracked.congr {outbound next : OutboundTcp} (tracked : Tracked outbound)
    (holds : ∀ handle task, next.Holds handle task ↔ outbound.Holds handle task)
    (log : next.taskLog = outbound.taskLog) (count : next.nextTask = outbound.nextTask) :
    Tracked next where
  held handle task held := by
    rw [log, count]
    exact tracked.held handle task ((holds handle task).mp held)
  settled id small := by
    rw [log]
    rw [count] at small
    rcases tracked.settled id small with ⟨handle, task, same, held⟩ | finished
    · exact .inl ⟨handle, task, same, (holds handle task).mpr held⟩
    · exact .inr finished
  unspawned id large := by
    rw [log]
    rw [count] at large
    exact tracked.unspawned id large

/-- Which tasks are held after the state under one handle was replaced. -/
theorem holds_insert {outbound next : OutboundTcp} {handle : SocketHandle} {state : State}
    (states : next.states = outbound.states.insert handle state) (probe : SocketHandle)
    (task : ConnectTask) :
    next.Holds probe task ↔
      if probe = handle then state = .connecting task else outbound.Holds probe task := by
  unfold Holds
  rw [states, HashMap.lookup_insert_if]
  split
  · exact Option.some_inj
  · exact Iff.rfl

/-- A connection that held no task and holds none now. -/
theorem Tracked.idle {outbound next : OutboundTcp} (tracked : Tracked outbound)
    {handle : SocketHandle} {state : State}
    (states : next.states = outbound.states.insert handle state)
    (log : next.taskLog = outbound.taskLog) (count : next.nextTask = outbound.nextTask)
    (free : ∀ task, ¬ outbound.Holds handle task) (frees : ∀ task, state ≠ .connecting task) :
    Tracked next := by
  apply tracked.congr _ log count
  intro probe task
  rw [holds_insert states]
  by_cases same : probe = handle
  · rw [if_pos same, same]
    exact ⟨fun held => absurd held (frees task), fun held => absurd held (free task)⟩
  · rw [if_neg same]

/-- Something happens to the one task that a connection spawns or holds, and to no other. -/
theorem Tracked.advance {outbound next : OutboundTcp} (tracked : Tracked outbound)
    {handle : SocketHandle} {task : ConnectTask} {events : List TaskEvent} {state : State}
    (states : next.states = outbound.states.insert handle state)
    (log : next.taskLog = outbound.taskLog ++ events)
    (news : ∀ event ∈ events, event.task = task)
    (mine : ∀ other, outbound.Holds handle other → other = task)
    (theirs : ∀ probe other, probe ≠ handle → outbound.Holds probe other → other.id ≠ task.id)
    (counted : task.id < next.nextTask) (more : outbound.nextTask ≤ next.nextTask)
    (only : ∀ id, outbound.nextTask ≤ id → id < next.nextTask → id = task.id)
    (outcome : state = .connecting task ∧
        Pending handle task (eventsOf task.id outbound.taskLog ++ events) ∨
      (∀ other, state ≠ .connecting other) ∧
        Finished handle task (eventsOf task.id outbound.taskLog ++ events)) :
    Tracked next := by
  have same : eventsOf task.id next.taskLog = eventsOf task.id outbound.taskLog ++ events := by
    rw [log, eventsOf_append, eventsOf_same news]
  have frame : ∀ id, id ≠ task.id → eventsOf id next.taskLog = eventsOf id outbound.taskLog := by
    intro id other
    rw [log, eventsOf_append, eventsOf_other news (Ne.symm other), List.append_nil]
  constructor
  · intro probe other holds
    rw [holds_insert states] at holds
    by_cases here : probe = handle
    · rw [if_pos here] at holds
      rcases outcome with ⟨connecting, pending⟩ | ⟨idle, -⟩
      · have found : task = other := by
          rw [connecting] at holds
          injection holds
        rw [here, ← found, same]
        exact ⟨counted, pending⟩
      · exact absurd holds (idle other)
    · rw [if_neg here] at holds
      obtain ⟨small, pending⟩ := tracked.held probe other holds
      rw [frame other.id (theirs probe other here holds)]
      exact ⟨Nat.lt_of_lt_of_le small more, pending⟩
  · intro id small
    by_cases this : id = task.id
    · rcases outcome with ⟨connecting, -⟩ | ⟨-, finished⟩
      · refine .inl ⟨handle, task, this.symm, ?_⟩
        rw [holds_insert states, if_pos rfl]
        exact connecting
      · refine .inr ⟨handle, task, this.symm, ?_⟩
        rw [this, same]
        exact finished
    · have old : id < outbound.nextTask := by
        by_contra large
        exact this (only id (Nat.le_of_not_lt large) small)
      rcases tracked.settled id old with
        ⟨probe, other, number, holds⟩ | ⟨probe, other, number, finished⟩
      · have elsewhere : probe ≠ handle := by
          intro here
          rw [here] at holds
          rw [mine other holds] at number
          exact this number.symm
        refine .inl ⟨probe, other, number, ?_⟩
        rw [holds_insert states, if_neg elsewhere]
        exact holds
      · refine .inr ⟨probe, other, number, ?_⟩
        rw [frame id this]
        exact finished
  · intro id large
    have other : id ≠ task.id := by omega
    rw [frame id other]
    exact tracked.unspawned id (Nat.le_trans more large)

/-- No two connections hold one task. -/
theorem Tracked.apart {outbound : OutboundTcp} (tracked : Tracked outbound)
    {handle probe : SocketHandle} {task other : ConnectTask} (holds : outbound.Holds handle task)
    (different : probe ≠ handle) (also : outbound.Holds probe other) : other.id ≠ task.id := by
  intro same
  have mine := (tracked.held handle task holds).2
  have theirs := (tracked.held probe other also).2
  rw [same] at theirs
  exact different (theirs.unique mine)

/-- Something happens to a held task. -/
theorem Tracked.progress {outbound : OutboundTcp} (tracked : Tracked outbound)
    {handle : SocketHandle} {task : ConnectTask} (holds : outbound.Holds handle task)
    {events : List TaskEvent} {state : State} (news : ∀ event ∈ events, event.task = task)
    (outcome : state = .connecting task ∧
        Pending handle task (eventsOf task.id outbound.taskLog ++ events) ∨
      (∀ other, state ≠ .connecting other) ∧
        Finished handle task (eventsOf task.id outbound.taskLog ++ events)) :
    Tracked (outbound.progress handle events state) := by
  have counted := (tracked.held handle task holds).1
  have mine : ∀ other, outbound.Holds handle other → other = task := by
    intro other also
    have equal : State.connecting other = .connecting task :=
      Option.some.inj (also.symm.trans holds)
    injection equal
  exact tracked.advance rfl rfl news mine
    (fun probe other different also => tracked.apart holds different also) counted (Nat.le_refl _)
    (fun id large small => absurd small (Nat.not_lt_of_le large)) outcome

/-- A task is spawned. -/
theorem Tracked.spawn {outbound : OutboundTcp} (tracked : Tracked outbound)
    {handle : SocketHandle} {task : ConnectTask} (numbered : task.id = outbound.nextTask)
    (free : ∀ other, ¬ outbound.Holds handle other) :
    Tracked { outbound.progress handle [.spawned handle task] (.connecting task) with
      nextTask := outbound.nextTask + 1 } := by
  have silent : eventsOf task.id outbound.taskLog = [] :=
    tracked.unspawned task.id (Nat.le_of_eq numbered.symm)
  have news : ∀ event ∈ [TaskEvent.spawned handle task], event.task = task := by
    simp [TaskEvent.task]
  refine tracked.advance rfl rfl news
    (fun other also => absurd also (free other)) ?_ ?_ (Nat.le_succ _) ?_ ?_
  · intro probe other _ also
    have small := (tracked.held probe other also).1
    omega
  · show task.id < outbound.nextTask + 1
    omega
  · intro id large small
    change id < outbound.nextTask + 1 at small
    omega
  · refine .inl ⟨rfl, 0, ?_⟩
    rw [silent]
    rfl

/-- A state that is not that of a running connect holds no task. -/
theorem not_holds {outbound : OutboundTcp} {handle : SocketHandle} {state : State}
    (found : outbound.states.lookup handle = some state)
    (other : ∀ task, state ≠ .connecting task) (task : ConnectTask) :
    ¬ outbound.Holds handle task := by
  intro holds
  exact other task (Option.some.inj (found.symm.trans holds))

/-- Every act keeps the tasks tracked. -/
theorem Act.tracked {dns : Option DnsInterceptor} {handle : SocketHandle}
    {before after : OutboundTcp × stack.Sockets} (act : Act config dns handle before after)
    (tracked : Tracked before.1) : Tracked after.1 := by
  cases act with
  | started _ found _ _ _ numbered _ _ => exact tracked.spawn numbered (not_holds found (by simp))
  | closed found _ _ =>
    exact tracked.idle rfl (List.append_nil _) rfl (not_holds found (by simp)) (by simp)
  | expired found _ _ =>
    exact tracked.idle rfl (List.append_nil _) rfl (not_holds found (by simp)) (by simp)
  | @connected outbound _ task found stream =>
    have pending := (tracked.held handle task found).2
    refine tracked.progress found (by simp [TaskEvent.task]) (.inr ⟨by simp, ?_⟩)
    exact ⟨_, _, pending, .finished (.ok stream), rfl⟩
  | @failed outbound _ task socket result found _ failure =>
    have pending := (tracked.held handle task found).2
    refine tracked.progress found (by simp [TaskEvent.task]) (.inr ⟨by simp, ?_⟩)
    refine ⟨_, _, pending, ?_, rfl⟩
    cases result with
    | pending => exact failure.elim
    | finished result => exact .finished result
    | panicked message => exact .panicked message
  | @abandoned outbound _ task socket found _ _ =>
    have pending := (tracked.held handle task found).2
    refine tracked.progress found (by simp [TaskEvent.task]) (.inr ⟨by simp, ?_⟩)
    refine ⟨_, _, pending.poll, .aborted, ?_⟩
    rw [List.append_assoc]
    rfl
  | @waiting outbound _ task found =>
    have pending := (tracked.held handle task found).2
    exact tracked.progress found (by simp [TaskEvent.task]) (.inl ⟨rfl, pending.poll⟩)
  | @relayed outbound _ context next _ _ closing found _ _ =>
    refine tracked.idle rfl (List.append_nil _) rfl (not_holds found (by simp)) ?_
    intro task
    split <;> simp
  | @removed outbound sockets rest found freed =>
    refine tracked.congr ?_ rfl rfl
    intro probe task
    show (outbound.states.erase handle).lookup probe = _ ↔ outbound.states.lookup probe = _
    rw [HashMap.lookup_erase_if]
    by_cases same : probe = handle
    · rw [if_pos same, same, found]
      simp
    · rw [if_neg same]

/-- The acts of one poll keep every task held or over. -/
theorem Acts.tracked {dns : Option DnsInterceptor} {before after : OutboundTcp × stack.Sockets}
    (acts : Acts config dns before after) (tracked : Tracked before.1) : Tracked after.1 := by
  induction acts with
  | refl => exact tracked
  | tail _ act kept =>
    obtain ⟨handle, act⟩ := act
    exact act.tracked kept

/-- A new listener holds no task. -/
theorem Listens.tracked {before after : OutboundTcp × stack.Sockets}
    (listens : Listens before after) (owns : Owns before) (tracked : Tracked before.1) :
    Tracked after.1 := by
  cases listens with
  | @intro outbound sockets key socket packet now read unseen made =>
    refine tracked.idle rfl rfl rfl ?_ (by simp)
    intro task holds
    have member := (HashMap.mem_keys_iff _ _).mpr ⟨_, holds⟩
    exact StackApi.held_fresh owns (.tcp socket) member

/-- A step keeps every task held or over. -/
theorem Step.tracked {before after : OutboundTcp × stack.Sockets} (step : Step config before after)
    (owns : Owns before) (tracked : Tracked before.1) : Tracked after.1 := by
  rcases step.cases owns with listens | ⟨dns, acts, -⟩ | ⟨same, -⟩
  · clear step
    induction listens with
    | refl => exact tracked
    | tail reached step kept =>
      have changes : Changes _ _ := reached.lift id fun _ _ step => step.change
      exact step.tracked (changes.turn owns).held kept
  · exact acts.tracked tracked
  · rwa [same]

/-- In every reachable state every task is held and not over, or over. -/
theorem Reachable.tracked {state : OutboundTcp × stack.Sockets}
    (reached : Reachable config state) : Tracked state.1 := by
  obtain ⟨sockets, steps⟩ := reached
  induction steps with
  | refl => exact tracked_new
  | tail run step kept => exact step.tracked (Reachable.owns ⟨sockets, run⟩) kept

/-- When the component is dropped, every task is over. -/
theorem Tracked.dropped {outbound : OutboundTcp} (tracked : Tracked outbound)
    (order : IterOrder SocketHandle) {id : Nat} (small : id < outbound.nextTask) :
    ∃ handle task, task.id = id ∧
      Finished handle task (eventsOf id (outbound.drop order).taskLog) := by
  let pick := fun handle => (outbound.dropState handle).filter fun event => event.task.id = id
  have log : eventsOf id (outbound.drop order).taskLog =
      eventsOf id outbound.taskLog ++ (order.visit outbound.states.keys).filterMap pick := by
    show eventsOf id (outbound.taskLog ++ _) = _
    rw [eventsOf_append]
    congr 1
    exact List.filter_filterMap
  -- Only a held task is aborted.
  have picked : ∀ probe event, pick probe = some event →
      ∃ task, outbound.Holds probe task ∧ task.id = id ∧ event = .aborted task := by
    intro probe event found
    obtain ⟨dropped, same⟩ := Option.filter_eq_some_iff.mp found
    unfold dropState at dropped
    split at dropped
    · rename_i task holds
      have equal := Option.some.inj dropped
      refine ⟨task, holds, ?_, equal.symm⟩
      rw [← equal] at same
      exact of_decide_eq_true same
    · contradiction
  rcases tracked.settled id small with
    ⟨handle, task, number, holds⟩ | ⟨handle, task, number, finished⟩
  · refine ⟨handle, task, number, ?_⟩
    have member : handle ∈ order.visit outbound.states.keys :=
      (order.mem_visit _ _).mpr ((HashMap.mem_keys_iff _ _).mpr ⟨_, holds⟩)
    have gives : pick handle = some (.aborted task) := by
      have dropped : outbound.dropState handle = some (.aborted task) := by
        unfold dropState
        rw [show outbound.states.lookup handle = some (.connecting task) from holds]
      show (outbound.dropState handle).filter _ = _
      rw [dropped, Option.filter_some]
      exact if_pos (decide_eq_true number)
    have aborted := filterMap_eq_singleton (order.nodup outbound.states.keys) member gives (by
      intro other _ different
      cases found : pick other with
      | none => rfl
      | some event =>
        obtain ⟨next, also, same, -⟩ := picked other event found
        exact absurd (same.trans number.symm) (tracked.apart holds different also))
    rw [log, aborted]
    have pending := (tracked.held handle task holds).2
    rw [number] at pending
    exact ⟨_, _, pending, .aborted, rfl⟩
  · have none : (order.visit outbound.states.keys).filterMap pick = [] := by
      apply List.filterMap_eq_nil_iff.mpr
      intro probe _
      cases found : pick probe with
      | none => rfl
      | some event =>
        obtain ⟨next, also, same, -⟩ := picked probe event found
        have pending := (tracked.held probe next also).2
        rw [same] at pending
        exact absurd finished pending.not_finished
    rw [log, none, List.append_nil]
    exact ⟨handle, task, number, finished⟩

/-! ## The life of a handle -/

/-- A run of steps during all of which a handle lives. -/
def Lives (config : AppConfig regex) (handle : SocketHandle)
    (before after : OutboundTcp × stack.Sockets) : Prop :=
  Relation.ReflTransGen (fun before after => Step config before after ∧
    handle ∈ before.1.states.keys ∧ handle ∈ after.1.states.keys) before after

/-- What happens to the state of a handle. -/
def MovesOn (handle : SocketHandle) (before after : OutboundTcp) : Prop :=
  ∀ old new, before.states.lookup handle = some old → after.states.lookup handle = some new →
    Relation.ReflTransGen State.Moves old new

/-- A change at one handle moves the state of any handle on, or leaves it. -/
theorem ChangeAt.movesOn {handle probe : SocketHandle} {before after : OutboundTcp × stack.Sockets}
    (change : ChangeAt probe before after) : MovesOn handle before.1 after.1 := by
  intro old new was is
  by_cases same : handle = probe
  · cases change with
    | @advanced outbound next _ _ start last found moves states _ _ _ =>
      change next.states.lookup handle = some new at is
      rw [states, HashMap.lookup_insert_if, if_pos same] at is
      rw [← same] at found
      obtain rfl := Option.some.inj (found.symm.trans was)
      obtain rfl := Option.some.inj is
      exact .single moves
    | @removed outbound _ _ found freed =>
      change (outbound.states.erase probe).lookup handle = some new at is
      rw [HashMap.lookup_erase_if, if_pos same] at is
      contradiction
  · rw [change.frame handle same, was] at is
    obtain rfl := Option.some.inj is
    exact .refl

/-- The work of the component moves the state of a handle on, or leaves it. -/
theorem Works.movesOn {handle : SocketHandle} {before after : OutboundTcp × stack.Sockets}
    (works : Works before after) : MovesOn handle before.1 after.1 := by
  induction works with
  | refl =>
    intro old new was is
    obtain rfl := Option.some.inj (was.symm.trans is)
    exact .refl
  | tail _ change moved =>
    intro old new was is
    obtain ⟨probe, change⟩ := change
    have lives := (change.endpoint ((HashMap.mem_keys_iff _ _).mpr ⟨new, is⟩)).1
    obtain ⟨middle, between⟩ := (HashMap.mem_keys_iff _ _).mp lives
    exact (moved old middle was between).trans (change.movesOn middle new between is)

/-- New listeners leave the states of the others alone. -/
theorem listens_lookup {handle : SocketHandle} {before after : OutboundTcp × stack.Sockets}
    (listens : Relation.ReflTransGen Listens before after) (owns : Owns before)
    (lives : handle ∈ before.1.states.keys) :
    after.1.states.lookup handle = before.1.states.lookup handle ∧
      after.1.taskLog = before.1.taskLog := by
  induction listens with
  | refl => exact ⟨rfl, rfl⟩
  | @tail middle last reached step kept =>
    have changes : Changes before middle := reached.lift id fun _ _ step => step.change
    have owned : Owns middle := (changes.turn owns).held
    have living := (listens_endpoint reached owns lives).1
    cases step with
    | @intro outbound sockets key socket packet now read unseen made =>
      have different : handle ≠ (StackApi.add sockets (.tcp socket)).1 := by
        intro same
        rw [same] at living
        exact StackApi.held_fresh owned (.tcp socket) living
      refine ⟨?_, kept.2⟩
      show (outbound.states.insert _ _).lookup handle = _
      rw [HashMap.lookup_insert_if, if_neg different]
      exact kept.1

/-- A step moves the state of a handle on, or leaves it. -/
theorem Step.movesOn {handle : SocketHandle} {before after : OutboundTcp × stack.Sockets}
    (step : Step config before after) (owns : Owns before) : MovesOn handle before.1 after.1 := by
  rcases step.cases owns with listens | ⟨dns, acts, -⟩ | ⟨same, -⟩
  · intro old new was is
    have lives := (HashMap.mem_keys_iff _ _).mpr ⟨old, was⟩
    rw [(listens_lookup listens owns lives).1, was] at is
    obtain rfl := Option.some.inj is
    exact .refl
  · exact acts.works.movesOn
  · intro old new was is
    rw [same, was] at is
    obtain rfl := Option.some.inj is
    exact .refl

/-- As long as a handle lives, its state only moves on. -/
theorem Lives.movesOn {handle : SocketHandle} {before after : OutboundTcp × stack.Sockets}
    (lives : Lives config handle before after) (owns : Owns before) :
    MovesOn handle before.1 after.1 ∧ Owns after := by
  induction lives with
  | refl =>
    refine ⟨?_, owns⟩
    intro old new was is
    obtain rfl := Option.some.inj (was.symm.trans is)
    exact .refl
  | tail _ step moved =>
    obtain ⟨step, lived, -⟩ := step
    refine ⟨?_, step.owns moved.2⟩
    intro old new was is
    obtain ⟨middle, between⟩ := (HashMap.mem_keys_iff _ _).mp lived
    exact (moved.1 old middle was between).trans (step.movesOn moved.2 middle new between is)

/-! ## One connect for each life -/

/-- A connection whose handshake is not over. -/
def IsListening (outbound : OutboundTcp) (handle : SocketHandle) : Prop :=
  ∃ createdAt, outbound.states.lookup handle = some (.listening createdAt)

/-- A task connects to the target of the local endpoint of a socket, by the route for it. -/
def Aimed (config : AppConfig regex) (dns : DnsInterceptor) (sockets : stack.Sockets)
    (handle : SocketHandle) (task : ConnectTask) : Prop :=
  ∃ socket endpoint, StackApi.getTcp sockets handle = .ok socket ∧
    stack.tcp.localEndpoint socket = some endpoint ∧
    task.target = dns.targetFor endpoint.addr endpoint.port ∧
    config.toConfig.proxyFor task.target = some task.proxy

/-- An act leaves no listener under its handle. -/
theorem Act.not_listening {dns : Option DnsInterceptor} {handle : SocketHandle}
    {before after : OutboundTcp × stack.Sockets} (act : Act config dns handle before after) :
    ¬ after.1.IsListening handle := by
  have replaced : ∀ (map : HashMap SocketHandle State) (state : State),
      (map.insert handle state).lookup handle = some state := fun map _ => Finmap.lookup_insert map
  rintro ⟨createdAt, found⟩
  cases act with
  | removed _ _ =>
    change (Finmap.erase handle _).lookup handle = _ at found
    rw [Finmap.lookup_erase] at found
    contradiction
  | @relayed _ _ _ _ _ _ closing _ _ _ =>
    change (Finmap.insert handle _ _).lookup handle = _ at found
    rw [replaced] at found
    cases closing <;> simp at found
  | _ =>
    change (Finmap.insert handle _ _).lookup handle = _ at found
    rw [replaced] at found
    simp at found

/-- An act spawns a task for a listener whose handshake is over, or none. -/
theorem Act.spawns {dns : Option DnsInterceptor} {handle : SocketHandle}
    {before after : OutboundTcp × stack.Sockets} (act : Act config dns handle before after) :
    (∃ events, after.1.taskLog = before.1.taskLog ++ events ∧
      ∀ event ∈ events, event.spawner = none) ∨
    (∃ task interceptor, after.1.taskLog = before.1.taskLog ++ [.spawned handle task] ∧
      before.1.IsListening handle ∧ dns = some interceptor ∧
      Aimed config interceptor before.2 handle task) := by
  cases act with
  | @started _ _ createdAt socket endpoint task interceptor asked found got _ bound _ aimed
      routed =>
    exact .inr ⟨task, interceptor, rfl, ⟨createdAt, found⟩, asked,
      socket, endpoint, got, bound, aimed, routed⟩
  | removed _ _ => exact .inl ⟨[], (List.append_nil _).symm, by simp⟩
  | connected _ _ => exact .inl ⟨_, rfl, by simp [TaskEvent.spawner]⟩
  | failed _ _ _ => exact .inl ⟨_, rfl, by simp [TaskEvent.spawner]⟩
  | abandoned _ _ _ => exact .inl ⟨_, rfl, by simp [TaskEvent.spawner]⟩
  | waiting _ => exact .inl ⟨_, rfl, by simp [TaskEvent.spawner]⟩
  | closed _ _ _ => exact .inl ⟨[], rfl, by simp⟩
  | expired _ _ _ => exact .inl ⟨[], rfl, by simp⟩
  | relayed _ _ _ => exact .inl ⟨[], rfl, by simp⟩

/-- An act leaves the sockets of the others alone. -/
theorem ChangeAt.getTcp_frame {handle probe : SocketHandle}
    {before after : OutboundTcp × stack.Sockets} (change : ChangeAt handle before after)
    (different : probe ≠ handle) :
    StackApi.getTcp after.2 probe = StackApi.getTcp before.2 probe := by
  unfold StackApi.getTcp
  cases change with
  | advanced _ _ _ _ _ touches => rw [touches.frame probe different]
  | @removed _ sockets rest found freed =>
    unfold StackApi.remove at freed
    split at freed
    · contradiction
    · obtain rfl := Except.ok.inj freed
      rw [HashMap.lookup_erase_if, if_neg different]

/-- A listener was not touched by the acts so far. -/
theorem Acts.untouched {dns : Option DnsInterceptor} {handle : SocketHandle}
    {before after : OutboundTcp × stack.Sockets} (acts : Acts config dns before after)
    (listening : after.1.IsListening handle) :
    before.1.IsListening handle ∧
      StackApi.getTcp after.2 handle = StackApi.getTcp before.2 handle := by
  induction acts with
  | refl => exact ⟨listening, rfl⟩
  | tail _ act kept =>
    obtain ⟨probe, act⟩ := act
    have different : handle ≠ probe := by
      intro same
      rw [same] at listening
      exact act.not_listening listening
    have earlier := listening
    unfold IsListening at earlier
    rw [act.changeAt.frame handle different] at earlier
    obtain ⟨started, same⟩ := kept earlier
    exact ⟨started, (act.changeAt.getTcp_frame different).trans same⟩

/-- Every task that acts spawn is for a listener and its socket as they were before. -/
theorem Acts.spawns {dns : Option DnsInterceptor} {before after : OutboundTcp × stack.Sockets}
    (acts : Acts config dns before after) :
    ∃ events, after.1.taskLog = before.1.taskLog ++ events ∧
      ∀ handle task, .spawned handle task ∈ events → before.1.IsListening handle ∧
        ∃ interceptor, dns = some interceptor ∧ Aimed config interceptor before.2 handle task := by
  induction acts with
  | refl => exact ⟨[], (List.append_nil _).symm, by simp⟩
  | tail reached act hyp =>
    obtain ⟨probe, act⟩ := act
    obtain ⟨events, log, known⟩ := hyp
    rcases act.spawns with ⟨news, more, silent⟩ |
      ⟨task, interceptor, more, listening, asked, aimed⟩
    · refine ⟨events ++ news, by rw [more, log, List.append_assoc], ?_⟩
      intro handle task member
      rcases List.mem_append.mp member with old | new
      · exact known handle task old
      · have none := silent _ new
        contradiction
    · refine ⟨events ++ [.spawned probe task], by rw [more, log, List.append_assoc], ?_⟩
      intro handle other member
      rcases List.mem_append.mp member with old | new
      · exact known handle other old
      · have equal := List.mem_singleton.mp new
        injection equal with sameHandle sameTask
        obtain ⟨started, same⟩ := Acts.untouched reached listening
        rw [sameHandle, sameTask]
        refine ⟨started, interceptor, asked, ?_⟩
        obtain ⟨socket, endpoint, got, rest⟩ := aimed
        exact ⟨socket, endpoint, same ▸ got, rest⟩

/-- From one state of a handle to a later one: at most one task is spawned, by a listener that
is none any more, and no listener comes back. -/
structure ConnectsOnce (handle : SocketHandle) (before after : OutboundTcp) : Prop where
  /-- At most one task is spawned. -/
  once : ∃ events, after.taskLog = before.taskLog ++ events ∧
    (spawnsOf handle events = [] ∨ (spawnsOf handle events).length = 1 ∧
      before.IsListening handle ∧ ¬ after.IsListening handle)
  /-- No listener comes back. -/
  listening : after.IsListening handle → before.IsListening handle

namespace ConnectsOnce

variable {handle : SocketHandle} {before middle after : OutboundTcp}

/-- Nothing is spawned and the state under the handle stays. -/
theorem of_same (log : after.taskLog = before.taskLog)
    (state : after.states.lookup handle = before.states.lookup handle) :
    ConnectsOnce handle before after where
  once := ⟨[], by rw [log, List.append_nil], .inl rfl⟩
  listening found := by
    unfold IsListening at *
    rwa [state] at found

/-- Two stretches of the life of a handle spawn at most one task together. -/
theorem trans (first : ConnectsOnce handle before middle)
    (second : ConnectsOnce handle middle after) : ConnectsOnce handle before after := by
  refine ⟨?_, fun found => first.listening (second.listening found)⟩
  obtain ⟨one, oneLog, oneSpawns⟩ := first.once
  obtain ⟨two, twoLog, twoSpawns⟩ := second.once
  refine ⟨one ++ two, by rw [twoLog, oneLog, List.append_assoc], ?_⟩
  have parts : spawnsOf handle (one ++ two) = spawnsOf handle one ++ spawnsOf handle two :=
    List.filter_append one two
  rw [parts]
  rcases oneSpawns with none | ⟨single, start, stopped⟩
  · rw [none, List.nil_append]
    exact twoSpawns.imp_right fun ⟨single, start, stopped⟩ =>
      ⟨single, first.listening start, stopped⟩
  · rcases twoSpawns with none | ⟨-, restarted, -⟩
    · rw [none, List.append_nil]
      exact .inr ⟨single, start, fun found => stopped (second.listening found)⟩
    · exact absurd restarted stopped

end ConnectsOnce

/-- An act on any handle spawns at most one task for a given one. -/
theorem Act.connectsOnce {dns : Option DnsInterceptor} {handle probe : SocketHandle}
    {before after : OutboundTcp × stack.Sockets} (act : Act config dns probe before after) :
    ConnectsOnce handle before.1 after.1 := by
  have back : after.1.IsListening handle → before.1.IsListening handle := by
    intro found
    by_cases same : handle = probe
    · rw [same] at found
      exact absurd found act.not_listening
    · unfold IsListening at *
      rwa [act.changeAt.frame handle same] at found
  refine ⟨?_, back⟩
  rcases act.spawns with ⟨events, log, silent⟩ | ⟨task, interceptor, log, listening, -, -⟩
  · refine ⟨events, log, .inl ?_⟩
    apply List.filter_eq_nil_iff.mpr
    intro event member
    rw [silent event member]
    simp
  · refine ⟨_, log, ?_⟩
    by_cases same : handle = probe
    · rw [same]
      exact .inr ⟨by simp [spawnsOf, TaskEvent.spawner], listening, act.not_listening⟩
    · left
      simp [spawnsOf, TaskEvent.spawner, Ne.symm same]

/-- The acts of one poll spawn at most one task for a handle. -/
theorem Acts.connectsOnce {dns : Option DnsInterceptor} {handle : SocketHandle}
    {before after : OutboundTcp × stack.Sockets} (acts : Acts config dns before after) :
    ConnectsOnce handle before.1 after.1 := by
  induction acts with
  | refl => exact .of_same rfl rfl
  | tail _ act kept =>
    obtain ⟨probe, act⟩ := act
    exact kept.trans act.connectsOnce

/-- A step spawns at most one task for a handle that lives before it. -/
theorem Step.connectsOnce {handle : SocketHandle} {before after : OutboundTcp × stack.Sockets}
    (step : Step config before after) (owns : Owns before)
    (lives : handle ∈ before.1.states.keys) : ConnectsOnce handle before.1 after.1 := by
  rcases step.cases owns with listens | ⟨dns, acts, -⟩ | ⟨same, -⟩
  · obtain ⟨state, log⟩ := listens_lookup listens owns lives
    exact .of_same log state
  · exact acts.connectsOnce
  · rw [same]
    exact .of_same rfl rfl

/-- As long as a handle lives, at most one task is spawned for it. -/
theorem Lives.connectsOnce {handle : SocketHandle} {before after : OutboundTcp × stack.Sockets}
    (lives : Lives config handle before after) (owns : Owns before) :
    ConnectsOnce handle before.1 after.1 := by
  induction lives with
  | refl => exact .of_same rfl rfl
  | tail run step kept =>
    obtain ⟨step, lived, -⟩ := step
    exact kept.trans (step.connectsOnce (Lives.movesOn run owns).2 lived)

/-- A step spawns tasks only for listeners, when it is a call of `process`, each for the target
that the interceptor of the call gives the local endpoint of its socket, by the route for it. -/
theorem Step.spawns {before after : OutboundTcp × stack.Sockets} (step : Step config before after)
    (owns : Owns before) :
    ∃ events, after.1.taskLog = before.1.taskLog ++ events ∧
      ∀ handle task, .spawned handle task ∈ events → before.1.IsListening handle ∧
        ∃ dns input, OutboundTcp.process config dns input before = .ok after ∧
          Aimed config dns before.2 handle task := by
  rcases step.cases owns with listens | ⟨dns, acts, called⟩ | ⟨same, -⟩
  · have log : after.1.taskLog = before.1.taskLog := by
      clear step
      induction listens with
      | refl => rfl
      | tail _ step kept =>
        cases step with
        | intro _ _ _ _ _ => exact kept
    exact ⟨[], by rw [log, List.append_nil], by simp⟩
  · obtain ⟨events, log, known⟩ := acts.spawns
    refine ⟨events, log, ?_⟩
    intro handle task member
    obtain ⟨listening, interceptor, asked, aimed⟩ := known handle task member
    obtain ⟨input, ran⟩ := called interceptor asked
    exact ⟨listening, interceptor, input, ran, aimed⟩
  · exact ⟨[], by rw [same, List.append_nil], by simp⟩

/-- In every run of the component: as long as a handle lives its state only moves on; over its
whole life, up to and with the step that removes it, at most one task is spawned for it; a task
is spawned by `process` for a listener, for the target and by the route of the local endpoint of
its socket; a task that is not over is held by the connection that spawned it, pending at every
poll; and when the component is dropped every task was polled to its end once or aborted. -/
theorem one_connect_per_handle {state : OutboundTcp × stack.Sockets}
    (reached : Reachable config state) :
    (∀ handle after old new, Lives config handle state after →
      state.1.states.lookup handle = some old → after.1.states.lookup handle = some new →
      Relation.ReflTransGen State.Moves old new) ∧
    (∀ handle after last, Lives config handle state after → handle ∈ after.1.states.keys →
      Step config after last → ∃ events, last.1.taskLog = state.1.taskLog ++ events ∧
        (spawnsOf handle events).length ≤ 1) ∧
    (∀ after, Step config state after → ∃ events,
      after.1.taskLog = state.1.taskLog ++ events ∧
      ∀ handle task, .spawned handle task ∈ events → state.1.IsListening handle ∧
        ∃ dns input, process config dns input state = .ok after ∧
          Aimed config dns state.2 handle task) ∧
    Tracked state.1 ∧
    (∀ order id, id < state.1.nextTask → ∃ handle task, task.id = id ∧
      Finished handle task (eventsOf id (state.1.drop order).taskLog)) := by
  have owns := reached.owns
  refine ⟨?_, ?_, fun after step => step.spawns owns, reached.tracked, ?_⟩
  · intro handle after old new lives was is
    exact (Lives.movesOn lives owns).1 old new was is
  · intro handle after last lives alive step
    have whole := (Lives.connectsOnce lives owns).trans
      (step.connectsOnce (Lives.movesOn lives owns).2 alive)
    obtain ⟨events, log, spawns⟩ := whole.once
    refine ⟨events, log, ?_⟩
    rcases spawns with none | ⟨one, -, -⟩
    · simp [none]
    · exact Nat.le_of_eq one
  · intro order id small
    exact reached.tracked.dropped order small

/-- A listen socket of the small stack whose handshake is over. -/
def acceptedSocket : SegmentSocket :=
  ⟨.established, 80, ⟨.new 172 23 255 255, 40000, .new 93 184 216 34, 80⟩, [], 0⟩

/-- Maps are walked from the lowest handle on, and no time passes. -/
def calmInput : ProcessInput := ⟨fun _ => 0, ascending, ascending, ascending⟩

/-- A SYN is seen, the stack finishes the handshake, and the upstream connect is spawned. -/
def connectingRun : Run (OutboundTcp × segmentStack.Sockets) := do
  let (outbound, _) ← observeSyns (fun _ => 0) [synPacket]
    ((new, ∅) : OutboundTcp × segmentStack.Sockets)
  process directConfig ⟨7, FakeDns.new⟩ calmInput
    (outbound, (∅ : segmentStack.Sockets).insert 0 (.tcp acceptedSocket))

/-- A component that is dropped while its only task is pending has aborted it. -/
theorem one_connect_per_handle_dropped :
    ∃ state : OutboundTcp × segmentStack.Sockets, connectingRun = .ok state ∧
      state.1.nextTask = 1 ∧ ∃ handle task, task.id = 0 ∧
        Finished handle task (eventsOf 0 (state.1.drop ascending).taskLog) := by
  obtain ⟨seen, observed, -⟩ := observeSyns_listens (fun _ => 0) [synPacket]
    ((new, ∅) : OutboundTcp × segmentStack.Sockets)
  let accepted : segmentStack.Sockets := (∅ : segmentStack.Sockets).insert 0 (.tcp acceptedSocket)
  have keys : seen.1.states.keys = {0} := by
    have evaluated : ((observeSyns (fun _ => 0) [synPacket]
        ((new, ∅) : OutboundTcp × segmentStack.Sockets)).toOption.map fun state =>
          state.1.states.keys) = some {0} := by decide +kernel
    rw [observed] at evaluated
    exact Option.some.inj evaluated
  have owns : Owns (seen.1, accepted) := by
    intro handle member
    have zero : handle = 0 := by
      rw [show (seen.1, accepted).1.states.keys = {0} from keys] at member
      exact Finset.mem_singleton.mp member
    rw [zero]
    show StackApi.kinds ((∅ : segmentStack.Sockets).insert 0 (.tcp acceptedSocket)) 0 = _
    decide +kernel
  obtain ⟨state, processed, -⟩ := process_acts directConfig ⟨7, FakeDns.new⟩ calmInput
    (seen.1, accepted) owns
  have reached : Reachable directConfig state :=
    ⟨∅, (Relation.ReflTransGen.single (.observeSyns _ _ observed)).tail (.others owns) |>.tail
      (.process _ _ processed)⟩
  have ran : connectingRun = .ok state := by
    unfold connectingRun
    rw [observed]
    exact processed
  have one : state.1.nextTask = 1 := by
    have evaluated : (connectingRun.toOption.map fun state => state.1.nextTask) = some 1 := by
      decide +kernel
    rw [ran] at evaluated
    exact Option.some.inj evaluated
  refine ⟨state, ran, one, ?_⟩
  apply (one_connect_per_handle reached).2.2.2.2 ascending 0
  omega

end OutboundTcp

end NsProxy.EventLoop
