import NsProxy.EventLoop.PortAccounting
import NsProxy.Lib.Producers

/-!
# The accept tasks

`PublishedTcp::new` of `event_loop/published.rs` spawns one task for each listener: it accepts a
connection, sends it into the channel that all tasks share, and waits there while the channel is
full; after a failed `accept` it sleeps. The tasks run beside the component, in any order. When
the component is dropped they are aborted, and a `send` that is still waiting fails.
-/

namespace NsProxy.EventLoop

open Smoltcp Tokio Published

namespace Published

/-- An accept task. -/
inductive AcceptTask
  /-- `listener.accept()`. -/
  | accepting
  /-- `tx.send`, with the connection. -/
  | sending (accepted : AcceptedConnection)
  /-- The sleep after a failed `accept`. -/
  | sleeping
  /-- The task is gone, with the connection that was dropped with it. -/
  | ended (dropped : Option AcceptedConnection)

/-- The connection that a task holds, or that was dropped with it. -/
def AcceptTask.hand : AcceptTask → Option AcceptedConnection
  | .sending accepted => some accepted
  | .ended dropped => dropped
  | _ => none

/-- The tasks by their listeners, with what they have accepted and sent. -/
structure Tasks where
  /-- The tasks. -/
  task : Nat → AcceptTask
  /-- The connections accepted, oldest first. -/
  accepted : List (Nat × AcceptedConnection)
  /-- The connections sent, oldest first. -/
  sent : List (Nat × AcceptedConnection)

namespace Tasks

/-- The tasks before their first step. -/
def start : Tasks := ⟨fun _ => .accepting, [], []⟩

/-- A task goes on. -/
def goto (tasks : Tasks) (index : Nat) (task : AcceptTask) : Tasks :=
  { tasks with task := Function.update tasks.task index task }

/-- A task has accepted a connection. -/
def take (tasks : Tasks) (index : Nat) (accepted : AcceptedConnection) : Tasks :=
  { tasks.goto index (.sending accepted) with
    accepted := tasks.accepted ++ [(index, accepted)] }

/-- A task has sent its connection. -/
def send (tasks : Tasks) (index : Nat) (accepted : AcceptedConnection) : Tasks :=
  { tasks.goto index .accepting with sent := tasks.sent ++ [(index, accepted)] }

/-- The tasks as producers. -/
def producers (tasks : Tasks) : Producers Nat AcceptedConnection :=
  ⟨fun index => (tasks.task index).hand, tasks.accepted, tasks.sent⟩

/-- A step of one task other than a send. `gone` says whether the component was dropped. -/
inductive Step (specs : List PublishSpec) (gone : Bool) : Tasks → Tasks → Prop
  /-- `accept` returns a connection. -/
  | accept {tasks : Tasks} {index : Nat} {spec : PublishSpec}
    (waits : tasks.task index = .accepting) (listens : specs[index]? = some spec)
    (stream : TcpStream) (peerAddr : Endpoint) :
    Step specs gone tasks (tasks.take index ⟨stream, peerAddr, spec⟩)
  /-- `accept` fails. -/
  | fail {tasks : Tasks} {index : Nat} (waits : tasks.task index = .accepting) :
    Step specs gone tasks (tasks.goto index .sleeping)
  /-- The sleep is over. -/
  | wake {tasks : Tasks} {index : Nat} (sleeps : tasks.task index = .sleeping) :
    Step specs gone tasks (tasks.goto index .accepting)
  /-- The receiver is gone: the send fails and the loop is left. -/
  | refuse {tasks : Tasks} {index : Nat} {accepted : AcceptedConnection} (dropped : gone = true)
    (sends : tasks.task index = .sending accepted) :
    Step specs gone tasks (tasks.goto index (.ended (some accepted)))
  /-- The task is aborted. -/
  | abort {tasks : Tasks} {index : Nat} (dropped : gone = true) :
    Step specs gone tasks (tasks.goto index (.ended (tasks.task index).hand))

/-- What the tasks send while the channel is being emptied, oldest first. -/
inductive Sends (specs : List PublishSpec) : Tasks → List AcceptedConnection → Tasks → Prop
  | done (tasks : Tasks) : Sends specs tasks [] tasks
  | step {first second third : Tasks} {late : List AcceptedConnection}
    (stepped : Step specs false first second) (rest : Sends specs second late third) :
    Sends specs first late third
  | send {first second : Tasks} {late : List AcceptedConnection} {index : Nat}
    {accepted : AcceptedConnection} (sends : first.task index = .sending accepted)
    (rest : Sends specs (first.send index accepted) late second) :
    Sends specs first (accepted :: late) second

/-- What every step of the tasks keeps. -/
structure Orderly (specs : List PublishSpec) (tasks : Tasks) : Prop where
  /-- Each task sends what it accepts, in order. -/
  inOrder : tasks.producers.InOrder
  /-- A connection carries the specification of its listener. -/
  listened : ∀ entry ∈ tasks.accepted, specs[entry.1]? = some entry.2.spec

variable {specs : List PublishSpec} {gone : Bool} {tasks next : Tasks}

/-- The tasks that have just been started are in order. -/
theorem Orderly.start (specs : List PublishSpec) : Orderly specs start where
  inOrder _ := rfl
  listened _ member := absurd member List.not_mem_nil

/-- The hands after one task went on. -/
theorem hands_goto (tasks : Tasks) (index : Nat) (task : AcceptTask) :
    (fun other => ((tasks.goto index task).task other).hand) =
      Function.update (fun other => (tasks.task other).hand) index task.hand := by
  funext other
  show (Function.update tasks.task index task other).hand = _
  by_cases here : other = index
  · rw [here, Function.update_self, Function.update_self]
  · rw [Function.update_of_ne here, Function.update_of_ne here]

/-- A task that goes on with the same connection in its hand sends nothing. -/
theorem Orderly.goto (orderly : Orderly specs tasks) {index : Nat} {task : AcceptTask}
    (same : task.hand = (tasks.task index).hand) : Orderly specs (tasks.goto index task) where
  inOrder := by
    have hands := hands_goto tasks index task
    rw [same, Function.update_eq_self] at hands
    have kept := orderly.inOrder
    unfold producers at kept ⊢
    rw [hands]
    exact kept
  listened := orderly.listened

/-- A connection that a task accepts from its own listener keeps the order. -/
theorem Orderly.take (orderly : Orderly specs tasks) {index : Nat} {accepted : AcceptedConnection}
    (waits : tasks.task index = .accepting) (listens : specs[index]? = some accepted.spec) :
    Orderly specs (tasks.take index accepted) where
  inOrder := by
    have empty : tasks.producers.hand index = none := by
      show (tasks.task index).hand = none
      rw [waits]
      rfl
    have made := orderly.inOrder.make empty accepted
    unfold producers Tasks.take
    rw [hands_goto]
    exact made
  listened entry member := by
    rcases List.mem_append.mp member with earlier | new
    · exact orderly.listened entry earlier
    · rw [List.mem_singleton] at new
      rw [new]
      exact listens

/-- A connection that a task puts on the channel keeps the order. -/
theorem Orderly.send (orderly : Orderly specs tasks) {index : Nat} {accepted : AcceptedConnection}
    (sends : tasks.task index = .sending accepted) :
    Orderly specs (tasks.send index accepted) where
  inOrder := by
    have holds : tasks.producers.hand index = some accepted := by
      show (tasks.task index).hand = some accepted
      rw [sends]
      rfl
    have put := orderly.inOrder.put holds
    unfold producers Tasks.send
    rw [hands_goto]
    exact put
  listened := orderly.listened

/-- A step keeps the tasks in order and sends nothing. -/
theorem Step.orderly (stepped : Step specs gone tasks next) (orderly : Orderly specs tasks) :
    Orderly specs next ∧ next.sent = tasks.sent := by
  cases stepped with
  | accept waits listens stream peerAddr => exact ⟨orderly.take waits listens, rfl⟩
  | fail waits => exact ⟨orderly.goto (by rw [waits]; rfl), rfl⟩
  | wake sleeps => exact ⟨orderly.goto (by rw [sleeps]; rfl), rfl⟩
  | refuse dropped sends => exact ⟨orderly.goto (by rw [sends]; rfl), rfl⟩
  | abort dropped => exact ⟨orderly.goto rfl, rfl⟩

/-- What is sent while the channel is emptied is recorded in order. -/
theorem Sends.orderly {late : List AcceptedConnection} (sends : Sends specs tasks late next)
    (orderly : Orderly specs tasks) :
    Orderly specs next ∧ next.sent.map Prod.snd = tasks.sent.map Prod.snd ++ late := by
  induction sends with
  | done tasks => exact ⟨orderly, (List.append_nil _).symm⟩
  | step stepped _ ih =>
    obtain ⟨kept, same⟩ := stepped.orderly orderly
    obtain ⟨last, sent⟩ := ih kept
    exact ⟨last, by rw [sent, same]⟩
  | send held _ ih =>
    obtain ⟨last, sent⟩ := ih (orderly.send held)
    refine ⟨last, ?_⟩
    rw [sent]
    simp [Tasks.send]

end Tasks

end Published

/-! ## The tasks and the component -/

namespace PublishedTcp

variable {stack : StackApi}

/-- The component with its accept tasks. -/
structure Listening (stack : StackApi) where
  /-- The accept tasks. -/
  tasks : Tasks
  /-- The component. -/
  component : Component stack
  /-- Whether the component was dropped. -/
  gone : Bool

namespace Listening

/-- A new component with its tasks. -/
def start (sockets : stack.Sockets) (interface : stack.Interface) : Listening stack :=
  ⟨.start, .start sockets interface, false⟩

/-- A step of the tasks or of the component. -/
inductive Step (specs : List PublishSpec) : Listening stack → Listening stack → Prop
  /-- A task does something that concerns no one else. -/
  | task {listening : Listening stack} {tasks : Tasks}
    (stepped : Tasks.Step specs listening.gone listening.tasks tasks) :
    Step specs listening { listening with tasks := tasks }
  /-- A task sends its connection, because there is room in the channel. -/
  | send {listening : Listening stack} {index : Nat} {accepted : AcceptedConnection}
    {published : PublishedTcp} (there : listening.gone = false)
    (sends : listening.tasks.task index = .sending accepted)
    (room : listening.component.published.send accepted = some published) :
    Step specs listening { listening with
      tasks := listening.tasks.send index accepted
      component := { listening.component with
        published := published
        sent := listening.component.sent ++ [accepted] } }
  /-- `attach_accepted`, while the tasks go on sending. -/
  | attach {listening : Listening stack} {tasks : Tasks} {late : List AcceptedConnection}
    (there : listening.gone = false) (sends : Tasks.Sends specs listening.tasks late tasks)
    (clock : Nat → Nat) :
    Step specs listening { listening with
      tasks := tasks, component := listening.component.attached clock late }
  /-- The component does something else. -/
  | other {listening : Listening stack} {component : Component stack}
    (there : listening.gone = false)
    (stepped : Component.Step listening.component component)
    (silent : component.sent = listening.component.sent) :
    Step specs listening { listening with component := component }
  /-- The component is dropped. -/
  | drop {listening : Listening stack} : Step specs listening { listening with gone := true }

/-- A state that a run from a new component reaches. -/
def Reachable (specs : List PublishSpec) (listening : Listening stack) : Prop :=
  ∃ sockets interface, Relation.ReflTransGen (Step specs) (start sockets interface) listening

/-- What every step keeps. -/
structure Sound (specs : List PublishSpec) (listening : Listening stack) : Prop where
  /-- The tasks are in order. -/
  orderly : listening.tasks.Orderly specs
  /-- What the tasks sent is what the channel received. -/
  passed : listening.tasks.sent.map Prod.snd = listening.component.sent
  /-- The component is in a state of its own runs. -/
  reached : listening.component.Reachable
  /-- The channel is bounded. -/
  bounded : listening.component.published.acceptedRx.length ≤ acceptQueue

end Listening

/-- No step of the component but a send fills the channel, and a send stops at its bound. -/
theorem Component.Step.bounded {before after : Component stack} (step : Component.Step before after)
    (sound : Component.Sound before)
    (bounded : before.published.acceptedRx.length ≤ acceptQueue) :
    after.published.acceptedRx.length ≤ acceptQueue := by
  cases step with
  | @send published accepted room =>
    unfold PublishedTcp.send at room
    split at room
    · next below =>
      have same := Option.some.inj room
      rw [← same]
      simp only [List.length_append, List.length_singleton]
      omega
    · cases room
  | @pollReady published sockets ready input ran =>
    obtain ⟨other, same⟩ := pollReady_ok input _ sound.owns
    rw [same] at ran
    simp only [Except.ok.injEq, Prod.mk.injEq] at ran
    show published.acceptedRx.length ≤ acceptQueue
    rw [← ran.2.1]
    unfold pollRecv
    split
    · exact bounded
    · next accepted rest waiting =>
      rw [waiting, List.length_cons] at bounded
      split
      · exact (by rw [waiting, List.length_cons]; exact bounded)
      · show rest.length ≤ acceptQueue
        omega
  | attachAccepted clock late =>
    obtain ⟨settles, -⟩ := attachAccepted_settles clock late before.interface before.published
      before.sockets
    have emptied : (before.attached clock late).published.acceptedRx = [] := settles.queues.2
    rw [emptied]
    exact Nat.zero_le _
  | @process published sockets input ran =>
    obtain ⟨next, same, works⟩ := process_works input _ sound.owns
    rw [ran] at same
    have equal := Except.ok.inj same
    rw [← equal] at works
    show published.acceptedRx.length ≤ acceptQueue
    rw [works.queues.2]
    exact bounded
  | @cleanup published sockets order ran =>
    obtain ⟨next, same, works⟩ := cleanup_works order _ sound.owns
    rw [ran] at same
    have equal := Except.ok.inj same
    rw [← equal] at works
    show published.acceptedRx.length ≤ acceptQueue
    rw [works.queues.2]
    exact bounded
  | others sockets interface kept => exact bounded

namespace Listening

variable {specs : List PublishSpec} {before after listening : Listening stack}

/-- Every step keeps the tasks and the component sound. -/
theorem Step.sound (step : Step specs before after) (sound : Sound specs before) :
    Sound specs after := by
  cases step with
  | task stepped =>
    obtain ⟨orderly, same⟩ := stepped.orderly sound.orderly
    exact { sound with orderly := orderly, passed := by rw [same]; exact sound.passed }
  | @send index accepted published there sends room =>
    have step : Component.Step before.component
        { before.component with
          published := published
          sent := before.component.sent ++ [accepted] } := .send accepted room
    refine ⟨sound.orderly.send sends, ?_, sound.reached.step step,
      step.bounded sound.reached.sound sound.bounded⟩
    show (before.tasks.sent ++ [(index, accepted)]).map Prod.snd = _
    rw [List.map_append, sound.passed]
    rfl
  | @attach tasks late there sends clock =>
    have step : Component.Step before.component (before.component.attached clock late) :=
      .attachAccepted clock late
    obtain ⟨orderly, passed⟩ := sends.orderly sound.orderly
    refine ⟨orderly, ?_, sound.reached.step step,
      step.bounded sound.reached.sound sound.bounded⟩
    rw [passed, sound.passed]
    rfl
  | other there stepped silent =>
    exact ⟨sound.orderly, by rw [silent]; exact sound.passed, sound.reached.step stepped,
      stepped.bounded sound.reached.sound sound.bounded⟩
  | drop => exact ⟨sound.orderly, sound.passed, sound.reached, sound.bounded⟩

/-- Every reachable state is sound. -/
theorem Reachable.sound (reached : listening.Reachable specs) : Sound specs listening := by
  obtain ⟨sockets, interface, steps⟩ := reached
  induction steps with
  | refl =>
    exact ⟨Tasks.Orderly.start specs, rfl, ⟨sockets, interface, .refl⟩, Nat.zero_le _⟩
  | tail _ step kept => exact step.sound kept

end Listening

/-- In every state that the accept tasks and the component reach, in whatever order they act:
of each listener, the connections accepted are those it has sent, in order, and the one its
task holds; the connections sent are those taken up, those pending and those in the channel, in
the order sent; the channel holds no more than its bound; and each connection carries the
specification of the listener that accepted it. -/
theorem accepted_connections_arrive_in_order {specs : List PublishSpec}
    {listening : Listening stack} (reached : listening.Reachable specs) :
    (∀ index, ofProducer listening.tasks.accepted index =
      ofProducer listening.tasks.sent index ++ (listening.tasks.task index).hand.toList) ∧
    listening.tasks.sent.map Prod.snd = listening.component.settled.map Prod.fst ++
      (listening.component.published.pending ++ listening.component.published.acceptedRx) ∧
    listening.component.published.acceptedRx.length ≤ acceptQueue ∧
    ∀ entry ∈ listening.tasks.accepted, specs[entry.1]? = some entry.2.spec := by
  have sound := reached.sound
  refine ⟨sound.orderly.inOrder, ?_, sound.bounded, sound.orderly.listened⟩
  rw [sound.passed]
  exact sound.reached.sound.traced

/-- Two listeners accept, the second sends first, and the first one's connection is still in the
hand of its task. -/
theorem accepted_connections_arrive_in_order_two :
    let specs : List PublishSpec := [⟨.unspecified, 8080, 80⟩, ⟨.unspecified, 8443, 443⟩]
    ∃ listening : Listening quietStack, listening.Reachable specs ∧
      listening.component.published.acceptedRx.map (·.spec) = [⟨.unspecified, 8443, 443⟩] ∧
      (ofProducer listening.tasks.accepted 0).length = 1 ∧
      ofProducer listening.tasks.accepted 0 =
        ofProducer listening.tasks.sent 0 ++ (listening.tasks.task 0).hand.toList := by
  intro specs
  let one : AcceptedConnection := ⟨⟨[], [], []⟩, ⟨.new 127 0 0 1, 40000⟩, ⟨.unspecified, 8080, 80⟩⟩
  let two : AcceptedConnection :=
    ⟨⟨[], [], []⟩, ⟨.new 127 0 0 1, 40001⟩, ⟨.unspecified, 8443, 443⟩⟩
  let start : Listening quietStack := .start ∅ ()
  have first : Tasks.Step specs false .start (Tasks.start.take 0 one) := .accept rfl rfl _ _
  have second : Tasks.Step specs false (Tasks.start.take 0 one)
    ((Tasks.start.take 0 one).take 1 two) := .accept rfl rfl _ _
  have holds : ((Tasks.start.take 0 one).take 1 two).task 1 = .sending two := rfl
  have room : start.component.published.send two =
    some { start.component.published with acceptedRx := [two] } := rfl
  have reached : ∃ listening : Listening quietStack, listening.Reachable specs ∧
      listening.component.published.acceptedRx.map (·.spec) = [⟨.unspecified, 8443, 443⟩] ∧
      (ofProducer listening.tasks.accepted 0).length = 1 :=
    ⟨_, ⟨∅, (), .tail (.tail (.single (.task first)) (.task second)) (.send rfl holds room)⟩,
      rfl, rfl⟩
  obtain ⟨listening, reached, queued, count⟩ := reached
  exact ⟨listening, reached, queued, count, (accepted_connections_arrive_in_order reached).1 0⟩

end PublishedTcp

end NsProxy.EventLoop
