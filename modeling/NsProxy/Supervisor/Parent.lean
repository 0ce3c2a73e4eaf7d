import NsProxy.EventLoop.Loop
import NsProxy.Process.Reaper

/-!
# The parent while the command runs

`parent_main` of `main.rs` from the ready signal on, with everything that runs beside it: the
thread that waits for the namespace child, the event loop task of `event_loop.rs`, and the child
itself, which is the reaper of `process.rs`. A step is one act of one of them, in any order.
Signals that reach a stream or a blocked mask while the same signal is already pending there are
one signal.
-/

namespace NsProxy.Supervisor

open Process Smoltcp

/-- The signals that have a stream. -/
def streamSignals : List Signal := [.sigterm, .sigint, .sighup]

/-- How the child ended, as the system keeps it. -/
inductive ChildEnd
  | exited (code : Int)
  | killed (signal : Signal)
  deriving DecidableEq, Repr

/-- The part of an exit code that the system keeps. -/
def exitStatus (code : Int) : Int := code % 256

/-- The exit code of the child after `child_main`. -/
def childExitCode : Except Error Int → Int
  | .ok code => code
  | .error _ => 1

/-- The child. -/
inductive Child
  | running
  | zombie (ending : ChildEnd)
  | reaped (ending : ChildEnd)
  deriving DecidableEq, Repr

/-- The loop body of the waiting thread: its result, or nothing when it waits again. -/
def childWait : Except Errno WaitStatus → Option (Except Error Int)
  | .ok (.exited _ code) => some (.ok code)
  | .ok (.signaled _ signal _) => some (.ok (128 + signal.number))
  | .ok _ => none
  | .error .eintr => none
  | .error errno => some (.error ["waitpid: " ++ errno.text])

/-- What `waitpid` can say of the child, and the child after it. -/
def reapChild (child : Child) : Except Errno WaitStatus → Option Child
  | .ok (.exited _ code) =>
    if child = .zombie (.exited code) then some (.reaped (.exited code)) else none
  | .ok (.signaled _ signal _) =>
    if child = .zombie (.killed signal) then some (.reaped (.killed signal)) else none
  | _ => some child

/-- What a joined task gives. -/
inductive Joined
  | finished (result : Except Error Int)
  | panicked

/-- The match on `child_status`. -/
def exitCode : Joined → Int
  | .finished (.ok code) => code
  | .finished (.error _) => 1
  | .panicked => 1

/-- The waiting thread, and whether its result was taken. -/
inductive Waiter
  | waiting
  | done (joined : Joined)
  | taken (joined : Joined)

/-- Where `parent_main` stands. -/
inductive Control
  /-- The `select!` loop. -/
  | selecting
  /-- The wait for the event loop, at most two seconds. -/
  | stopping (exitCode : Int)
  /-- `std::process::exit`. -/
  | exited (exitCode : Int)
  deriving DecidableEq, Repr

/-- How the event loop task ended. -/
inductive LoopEnd
  | clean
  | failed
  | panicked
  deriving DecidableEq, Repr

/-- Where the event loop task stands. -/
inductive LoopTask
  /-- `EventLoop::new`. -/
  | starting
  /-- The first `shutdown.borrow()` of `wait_for_work`. -/
  | checking
  /-- The `select!` of `wait_for_work`. -/
  | waiting
  /-- The last `shutdown.borrow()` of `wait_for_work`. -/
  | woken
  /-- `tick`. -/
  | ticking
  | ended (how : LoopEnd)
  deriving DecidableEq, Repr

/-- What is recorded. -/
inductive Entry
  /-- A signal reached nsproxy. -/
  | arrived (signal : Signal)
  /-- `forward_signal` was called for the child. -/
  | forwarded (signal : Signal)
  /-- `shutdown_tx.send`. -/
  | shutDown
  /-- `tick` was called. -/
  | ticked
  deriving DecidableEq, Repr

/-- Everything that runs. -/
structure System (stack : StackApi) (regex : RegexApi) where
  /-- `parent_main`. -/
  control : Control
  /-- The signals pending in the streams. -/
  streams : Signal → Bool
  /-- The waiting thread. -/
  waiter : Waiter
  /-- The value of the shutdown channel. -/
  shutdown : Bool
  /-- The event loop task. -/
  task : LoopTask
  /-- The event loop. -/
  loop : EventLoop stack regex
  /-- The child. -/
  child : Child
  /-- The signals pending in the child, which blocks them. -/
  queued : Signal → Bool
  /-- The reaper in the child. -/
  reaper : Reaper
  /-- What the system has answered to the reaper. -/
  answers : List Answer
  /-- What happened, oldest first. -/
  log : List Entry

/-- What can happen. -/
inductive Act
  /-- A signal reaches nsproxy. -/
  | arrive (signal : Signal)
  /-- The `select!` takes a stream, and `kill` answers. -/
  | forward (signal : Signal) (answer : Except Errno Unit)
  /-- `waitpid` returns in the waiting thread. -/
  | waitpid (result : Except Errno WaitStatus)
  /-- The waiting thread panics. -/
  | waiterPanics
  /-- The `select!` takes the result of the waiting thread. -/
  | takeResult
  /-- `EventLoop::new` returns. -/
  | loopNew (succeeds : Bool)
  /-- The first look at the shutdown channel. -/
  | loopCheck
  /-- The `select!` of `wait_for_work` polls readiness. -/
  | loopPoll (outbound : EventLoop.OutboundTcp.PollInput)
    (published : EventLoop.PublishedTcp.PollInput)
  /-- A branch of the `select!` of `wait_for_work` is taken. -/
  | loopWake
  /-- The last look at the shutdown channel. -/
  | loopDecide
  /-- `tick`. -/
  | loopTick (input : EventLoop.TickInput)
  /-- An accept task sends a connection. -/
  | accept (accepted : EventLoop.Published.AcceptedConnection)
  /-- The event loop task is joined. -/
  | join
  /-- Two seconds have passed since the shutdown. -/
  | timeout
  /-- The system answers the reaper. -/
  | reaper (answer : Answer)
  /-- The child fails before its reaper starts. -/
  | childFails
  /-- `child_main` has returned. -/
  | childExits
  /-- The child is killed by a signal. -/
  | childKilled (signal : Signal)

namespace System

variable {stack : StackApi} {regex : RegexApi}

/-- The moment after the ready signal. -/
def start (config : AppConfig regex) (interface : stack.Interface) : System stack regex where
  control := .selecting
  streams := fun _ => false
  waiter := .waiting
  shutdown := false
  task := .starting
  loop := .new config interface
  child := .running
  queued := fun _ => false
  reaper := .start
  answers := []
  log := []

/-- Record an entry. -/
def record (system : System stack regex) (entry : Entry) : System stack regex :=
  { system with log := system.log ++ [entry] }

/-- `forward_signal`: the signal becomes pending in a child that runs. -/
def deliver (system : System stack regex) (signal : Signal) (answer : Except Errno Unit) :
    System stack regex :=
  match system.child, answer with
  | .running, .ok _ => { system with queued := Function.update system.queued signal true }
  | _, _ => system

/-- `shutdown_tx.send(true)`, which changes nothing when the receiver is gone. -/
def sendShutdown (system : System stack regex) : System stack regex :=
  match system.task with
  | .ended _ => system
  | _ => { system with shutdown := true }

/-- A look at the shutdown channel: the loop ends, or goes on. -/
def look (system : System stack regex) (next : LoopTask) : System stack regex :=
  { system with task := if system.shutdown then .ended .clean else next }

/-- The event loop does something; a panic ends the task. -/
def drive (system : System stack regex) (next : LoopTask) (event : EventLoop.Event) :
    System stack regex :=
  match system.loop.step event with
  | .ok loop => { system with loop := loop, task := next }
  | .error _ => { system with task := .ended .panicked }

/-- The signal that an answer takes out of the child's pending ones. -/
def takes : Answer → Option Signal
  | .received signal _ _ => if signal = .sigchld then none else some signal
  | _ => none

/-- One act of a process or thread that is still there. `root` is the number of the child and
`commandPid` that of the command. -/
def act (root commandPid : Pid) (system : System stack regex) : Act → Option (System stack regex)
  | .arrive signal =>
    if signal ∈ streamSignals then
      some ({ system with streams := Function.update system.streams signal true }.record
        (.arrived signal))
    else none
  | .forward signal answer =>
    if system.control = .selecting ∧ system.streams signal = true then
      some (({ system with streams := Function.update system.streams signal false }.deliver signal
        answer).record (.forwarded signal))
    else none
  | .waitpid result =>
    match system.waiter, reapChild system.child result with
    | .waiting, some child =>
      match childWait result with
      | some returned =>
        some { system with child := child, waiter := .done (.finished returned) }
      | none => some { system with child := child }
    | _, _ => none
  | .waiterPanics =>
    match system.waiter with
    | .waiting => some { system with waiter := .done .panicked }
    | _ => none
  | .takeResult =>
    match system.control, system.waiter with
    | .selecting, .done joined =>
      some ({ system with
        control := .stopping (exitCode joined), waiter := .taken joined }.sendShutdown.record
          .shutDown)
    | _, _ => none
  | .loopNew succeeds =>
    if system.task = .starting then
      some { system with task := if succeeds then .checking else .ended .failed }
    else none
  | .loopCheck => if system.task = .checking then some (system.look .waiting) else none
  | .loopPoll outbound published =>
    if system.task = .waiting then some (system.drive .waiting (.poll outbound published)) else none
  | .loopWake => if system.task = .waiting then some { system with task := .woken } else none
  | .loopDecide => if system.task = .woken then some (system.look .ticking) else none
  | .loopTick input =>
    if system.task = .ticking then some ((system.drive .checking (.tick input)).record .ticked)
    else none
  | .accept accepted =>
    match system.task with
    | .starting | .ended _ => none
    | task => some (system.drive task (.accept accepted))
  | .join =>
    match system.control, system.task with
    | .stopping code, .ended _ => some { system with control := .exited code }
    | _, _ => none
  | .timeout =>
    match system.control with
    | .stopping code => some { system with control := .exited code }
    | _ => none
  | .reaper answer =>
    if system.child = .running ∧ ∀ signal ∈ takes answer, system.queued signal = true then
      (system.reaper.step root commandPid answer).map fun reaper =>
        { system with
          reaper := reaper
          answers := system.answers ++ [answer]
          queued := match takes answer with
            | some signal => Function.update system.queued signal false
            | none => system.queued }
    else none
  | .childFails =>
    if system.child = .running ∧ system.answers.isEmpty then
      some { system with child := .zombie (.exited 1) }
    else none
  | .childExits =>
    match system.child, system.reaper.control with
    | .running, .returned result =>
      some { system with child := .zombie (.exited (exitStatus (childExitCode result))) }
    | _, _ => none
  | .childKilled signal =>
    if system.child = .running then some { system with child := .zombie (.killed signal) } else none

/-- Whether the one that acts is still there: after `exit` only the child is left. -/
def present (system : System stack regex) : Act → Bool
  | .reaper _ | .childFails | .childExits | .childKilled _ => true
  | _ =>
    match system.control with
    | .exited _ => false
    | _ => true

/-- One act, if it can happen. -/
def step (root commandPid : Pid) (system : System stack regex) (made : Act) :
    Option (System stack regex) :=
  if system.present made then system.act root commandPid made else none

/-- Acts in order. -/
def run (root commandPid : Pid) (system : System stack regex) (acts : List Act) :
    Option (System stack regex) :=
  acts.foldlM (step root commandPid) system

end System

end NsProxy.Supervisor
