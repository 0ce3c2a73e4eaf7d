import NsProxy.Process.Descendants

/-!
# The reaper of the command tree

`wait_for_command_tree` of `process.rs` as a machine that stops at each call to the system:
`waitpid`, the clock with a round of `signal_descendants`, and `sigtimedwait`. One step takes
the answer to the call at which the machine stands. Times are in nanoseconds.
-/

namespace NsProxy.Process

/-- `TERMINATION_GRACE`. -/
def terminationGrace : Nat := 2000000000

/-- The signals that `run_command_tree` blocks and waits for. -/
def managedSignals : List Signal := [.sigchld, .sigterm, .sigint, .sighup]

/-- `nix::sys::wait::WaitStatus`. -/
inductive WaitStatus
  | exited (pid : Pid) (code : Int)
  | signaled (pid : Pid) (signal : Signal) (coreDumped : Bool)
  | stopped (pid : Pid) (signal : Signal)
  | ptraceEvent (pid : Pid) (signal : Signal) (event : Int)
  | ptraceSyscall (pid : Pid)
  | continued (pid : Pid)
  | stillAlive
  deriving DecidableEq, Repr

/-- What a call returns to the reaper. -/
inductive Answer
  /-- `waitpid(-1, WNOHANG)`. -/
  | waitpid (result : Except Errno WaitStatus)
  /-- The clock, and what the system answers to `signal_descendants`. -/
  | round (now : Nat) (proc : ProcTable)
  /-- `sigtimedwait` fails, or runs into its timeout (`EAGAIN`). -/
  | interrupted (errno : Errno)
  /-- `sigtimedwait` returns one of the signals waited for; the clock is read after it. -/
  | received (signal : Signal) (managed : signal ∈ managedSignals) (now : Nat)

/-- The call at which the reaper stands. -/
inductive Control
  /-- `waitpid` of the inner loop. -/
  | reaping
  /-- The clock and `signal_descendants`, with the pair in `termination`. -/
  | forwarding (signal : Signal) (deadline : Nat)
  /-- `sigtimedwait`, with a timeout or without. -/
  | waiting (timeout : Option Nat)
  /-- The function has returned. -/
  | returned (result : Except Error Int)

/-- What the reaper does. -/
inductive Act
  /-- `waitpid` returned. -/
  | reaped (result : Except Errno WaitStatus)
  /-- A round of `signal_descendants` at a time, with the processes it called `kill` for. -/
  | round (now : Nat) (signal : Signal) (sent : List Pid) (result : Except Error Unit)
  /-- A call of `sigtimedwait`. -/
  | wait (timeout : Option Nat)
  /-- A termination signal was received at a time. -/
  | received (signal : Signal) (now : Nat)

/-- The variables of `wait_for_command_tree`, with what it has done so far. -/
structure Reaper where
  /-- Where it stands. -/
  control : Control
  /-- `command_exit_code`. -/
  commandExitCode : Option Int
  /-- `termination`: the signal to forward and the deadline. -/
  termination : Option (Signal × Nat)
  /-- Everything done, oldest first. -/
  history : List Act

namespace Reaper

/-- The entry of `wait_for_command_tree`. -/
def start : Reaper := ⟨.reaping, none, none, []⟩

/-- Add to the history. -/
def log (reaper : Reaper) (act : Act) : Reaper := { reaper with history := reaper.history ++ [act] }

/-- Go to a call. -/
def goto (reaper : Reaper) (control : Control) : Reaper := { reaper with control := control }

/-- Call `sigtimedwait`. -/
def wait (reaper : Reaper) (timeout : Option Nat) : Reaper :=
  (reaper.log (.wait timeout)).goto (.waiting timeout)

/-- Keep a status if it is that of the command's process. -/
def note (commandPid : Pid) (reaper : Reaper) (pid : Pid) (code : Int) : Reaper :=
  if pid = commandPid then { reaper with commandExitCode := some code } else reaper

/-- The part of the loop after the inner loop was left: without a termination signal the next
call is `sigtimedwait`. -/
def afterReaping (reaper : Reaper) : Reaper :=
  match reaper.termination with
  | none => reaper.wait none
  | some (signal, deadline) => reaper.goto (.forwarding signal deadline)

/-- The match on the result of `waitpid`. -/
def reap (commandPid : Pid) (reaper : Reaper) : Except Errno WaitStatus → Reaper
  | .ok (.exited pid code) => reaper.note commandPid pid code
  | .ok (.signaled pid signal _) => reaper.note commandPid pid (128 + signal.number)
  | .ok .stillAlive => reaper.afterReaping
  | .ok _ => reaper
  | .error .eintr => reaper
  | .error .echild => reaper.goto (.returned
    (Error.contextOption "command process exited without status" reaper.commandExitCode))
  | .error errno => reaper.goto (.returned
    (Error.context "waitpid command tree" (.error [errno.text])))

/-- One round of signals to the descendants, and the timeout of the next wait. -/
def forward (root : Pid) (reaper : Reaper) (signal : Signal) (deadline now : Nat)
    (proc : ProcTable) : Reaper :=
  let remaining := deadline - now
  let signal := if remaining = 0 then .sigkill else signal
  let (sent, result) := signalDescendants proc root signal
  let reaper := reaper.log (.round now signal sent result)
  match result with
  | .error causes => reaper.goto (.returned (.error causes))
  | .ok () => reaper.wait (some (if remaining = 0 then 100000000 else remaining))

/-- `sigtimedwait` returned an error. -/
def interrupt (reaper : Reaper) : Errno → Reaper
  | .eintr | .eagain => reaper.goto .reaping
  | errno => reaper.goto (.returned
    (Error.context "wait for command-tree signal" (.error [errno.text])))

/-- A termination signal: the first one sets the deadline, each one is the signal to forward. -/
def terminate (reaper : Reaper) (signal : Signal) (now : Nat) : Reaper :=
  let (_, deadline) := reaper.termination.getD (signal, now + terminationGrace)
  { reaper with termination := some (signal, deadline) }.log (.received signal now)

/-- `sigtimedwait` returned the number of a signal. -/
def receive (reaper : Reaper) (number : Int) (now : Nat) : Reaper :=
  match Signal.tryFrom number with
  | .error causes => reaper.goto (.returned (.error causes))
  | .ok signal =>
    if signal ≠ .sigchld then (reaper.terminate signal now).goto .reaping
    else reaper.goto .reaping

/-- Take the answer to the call at which the reaper stands; `none` if it is an answer to
another call. `root` is `getpid()`. -/
def step (root commandPid : Pid) (reaper : Reaper) (answer : Answer) : Option Reaper :=
  match reaper.control, answer with
  | .reaping, .waitpid result => some ((reaper.log (.reaped result)).reap commandPid result)
  | .forwarding signal deadline, .round now proc =>
    some (reaper.forward root signal deadline now proc)
  | .waiting _, .interrupted errno => some (reaper.interrupt errno)
  | .waiting _, .received signal _ now => some (reaper.receive signal.number now)
  | _, _ => none

/-- Take answers in order. -/
def run (root commandPid : Pid) (reaper : Reaper) (answers : List Answer) : Option Reaper :=
  answers.foldlM (step root commandPid) reaper

/-! ## What a step can do -/

section Fields

variable (reaper : Reaper) (act : Act) (control : Control) (timeout : Option Nat)

/-- Logging an act puts it at the end of the history. -/
@[simp] theorem log_history : (reaper.log act).history = reaper.history ++ [act] := rfl

/-- Logging leaves the control alone. -/
@[simp] theorem log_control : (reaper.log act).control = reaper.control := rfl

/-- Logging leaves the termination alone. -/
@[simp] theorem log_termination : (reaper.log act).termination = reaper.termination := rfl

/-- Logging leaves the exit code of the command alone. -/
@[simp] theorem log_commandExitCode :
    (reaper.log act).commandExitCode = reaper.commandExitCode := rfl

/-- Moving on leaves the history alone. -/
@[simp] theorem goto_history : (reaper.goto control).history = reaper.history := rfl

/-- Moving on sets the control. -/
@[simp] theorem goto_control : (reaper.goto control).control = control := rfl

/-- Moving on leaves the termination alone. -/
@[simp] theorem goto_termination : (reaper.goto control).termination = reaper.termination := rfl

/-- Moving on leaves the exit code of the command alone. -/
@[simp] theorem goto_commandExitCode :
    (reaper.goto control).commandExitCode = reaper.commandExitCode := rfl

/-- A wait is an act of the history. -/
@[simp] theorem wait_history :
    (reaper.wait timeout).history = reaper.history ++ [.wait timeout] := rfl

/-- A wait stands at its timeout. -/
@[simp] theorem wait_control : (reaper.wait timeout).control = .waiting timeout := rfl

/-- A wait leaves the termination alone. -/
@[simp] theorem wait_termination : (reaper.wait timeout).termination = reaper.termination := rfl

/-- A wait leaves the exit code of the command alone. -/
@[simp] theorem wait_commandExitCode :
    (reaper.wait timeout).commandExitCode = reaper.commandExitCode := rfl

/-- The number of a signal is read back as that signal. -/
theorem receive_number (signal : Signal) (now : Nat) :
    reaper.receive signal.number now =
      (if signal = .sigchld then reaper else reaper.terminate signal now).goto .reaping := by
  unfold receive
  rw [Signal.tryFrom_number]
  by_cases child : signal = .sigchld
  · simp [child]
  · simp [child]

end Fields

/-- A step takes an answer to the call at which the reaper stands. -/
theorem step_cases {root commandPid : Pid} {reaper next : Reaper} {answer : Answer}
    (taken : step root commandPid reaper answer = some next) :
    (∃ result, reaper.control = .reaping ∧ answer = .waitpid result ∧
      next = (reaper.log (.reaped result)).reap commandPid result) ∨
    (∃ signal deadline now proc, reaper.control = .forwarding signal deadline ∧
      answer = .round now proc ∧ next = reaper.forward root signal deadline now proc) ∨
    (∃ timeout errno, reaper.control = .waiting timeout ∧ answer = .interrupted errno ∧
      next = reaper.interrupt errno) ∨
    (∃ timeout signal managed now, reaper.control = .waiting timeout ∧
      answer = .received signal managed now ∧
      next = (if signal = .sigchld then reaper
        else reaper.terminate signal now).goto .reaping) := by
  unfold step at taken
  split at taken
  · rename_i result standing
    exact Or.inl ⟨result, standing, rfl, (Option.some.inj taken).symm⟩
  · rename_i signal deadline now proc standing
    exact Or.inr (Or.inl ⟨signal, deadline, now, proc, standing, rfl, (Option.some.inj taken).symm⟩)
  · rename_i timeout errno standing
    exact Or.inr (Or.inr (Or.inl ⟨timeout, errno, standing, rfl, (Option.some.inj taken).symm⟩))
  · rename_i timeout signal managed now standing
    rw [receive_number] at taken
    exact Or.inr (Or.inr (Or.inr
      ⟨timeout, signal, managed, now, standing, rfl, (Option.some.inj taken).symm⟩))
  · contradiction

/-- The match on the result of `waitpid` at most keeps a status and goes on reaping, leaves the
inner loop for a wait or a round, or returns; it returns a code only for `ECHILD`. -/
theorem reap_cases (commandPid : Pid) (reaper : Reaper) (result : Except Errno WaitStatus) :
    (∃ code, reaper.reap commandPid result = { reaper with commandExitCode := code }) ∨
    (reaper.termination = none ∧ reaper.reap commandPid result = reaper.wait none) ∨
    (∃ signal deadline, reaper.termination = some (signal, deadline) ∧
      reaper.reap commandPid result = reaper.goto (.forwarding signal deadline)) ∨
    (∃ errno ended, result = .error errno ∧ errno ≠ .eintr ∧
      (∀ code, ended = .ok code → errno = .echild ∧ reaper.commandExitCode = some code) ∧
      reaper.reap commandPid result = reaper.goto (.returned ended)) := by
  have noted : ∀ pid code,
      ∃ kept, reaper.note commandPid pid code = { reaper with commandExitCode := kept } := by
    intro pid code
    unfold note
    split
    · exact ⟨some code, rfl⟩
    · exact ⟨reaper.commandExitCode, rfl⟩
  cases result with
  | error errno =>
    by_cases interrupted : errno = .eintr
    · rw [interrupted]
      exact Or.inl ⟨reaper.commandExitCode, rfl⟩
    · refine Or.inr (Or.inr (Or.inr ⟨errno, ?_⟩))
      cases errno with
      | eintr => exact absurd rfl interrupted
      | echild => exact ⟨_, rfl, interrupted, fun code same => ⟨rfl, by simpa using same⟩, rfl⟩
      | _ => exact ⟨_, rfl, interrupted, fun code same => by simp [Error.context] at same, rfl⟩
  | ok status =>
    cases status with
    | exited pid code => exact Or.inl (noted pid code)
    | signaled pid signal coreDumped => exact Or.inl (noted pid _)
    | stillAlive =>
      right
      unfold reap afterReaping
      cases set : reaper.termination with
      | none => exact Or.inl ⟨rfl, rfl⟩
      | some pair => exact Or.inr (Or.inl ⟨pair.1, pair.2, rfl, rfl⟩)
    | _ => exact Or.inl ⟨reaper.commandExitCode, rfl⟩

/-- A round sends one signal and goes on to the next wait, or returns its error. -/
theorem forward_cases (root : Pid) (reaper : Reaper) (signal : Signal) (deadline now : Nat)
    (proc : ProcTable) :
    ∃ sent result, signalDescendants proc root (if now < deadline then signal else .sigkill) =
        (sent, result) ∧
      ((∃ causes, result = .error causes ∧
        reaper.forward root signal deadline now proc =
          (reaper.log (.round now (if now < deadline then signal else .sigkill) sent result)).goto
            (.returned (.error causes))) ∨
      (∃ timeout, result = .ok () ∧
        reaper.forward root signal deadline now proc =
          (reaper.log (.round now (if now < deadline then signal else .sigkill) sent result)).wait
            (some timeout))) := by
  have used : (if deadline - now = 0 then Signal.sigkill else signal) =
      if now < deadline then signal else .sigkill := by
    by_cases early : now < deadline
    · have left : deadline - now ≠ 0 := by omega
      rw [if_neg left, if_pos early]
    · have none : deadline - now = 0 := by omega
      rw [if_pos none, if_neg early]
  unfold forward
  simp only [used]
  cases outcome : signalDescendants proc root (if now < deadline then signal else .sigkill) with
  | mk sent result =>
    refine ⟨sent, result, rfl, ?_⟩
    cases result with
    | error causes => exact Or.inl ⟨causes, rfl, rfl⟩
    | ok done => exact Or.inr ⟨_, rfl, rfl⟩

/-- A run takes its first answer and goes on. -/
theorem run_cons {root commandPid : Pid} {reaper last : Reaper} {answer : Answer}
    {rest : List Answer} (ran : run root commandPid reaper (answer :: rest) = some last) :
    ∃ next, step root commandPid reaper answer = some next ∧
      run root commandPid next rest = some last := by
  simpa [run, List.foldlM_cons, Option.bind_eq_some_iff] using ran

/-- A run takes its last answer after the others. -/
theorem run_append {root commandPid : Pid} {reaper last : Reaper} {final : Answer}
    {earlier : List Answer} (ran : run root commandPid reaper (earlier ++ [final]) = some last) :
    ∃ before, run root commandPid reaper earlier = some before ∧
      step root commandPid before final = some last := by
  simpa [run, List.foldlM_append, Option.bind_eq_some_iff] using ran

/-- A property that every step keeps holds at the end of every run. -/
theorem run_invariant {root commandPid : Pid} (invariant : Reaper → Prop)
    (keeps : ∀ reaper answer next, invariant reaper →
      step root commandPid reaper answer = some next → invariant next)
    (answers : List Answer) (reaper last : Reaper) (start : invariant reaper)
    (ran : run root commandPid reaper answers = some last) : invariant last := by
  induction answers generalizing reaper with
  | nil =>
    have same : reaper = last := by simpa [run] using ran
    rw [← same]
    exact start
  | cons answer rest ih =>
    obtain ⟨next, taken, later⟩ := run_cons ran
    exact ih next (keeps reaper answer next start taken) later

end Reaper

end NsProxy.Process
