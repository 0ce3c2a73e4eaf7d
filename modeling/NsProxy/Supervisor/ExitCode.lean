import NsProxy.Process.ExitStatus
import NsProxy.Supervisor.Shutdown

/-!
# The exit code of nsproxy

The proxy serves until the child was waited for, and the exit code of nsproxy is that of the
command: it comes through the reaper, the exit of the child and the wait of the parent.
-/

namespace NsProxy.Supervisor

open Process Smoltcp EventLoop

variable {stack : StackApi} {regex : RegexApi} {root commandPid : Pid}
  {last : System stack regex}


/-- The result of the waiting thread was taken, and a code in it is the end of the child. -/
def WaitOver (system : System stack regex) : Prop :=
  ∃ joined, system.waiter = .taken joined ∧
    ∀ code, joined = .finished (.ok code) →
      ∃ ending, system.child = .reaped ending ∧ code = ending.code

/-- Past the select the wait for the child is over. -/
theorem Sound.waitOver (sound : Sound root commandPid last) (past : last.control ≠ .selecting) :
    WaitOver last := by
  have follows := sound.follows
  have waits := sound.waits
  cases stands : last.control with
  | selecting => exact absurd stands past
  | stopping code =>
    rw [stands] at follows
    obtain ⟨joined, taken, _⟩ := follows
    rw [taken] at waits
    exact ⟨joined, taken, waits⟩
  | exited code =>
    rw [stands] at follows
    obtain ⟨joined, taken, _⟩ := follows
    rw [taken] at waits
    exact ⟨joined, taken, waits⟩

/-- How the parent supervises: in every state that it can reach, in whatever order the threads
and processes act. -/
structure Supervised (system : System stack regex) : Prop where
  /-- The shutdown is sent only after the wait for the child is over. -/
  shutdown : .shutDown ∈ system.log → WaitOver system
  /-- The event loop never panics, and unless it could not start it ends only after that. -/
  outlives : ∀ how, system.task = .ended how → how = .failed ∨ how = .clean ∧ WaitOver system
  /-- After the shutdown it makes one more tick at most. -/
  late : .shutDown ∈ system.log → lateTicks system.log ≤ 1
  /-- Nothing is forwarded but a signal that arrived and was not forwarded since. -/
  forwards : Always (fun past entry => ∀ signal, entry = .forwarded signal → Pending past signal)
    system.log
  /-- When a stream is not ready, each of its signals was forwarded after it arrived. -/
  settled : ∀ signal, system.streams signal = false →
    Followed (· = .arrived signal) (· = .forwarded signal) system.log

/-- In every run the parent supervises the child: the proxy serves until the child was waited
for, and signals are passed on. -/
theorem proxy_outlives_child (root commandPid : Pid) (config : AppConfig regex)
    (interface : stack.Interface) (acts : List Act) (last : System stack regex)
    (ran : (System.start config interface).run root commandPid acts = some last) :
    Supervised last := by
  have sound : Sound root commandPid last := (Sound.start config interface).run ran
  constructor
  · intro down
    exact sound.waitOver (sound.shuts down)
  · intro how ended
    rcases sound.ends how ended with failed | ⟨clean, told⟩
    · exact Or.inl failed
    · exact Or.inr ⟨clean, sound.waitOver (sound.shuts (sound.told.1 told))⟩
  · intro down
    have bound := sound.late down
    omega
  · exact sound.streams.forwards
  · exact sound.streams.settled

/-- Everything goes out directly. -/
def quietConfig : AppConfig RuleMatcher.literalRegex := .withoutRules _ .direct

/-- A parent over a quiet stack. -/
abbrev quietStart : System quietStack RuleMatcher.literalRegex := .start quietConfig ()

/-- A run in which the parent is asked to terminate, the command is killed and the child exits. -/
def terminatedActs : List Act :=
  [.loopNew true, .arrive .sigterm, .forward .sigterm (.ok ()),
    .reaper (.waitpid (.ok .stillAlive)), .reaper (.received .sigterm (by decide) 0),
    .reaper (.waitpid (.ok (.signaled 2 .sigterm false))), .reaper (.waitpid (.error .echild)),
    .childExits, .waitpid (.ok (.exited 1 143)), .takeResult, .loopCheck, .join]

/-- A SIGTERM is forwarded and the child is reaped before the proxy shuts down. -/
theorem proxy_outlives_child_terminated :
    ∃ last, quietStart.run 1 2 terminatedActs = some last ∧ Supervised last ∧
      last.log = [.arrived .sigterm, .forwarded .sigterm, .shutDown] := by
  have runs : (quietStart.run 1 2 terminatedActs).isSome := by decide +kernel
  obtain ⟨last, ran⟩ := Option.isSome_iff_exists.mp runs
  have logged : (quietStart.run 1 2 terminatedActs).map System.log =
      some [.arrived .sigterm, .forwarded .sigterm, .shutDown] := by decide +kernel
  rw [ran] at logged
  exact ⟨last, ran,
    @proxy_outlives_child quietStack _ 1 2 quietConfig () terminatedActs last ran,
    Option.some.inj logged⟩

/-- Where an exit code of nsproxy comes from: the end of the child, whose own exit code is that
of its reaper, which is the last status of the command's process once no child is left. -/
def Reports (commandPid : Pid) (system : System stack regex) (code : Int) : Prop :=
  ∃ ending, system.child = .reaped ending ∧ code = ending.code ∧
    ∀ status, ending = .exited status →
      status = 1 ∧ system.answers = [] ∨
        ∃ result, system.reaper.control = .returned result ∧
          status = exitStatus (childExitCode result) ∧
          ∀ own, result = .ok own → NoChildLeft system.answers ∧
            (terminalStatuses commandPid system.answers).getLast? = some own

/-- Without a code from the waiting thread the exit code is one. -/
def WaitFailed (system : System stack regex) (code : Int) : Prop :=
  code = 1 ∧ ∃ joined, system.waiter = .taken joined ∧ ∀ own, joined ≠ .finished (.ok own)

/-- An exit code of nsproxy is that of the child, or the wait failed. -/
theorem Sound.reports (sound : Sound root commandPid last) {code : Int}
    (exited : last.control = .exited code) :
    Reports commandPid last code ∨ WaitFailed last code := by
  have follows := sound.follows
  have waits := sound.waits
  rw [exited] at follows
  obtain ⟨joined, taken, same⟩ := follows
  rw [taken] at waits
  cases joined with
  | panicked => exact Or.inr ⟨same, .panicked, taken, by simp⟩
  | finished result =>
    cases result with
    | error causes => exact Or.inr ⟨same, .finished (.error causes), taken, by simp⟩
    | ok own =>
      obtain ⟨ending, reaped, known⟩ := waits own rfl
      refine Or.inl ⟨ending, reaped, same.trans known, fun status exit => ?_⟩
      have was : last.child.Exited status := by
        rw [reaped, exit]
        exact Or.inr rfl
      rcases sound.ending status was with early | ⟨result, returned, kept⟩
      · exact Or.inl early
      · refine Or.inr ⟨result, returned, kept, fun own same => ?_⟩
        rw [same] at returned
        exact Reaper.run_returned_ok sound.reached returned

/-- The `waitpid` that reports an end. -/
def ChildEnd.status (root : Pid) : ChildEnd → WaitStatus
  | .exited code => .exited root code
  | .killed signal => .signaled root signal false

/-- The thread returns the code of the end that it is told. -/
theorem childWait_status (root : Pid) (ending : ChildEnd) :
    childWait (.ok (ending.status root)) = some (.ok ending.code) ∧
      reapChild (.zombie ending) (.ok (ending.status root)) = some (.reaped ending) := by
  cases ending <;> simp [ChildEnd.status, childWait, reapChild, ChildEnd.code]

/-- From the wait on, the timeout alone ends the parent. -/
theorem stopping_exits (root commandPid : Pid) {code : Int}
    (stopping : last.control = .stopping code) :
    last.run root commandPid [.timeout] = some { last with control := .exited code } := by
  simp [System.run, System.step, System.present, System.act, stopping]

/-- A result of the waiting thread is taken and leads to the exit. -/
theorem done_exits (root commandPid : Pid) {joined : Joined} (selecting : last.control = .selecting)
    (done : last.waiter = .done joined) :
    ∃ final, last.run root commandPid [.takeResult, .timeout] = some final ∧
      final.control = .exited (exitCode joined) := by
  have taken : ∃ middle, last.step root commandPid .takeResult = some middle ∧
      middle.control = .stopping (exitCode joined) := by
    refine ⟨_, by simp only [System.step, System.present, System.act, selecting, done]; rfl, ?_⟩
    unfold System.sendShutdown
    split <;> rfl
  obtain ⟨middle, stepped, stopping⟩ := taken
  refine ⟨{ middle with control := .exited (exitCode joined) }, ?_, rfl⟩
  have rest := stopping_exits root commandPid stopping
  unfold System.run at rest ⊢
  rw [List.foldlM_cons, stepped]
  exact rest

/-- Once the child has ended, the parent can exit within three acts, whatever else is going on. -/
theorem Sound.can_exit (sound : Sound root commandPid last) (ended : last.child ≠ .running) :
    ∃ acts final code, acts.length ≤ 3 ∧ last.run root commandPid acts = some final ∧
      final.control = .exited code := by
  cases stands : last.control with
  | exited code => exact ⟨[], last, code, by simp, rfl, stands⟩
  | stopping code =>
    exact ⟨[.timeout], _, code, by simp, stopping_exits root commandPid stands, rfl⟩
  | selecting =>
    have follows := sound.follows
    have waits := sound.waits
    rw [stands] at follows
    cases waiter : last.waiter with
    | taken joined => exact absurd waiter (follows joined)
    | done joined =>
      obtain ⟨final, ran, exited⟩ := done_exits root commandPid stands waiter
      exact ⟨_, final, _, by simp, ran, exited⟩
    | waiting =>
      rw [waiter] at waits
      cases child : last.child with
      | running => exact absurd child ended
      | reaped ending => exact absurd child (waits ending)
      | zombie ending =>
        obtain ⟨waited, reaped⟩ := childWait_status root ending
        let middle : System stack regex :=
          { last with child := .reaped ending, waiter := .done (.finished (.ok ending.code)) }
        have stepped : last.step root commandPid (.waitpid (.ok (ending.status root))) =
            some middle := by
          simp [System.step, System.present, System.act, stands, waiter, child, reaped, waited,
            middle]
        have selecting : middle.control = .selecting := stands
        obtain ⟨final, ran, exited⟩ := done_exits root commandPid selecting rfl
        refine ⟨[.waitpid (.ok (ending.status root)), .takeResult, .timeout], final, _, by simp, ?_,
          exited⟩
        unfold System.run at ran ⊢
        rw [List.foldlM_cons, stepped]
        exact ran

/-- When nsproxy exits, its code is that of the child, which is that of the reaper and so that
of the command; it is one when the wait failed. And once the child has ended, nsproxy can always
exit. -/
theorem exit_code_of_command (root commandPid : Pid) (config : AppConfig regex)
    (interface : stack.Interface) (acts : List Act) (last : System stack regex)
    (ran : (System.start config interface).run root commandPid acts = some last) :
    (∀ code, last.control = .exited code →
      Reports commandPid last code ∨ WaitFailed last code) ∧
    (last.child ≠ .running → ∃ more final code, more.length ≤ 3 ∧
      last.run root commandPid more = some final ∧ final.control = .exited code ∧
      (Reports commandPid final code ∨ WaitFailed final code)) := by
  have sound : Sound root commandPid last := (Sound.start config interface).run ran
  refine ⟨fun code exited => sound.reports exited, fun ended => ?_⟩
  obtain ⟨more, final, code, short, later, exited⟩ := sound.can_exit ended
  exact ⟨more, final, code, short, later, exited, (sound.run later).reports exited⟩

/-- The command that was killed in the run above: nsproxy exits with its code. -/
theorem exit_code_of_command_terminated :
    ∃ last, quietStart.run 1 2 terminatedActs = some last ∧ last.control = .exited 143 ∧
      (Reports 2 last 143 ∨ WaitFailed last 143) := by
  have runs : (quietStart.run 1 2 terminatedActs).isSome := by decide +kernel
  obtain ⟨last, ran⟩ := Option.isSome_iff_exists.mp runs
  have exits : (quietStart.run 1 2 terminatedActs).map System.control =
      some (.exited 143) := by decide +kernel
  rw [ran] at exits
  have exited := Option.some.inj exits
  exact ⟨last, ran, exited,
    (@exit_code_of_command quietStack _ 1 2 quietConfig () terminatedActs last ran).1 143 exited⟩

end NsProxy.Supervisor
