import NsProxy.EventLoop.Ownership
import NsProxy.Lib.History
import NsProxy.Supervisor.Parent

/-!
# Signals and shutdown

What holds in every state that the parent and the child can reach, in whatever order their
threads and processes act: each act keeps `Sound`, and so every run does.
-/

namespace NsProxy.Supervisor

open Process Smoltcp EventLoop

/-! ## The streams -/

/-- A signal has arrived and was not forwarded since. -/
def Pending (log : List Entry) (signal : Signal) : Prop :=
  ∃ before later, log = before ++ .arrived signal :: later ∧ .forwarded signal ∉ later

/-- What the streams hold, against what happened. -/
structure Streams (streams : Signal → Bool) (log : List Entry) : Prop where
  /-- A stream that is ready holds a signal that was not forwarded. -/
  pending : ∀ signal, streams signal = true → Pending log signal
  /-- When a stream is not ready, every signal of it was forwarded after it arrived. -/
  settled : ∀ signal, streams signal = false →
    Followed (· = .arrived signal) (· = .forwarded signal) log
  /-- Nothing is forwarded but a signal that had arrived, and that one once. -/
  forwards :
    Always (fun past entry => ∀ signal, entry = .forwarded signal → Pending past signal) log

/-- A signal stays pending until it is forwarded. -/
theorem Pending.append {log : List Entry} {signal : Signal} {entry : Entry}
    (pending : Pending log signal) (other : entry ≠ .forwarded signal) :
    Pending (log ++ [entry]) signal := by
  obtain ⟨before, later, split, kept⟩ := pending
  refine ⟨before, later ++ [entry], by rw [split]; simp, ?_⟩
  simp [kept, other.symm]

namespace Streams

variable {streams : Signal → Bool} {log : List Entry} {signal : Signal}

/-- No signal has arrived at the start. -/
theorem start : Streams (fun _ => false) [] where
  pending signal ready := by cases ready
  settled signal _ := by
    intro past entry future split
    simp at split
  forwards := always_nil _

/-- A signal arrives. -/
theorem arrive (held : Streams streams log) (signal : Signal) :
    Streams (Function.update streams signal true) (log ++ [.arrived signal]) where
  pending other ready := by
    by_cases same : other = signal
    · rw [same]
      exact ⟨log, [], rfl, by simp⟩
    · rw [Function.update_of_ne same] at ready
      exact (held.pending other ready).append (by simp)
  settled other idle := by
    have apart : other ≠ signal := by
      intro same
      rw [same, Function.update_self] at idle
      cases idle
    rw [Function.update_of_ne apart] at idle
    apply (held.settled other idle).append_needless
    simpa using apart.symm
  forwards := always_append_singleton.mpr ⟨held.forwards, by simp⟩

/-- A signal is forwarded. -/
theorem forward (held : Streams streams log) (ready : streams signal = true) :
    Streams (Function.update streams signal false) (log ++ [.forwarded signal]) where
  pending other still := by
    have apart : other ≠ signal := by
      intro same
      rw [same, Function.update_self] at still
      cases still
    rw [Function.update_of_ne apart] at still
    apply (held.pending other still).append
    simpa using apart.symm
  settled other idle := by
    by_cases same : other = signal
    · rw [same]
      exact followed_append_singleton (by simp) rfl
    · rw [Function.update_of_ne same] at idle
      exact (held.settled other idle).append_needless (by simp)
  forwards := by
    apply always_append_singleton.mpr ⟨held.forwards, ?_⟩
    intro other same
    injection same with same
    rw [← same]
    exact held.pending signal ready

/-- Something else happens. -/
theorem other (held : Streams streams log) (entry : Entry)
    (calm : ∀ signal, entry ≠ .arrived signal) (silent : ∀ signal, entry ≠ .forwarded signal) :
    Streams streams (log ++ [entry]) where
  pending signal ready := (held.pending signal ready).append (silent signal)
  settled signal idle := (held.settled signal idle).append_needless (calm signal)
  forwards := by
    apply always_append_singleton.mpr ⟨held.forwards, ?_⟩
    intro signal same
    exact absurd same (silent signal)

end Streams

/-! ## Ticks after the shutdown -/

/-- The ticks after the shutdown. -/
def lateTicks (log : List Entry) : Nat := (log.dropWhile (· ≠ .shutDown)).count .ticked

/-- The ticks that are still possible once the channel says so. -/
def ticksLeft : LoopTask → Nat
  | .ticking => 1
  | _ => 0

/-- After the shutdown every tick is a late one. -/
theorem lateTicks_append {log : List Entry} (down : .shutDown ∈ log) (entry : Entry) :
    lateTicks (log ++ [entry]) = lateTicks log + if entry = .ticked then 1 else 0 := by
  have kept : (log.dropWhile (· ≠ Entry.shutDown)).isEmpty = false := by
    rw [Bool.eq_false_iff]
    intro empty
    rw [List.isEmpty_iff, List.dropWhile_eq_nil_iff] at empty
    exact absurd (empty _ down) (by simp)
  unfold lateTicks
  rw [List.dropWhile_append, kept, if_neg Bool.false_ne_true, List.count_append]
  cases entry <;> rfl

/-- The shutdown itself is not late. -/
theorem lateTicks_shutDown {log : List Entry} (before : .shutDown ∉ log) :
    lateTicks (log ++ [.shutDown]) = 0 := by
  have none : (log.dropWhile (· ≠ Entry.shutDown)).isEmpty = true := by
    rw [List.isEmpty_iff, List.dropWhile_eq_nil_iff]
    intro entry member
    have other : entry ≠ .shutDown := fun same => before (same ▸ member)
    simpa using other
  unfold lateTicks
  rw [List.dropWhile_append, none, if_pos rfl]
  rfl

/-! ## Every state -/

/-- The exit code that stands for the end of the child. -/
def ChildEnd.code : ChildEnd → Int
  | .exited code => code
  | .killed signal => 128 + signal.number

/-- What the waiting thread knows of the child. -/
def Waits (child : Child) : Waiter → Prop
  | .waiting => ∀ ending, child ≠ .reaped ending
  | .done joined | .taken joined => ∀ code, joined = .finished (.ok code) →
    ∃ ending, child = .reaped ending ∧ code = ending.code

/-- What `parent_main` knows of the waiting thread. -/
def Follows (waiter : Waiter) : Control → Prop
  | .selecting => ∀ joined, waiter ≠ .taken joined
  | .stopping code | .exited code => ∃ joined, waiter = .taken joined ∧ code = exitCode joined

/-- The child has ended with an exit code. -/
def Child.Exited (child : Child) (code : Int) : Prop :=
  child = .zombie (.exited code) ∨ child = .reaped (.exited code)

/-- A code that the waiting thread returns is the end of the child. -/
theorem childWait_ok {child last : Child} {result : Except Errno WaitStatus} {code : Int}
    (reaped : reapChild child result = some last) (waited : childWait result = some (.ok code)) :
    ∃ ending, last = .reaped ending ∧ code = ending.code := by
  unfold childWait at waited
  split at waited
  · next pid status =>
    injection waited with same
    injection same with same
    simp only [reapChild] at reaped
    split at reaped
    · injection reaped with reaped
      exact ⟨.exited status, reaped.symm, same.symm⟩
    · cases reaped
  · next pid signal dumped =>
    injection waited with same
    injection same with same
    simp only [reapChild] at reaped
    split at reaped
    · injection reaped with reaped
      exact ⟨.killed signal, reaped.symm, same.symm⟩
    · cases reaped
  · cases waited
  · cases waited
  · cases waited

/-- While the thread waits on, the child is as it was. -/
theorem childWait_none {child last : Child} {result : Except Errno WaitStatus}
    (reaped : reapChild child result = some last) (waited : childWait result = none) :
    last = child := by
  unfold reapChild at reaped
  split at reaped
  · cases waited
  · cases waited
  · injection reaped with same
    exact same.symm

/-- `waitpid` reports the exit code that the child had. -/
theorem reapChild_exited {child last : Child} {result : Except Errno WaitStatus} {code : Int}
    (reaped : reapChild child result = some last) (exited : last.Exited code) :
    child.Exited code := by
  unfold reapChild at reaped
  split at reaped
  · split at reaped
    · next was =>
      injection reaped with same
      rw [← same] at exited
      rcases exited with exited | exited
      · cases exited
      · injection exited with exited
        rw [was, exited]
        exact Or.inl rfl
    · cases reaped
  · split at reaped
    · injection reaped with same
      rw [← same] at exited
      rcases exited with exited | exited <;> cases exited
    · cases reaped
  · injection reaped with same
    rw [same]
    exact exited

variable {stack : StackApi} {regex : RegexApi} {root commandPid : Pid}

/-- What holds in every state. -/
structure Sound (root commandPid : Pid) (system : System stack regex) : Prop where
  /-- The reaper is where its answers lead. -/
  reached : Reaper.run root commandPid .start system.answers = some system.reaper
  /-- An exit code of the child is that of its reaper, or the child failed before. -/
  ending : ∀ code, system.child.Exited code →
    code = 1 ∧ system.answers = [] ∨
      ∃ result, system.reaper.control = .returned result ∧
        code = exitStatus (childExitCode result)
  /-- The result of the waiting thread is the end of the child. -/
  waits : Waits system.child system.waiter
  /-- The exit code is that result. -/
  follows : Follows system.waiter system.control
  /-- The shutdown comes after the wait. -/
  shuts : .shutDown ∈ system.log → system.control ≠ .selecting
  /-- The channel says what was sent, if there is anyone to hear it. -/
  told : (system.shutdown = true → .shutDown ∈ system.log) ∧
    (.shutDown ∈ system.log → system.shutdown = true ∨ ∃ how, system.task = .ended how)
  /-- The event loop ends at the shutdown only, unless it could not start. -/
  ends : ∀ how, system.task = .ended how → how = .failed ∨ how = .clean ∧ system.shutdown = true
  /-- The event loop can go on. -/
  owned : Owned system.loop
  /-- The streams hold what arrived and was not forwarded. -/
  streams : Streams system.streams system.log
  /-- At most one tick is made after the shutdown. -/
  late : .shutDown ∈ system.log → lateTicks system.log + ticksLeft system.task ≤ 1

/-- The system is sound at the start. -/
theorem Sound.start (config : AppConfig regex) (interface : stack.Interface) :
    Sound root commandPid (System.start config interface) where
  reached := rfl
  ending code exited := by rcases exited with exited | exited <;> cases exited
  waits ending := by simp [System.start]
  follows joined := by simp [System.start]
  shuts := by simp [System.start]
  told := by simp [System.start]
  ends := by simp [System.start]
  owned := new_owned config interface
  streams := Streams.start
  late := by simp [System.start]

namespace Sound

variable {system next : System stack regex}

/-- A signal that is recorded changes neither the shutdown nor the late ticks. -/
theorem recorded (sound : Sound root commandPid system) (entry : Entry) {streams : Signal → Bool}
    (early : entry ≠ .shutDown) (calm : entry ≠ .ticked)
    (held : Streams streams (system.log ++ [entry])) :
    Sound root commandPid { system with streams := streams, log := system.log ++ [entry] } := by
  have same : .shutDown ∈ system.log ++ [entry] ↔ .shutDown ∈ system.log := by
    simp [early.symm]
  exact { sound with
    shuts := fun down => sound.shuts (same.mp down)
    told := ⟨fun told => same.mpr (sound.told.1 told), fun down => sound.told.2 (same.mp down)⟩
    streams := held
    late := by
      intro down
      have before := same.mp down
      have bound := sound.late before
      show lateTicks (system.log ++ [entry]) + ticksLeft system.task ≤ 1
      rw [lateTicks_append before, if_neg calm]
      exact bound }

/-- A signal that arrives keeps the system sound. -/
theorem arrive (sound : Sound root commandPid system) {signal : Signal}
    (made : system.act root commandPid (.arrive signal) = some next) :
    Sound root commandPid next := by
  simp only [System.act] at made
  split at made
  · injection made with same
    rw [← same]
    exact sound.recorded (.arrived signal) (by simp) (by simp) (sound.streams.arrive signal)
  · cases made

/-- What is pending in the child is of no concern here. -/
theorem queue (sound : Sound root commandPid system) (queued : Signal → Bool) :
    Sound root commandPid { system with queued := queued } := { sound with }

/-- Forwarding a signal keeps the system sound. -/
theorem forward (sound : Sound root commandPid system) {signal : Signal}
    {answer : Except Errno Unit}
    (made : system.act root commandPid (.forward signal answer) = some next) :
    Sound root commandPid next := by
  simp only [System.act] at made
  split at made
  · next ready =>
    injection made with same
    rw [← same]
    have recorded := sound.recorded (.forwarded signal) (by simp) (by simp)
      (sound.streams.forward ready.2)
    unfold System.deliver
    split
    · exact recorded.queue _
    · exact recorded
  · cases made

/-- An answer of `waitpid` keeps the system sound. -/
theorem waitpid (sound : Sound root commandPid system) {result : Except Errno WaitStatus}
    (made : system.act root commandPid (.waitpid result) = some next) :
    Sound root commandPid next := by
  simp only [System.act] at made
  split at made
  · next child waiting reaped =>
    have waits := sound.waits
    have follows := sound.follows
    rw [waiting] at waits follows
    have selecting : system.control = .selecting := by
      cases stands : system.control with
      | selecting => rfl
      | stopping code => simp [Follows, stands] at follows
      | exited code => simp [Follows, stands] at follows
    have ending : ∀ code, child.Exited code → system.child.Exited code :=
      fun code exited => reapChild_exited reaped exited
    split at made
    · next returned waited =>
      injection made with same
      rw [← same]
      exact { sound with
        ending := fun code exited => sound.ending code (ending code exited)
        waits := fun code finished => by
          injection finished with finished
          rw [finished] at waited
          exact childWait_ok reaped waited
        follows := by
          rw [selecting]
          simp [Follows] }
    · next waited =>
      injection made with same
      rw [← same]
      have kept := childWait_none reaped waited
      rw [kept]
      exact { sound with }
  · cases made

/-- A panic of the waiting thread keeps the system sound. -/
theorem waiterPanics (sound : Sound root commandPid system)
    (made : system.act root commandPid .waiterPanics = some next) :
    Sound root commandPid next := by
  simp only [System.act] at made
  split at made
  · next waiting =>
    injection made with same
    rw [← same]
    exact { sound with
      waits := by simp [Waits]
      follows := by
        have follows := sound.follows
        cases stands : system.control with
        | selecting => simp [Follows]
        | stopping code => simp [Follows, stands, waiting] at follows
        | exited code => simp [Follows, stands, waiting] at follows }
  · cases made

/-- Taking the result of the waiting thread keeps the system sound. -/
theorem takeResult (sound : Sound root commandPid system)
    (made : system.act root commandPid .takeResult = some next) :
    Sound root commandPid next := by
  simp only [System.act] at made
  split at made
  · next joined selecting done =>
    injection made with same
    have before : .shutDown ∉ system.log := fun down => sound.shuts down selecting
    have waits := sound.waits
    rw [done] at waits
    have down : .shutDown ∈ system.log ++ [Entry.shutDown] := by simp
    have streams := sound.streams.other .shutDown (by simp) (by simp)
    have late : lateTicks (system.log ++ [.shutDown]) + ticksLeft system.task ≤ 1 := by
      rw [lateTicks_shutDown before, Nat.zero_add]
      cases system.task <;> simp [ticksLeft]
    have follows : Follows (.taken joined) (.stopping (exitCode joined)) := ⟨joined, rfl, rfl⟩
    rw [← same]
    unfold System.sendShutdown
    split
    · next how ended =>
      exact { sound with
        waits := waits
        follows := follows
        shuts := by simp [System.record]
        told := ⟨fun _ => down, fun _ => Or.inr ⟨how, ended⟩⟩
        streams := streams
        late := fun _ => late }
    · next active =>
      exact { sound with
        waits := waits
        follows := follows
        shuts := by simp [System.record]
        told := ⟨fun _ => down, fun _ => Or.inl rfl⟩
        ends := fun how ended => absurd ended (active how)
        streams := streams
        late := fun _ => late }
  · cases made

/-- The event loop task goes on to another state. -/
theorem proceeds (sound : Sound root commandPid system) {task : LoopTask}
    (active : ∀ how, task ≠ .ended how) (before : ∀ how, system.task ≠ .ended how)
    (late : .shutDown ∈ system.log → lateTicks system.log + ticksLeft task ≤ 1) :
    Sound root commandPid { system with task := task } :=
  { sound with
    told := ⟨sound.told.1, fun down => by
      rcases sound.told.2 down with told | ⟨how, ended⟩
      · exact Or.inl told
      · exact absurd ended (before how)⟩
    ends := fun how ended => absurd ended (active how)
    late := late }

/-- In a state without a tick to come, the ticks are those made. -/
theorem calm (sound : Sound root commandPid system) {task : LoopTask} (idle : ticksLeft task = 0) :
    .shutDown ∈ system.log → lateTicks system.log + ticksLeft task ≤ 1 := by
  intro down
  have bound := sound.late down
  omega

/-- A look at the channel: after the shutdown the loop ends there. -/
theorem look (sound : Sound root commandPid system) {task : LoopTask}
    (active : ∀ how, task ≠ .ended how) (before : ∀ how, system.task ≠ .ended how) :
    Sound root commandPid (system.look task) := by
  unfold System.look
  by_cases told : system.shutdown = true
  · rw [if_pos told]
    exact { sound with
      told := ⟨sound.told.1, fun _ => Or.inr ⟨.clean, rfl⟩⟩
      ends := fun how ended => by
        injection ended with same
        exact Or.inr ⟨same.symm, told⟩
      late := sound.calm rfl }
  · rw [if_neg told]
    apply sound.proceeds active before
    intro down
    rcases sound.told.2 down with sent | ⟨how, ended⟩
    · exact absurd sent told
    · exact absurd ended (before how)

/-- The event loop does not panic. -/
theorem drive (sound : Sound root commandPid system) (task : LoopTask) (event : EventLoop.Event) :
    ∃ loop, Owned loop ∧ system.drive task event = { system with loop := loop, task := task } := by
  obtain ⟨loop, stepped, changes⟩ := step_changes system.loop event sound.owned
  refine ⟨loop, changes.owned sound.owned, ?_⟩
  unfold System.drive
  rw [stepped]

/-- The event loop does something that is not a tick. -/
theorem driven (sound : Sound root commandPid system) (event : EventLoop.Event) :
    Sound root commandPid (system.drive system.task event) := by
  obtain ⟨loop, owned, same⟩ := sound.drive system.task event
  rw [same]
  exact { sound with owned := owned }

/-- Starting the event loop keeps the system sound, whether or not it succeeds. -/
theorem loopNew (sound : Sound root commandPid system) {succeeds : Bool}
    (made : system.act root commandPid (.loopNew succeeds) = some next) :
    Sound root commandPid next := by
  simp only [System.act] at made
  split at made
  · next starting =>
    injection made with same
    rw [← same]
    cases succeeds with
    | true => exact sound.proceeds (by simp) (by simp [starting]) (sound.calm rfl)
    | false =>
      exact { sound with
        told := ⟨sound.told.1, fun _ => Or.inr ⟨.failed, rfl⟩⟩
        ends := fun how ended => by
          injection ended with same
          exact Or.inl same.symm
        late := sound.calm rfl }
  · cases made

/-- Checking for the shutdown keeps the system sound. -/
theorem loopCheck (sound : Sound root commandPid system)
    (made : system.act root commandPid .loopCheck = some next) : Sound root commandPid next := by
  simp only [System.act] at made
  split at made
  · next checking =>
    injection made with same
    rw [← same]
    exact sound.look (by simp) (by simp [checking])
  · cases made

/-- Polling for readiness keeps the system sound. -/
theorem loopPoll (sound : Sound root commandPid system) {outbound : OutboundTcp.PollInput}
    {published : PublishedTcp.PollInput}
    (made : system.act root commandPid (.loopPoll outbound published) = some next) :
    Sound root commandPid next := by
  simp only [System.act] at made
  split at made
  · next waiting =>
    injection made with same
    rw [← same, ← waiting]
    exact sound.driven _
  · cases made

/-- Waking the loop keeps the system sound. -/
theorem loopWake (sound : Sound root commandPid system)
    (made : system.act root commandPid .loopWake = some next) : Sound root commandPid next := by
  simp only [System.act] at made
  split at made
  · next waiting =>
    injection made with same
    rw [← same]
    exact sound.proceeds (by simp) (by simp [waiting]) (sound.calm rfl)
  · cases made

/-- Deciding on a tick keeps the system sound. -/
theorem loopDecide (sound : Sound root commandPid system)
    (made : system.act root commandPid .loopDecide = some next) : Sound root commandPid next := by
  simp only [System.act] at made
  split at made
  · next woken =>
    injection made with same
    rw [← same]
    exact sound.look (by simp) (by simp [woken])
  · cases made

/-- A tick keeps the system sound. -/
theorem loopTick (sound : Sound root commandPid system) {input : TickInput}
    (made : system.act root commandPid (.loopTick input) = some next) :
    Sound root commandPid next := by
  simp only [System.act] at made
  split at made
  · next ticking =>
    injection made with same
    obtain ⟨loop, owned, drove⟩ := sound.drive .checking (.tick input)
    rw [drove] at same
    rw [← same]
    have kept : .shutDown ∈ system.log ++ [.ticked] ↔ .shutDown ∈ system.log := by simp
    exact { sound with
      shuts := fun down => sound.shuts (kept.mp down)
      told := ⟨fun told => kept.mpr (sound.told.1 told), fun down => by
        rcases sound.told.2 (kept.mp down) with told | ⟨how, ended⟩
        · exact Or.inl told
        · simp [ticking] at ended⟩
      ends := fun how ended => by simp [System.record] at ended
      owned := owned
      streams := sound.streams.other .ticked (by simp) (by simp)
      late := fun down => by
        have bound := sound.late (kept.mp down)
        rw [ticking] at bound
        show lateTicks (system.log ++ [.ticked]) + ticksLeft .checking ≤ 1
        rw [lateTicks_append (kept.mp down)]
        exact bound }
  · cases made

/-- An accepted connection keeps the system sound. -/
theorem accept (sound : Sound root commandPid system)
    {accepted : EventLoop.Published.AcceptedConnection}
    (made : system.act root commandPid (.accept accepted) = some next) :
    Sound root commandPid next := by
  simp only [System.act] at made
  split at made
  · cases made
  · cases made
  · injection made with same
    rw [← same]
    exact sound.driven _

/-- Exiting with the code at hand keeps the system sound. -/
theorem exits (sound : Sound root commandPid system) {code : Int}
    (stopping : system.control = .stopping code) :
    Sound root commandPid { system with control := .exited code } := by
  have follows := sound.follows
  rw [stopping] at follows
  exact { sound with follows := follows, shuts := by simp }

/-- Joining the event loop keeps the system sound. -/
theorem join (sound : Sound root commandPid system)
    (made : system.act root commandPid .join = some next) : Sound root commandPid next := by
  simp only [System.act] at made
  split at made
  · next code how stopping ended =>
    injection made with same
    rw [← same]
    exact sound.exits stopping
  · cases made

/-- Giving up on the event loop keeps the system sound. -/
theorem timeout (sound : Sound root commandPid system)
    (made : system.act root commandPid .timeout = some next) : Sound root commandPid next := by
  simp only [System.act] at made
  split at made
  · next code stopping =>
    injection made with same
    rw [← same]
    exact sound.exits stopping
  · cases made

/-- While the child runs it has no exit code, and nobody has waited for it. -/
theorem running (sound : Sound root commandPid system) (runs : system.child = .running)
    (ending : ChildEnd)
    (known : ∀ code, ending = .exited code → code = 1 ∧ system.answers = [] ∨
      ∃ result, system.reaper.control = .returned result ∧
        code = exitStatus (childExitCode result)) :
    Sound root commandPid { system with child := .zombie ending } := by
  have waits := sound.waits
  rw [runs] at waits
  exact { sound with
    ending := fun code exited => by
      rcases exited with exited | exited
      · injection exited with same
        exact known code same
      · cases exited
    waits := by
      cases stands : system.waiter with
      | waiting => simp [Waits]
      | done joined => simpa [Waits, stands] using waits
      | taken joined => simpa [Waits, stands] using waits }

/-- An answer to the reaper keeps the system sound. -/
theorem reaper (sound : Sound root commandPid system) {answer : Answer}
    (made : system.act root commandPid (.reaper answer) = some next) :
    Sound root commandPid next := by
  simp only [System.act] at made
  split at made
  · next ready =>
    obtain ⟨stepped, taken, same⟩ := Option.map_eq_some_iff.mp made
    rw [← same]
    exact { sound with
      reached := by
        have reached := sound.reached
        unfold Reaper.run at reached ⊢
        rw [List.foldlM_append, reached]
        simp [taken]
      ending := fun code exited => by
        rcases exited with exited | exited <;> rw [ready.1] at exited <;> cases exited }
  · cases made

/-- A child that fails before its reaper keeps the system sound. -/
theorem childFails (sound : Sound root commandPid system)
    (made : system.act root commandPid .childFails = some next) : Sound root commandPid next := by
  simp only [System.act] at made
  split at made
  · next early =>
    injection made with same
    rw [← same]
    apply sound.running early.1
    intro code exited
    injection exited with exited
    exact Or.inl ⟨exited.symm, List.isEmpty_iff.mp early.2⟩
  · cases made

/-- A child that exits keeps the system sound. -/
theorem childExits (sound : Sound root commandPid system)
    (made : system.act root commandPid .childExits = some next) : Sound root commandPid next := by
  simp only [System.act] at made
  split at made
  · next result runs returned =>
    injection made with same
    rw [← same]
    apply sound.running runs
    intro code exited
    injection exited with exited
    exact Or.inr ⟨result, returned, exited.symm⟩
  · cases made

/-- A child that is killed keeps the system sound. -/
theorem childKilled (sound : Sound root commandPid system) {signal : Signal}
    (made : system.act root commandPid (.childKilled signal) = some next) :
    Sound root commandPid next := by
  simp only [System.act] at made
  split at made
  · next runs =>
    injection made with same
    rw [← same]
    apply sound.running runs
    intro code exited
    cases exited
  · cases made

/-- Every act keeps what holds. -/
theorem step (sound : Sound root commandPid system) {made : Act}
    (stepped : system.step root commandPid made = some next) : Sound root commandPid next := by
  unfold System.step at stepped
  split at stepped
  · cases made with
    | arrive signal => exact sound.arrive stepped
    | forward signal answer => exact sound.forward stepped
    | waitpid result => exact sound.waitpid stepped
    | waiterPanics => exact sound.waiterPanics stepped
    | takeResult => exact sound.takeResult stepped
    | loopNew succeeds => exact sound.loopNew stepped
    | loopCheck => exact sound.loopCheck stepped
    | loopPoll outbound published => exact sound.loopPoll stepped
    | loopWake => exact sound.loopWake stepped
    | loopDecide => exact sound.loopDecide stepped
    | loopTick input => exact sound.loopTick stepped
    | accept accepted => exact sound.accept stepped
    | join => exact sound.join stepped
    | timeout => exact sound.timeout stepped
    | reaper answer => exact sound.reaper stepped
    | childFails => exact sound.childFails stepped
    | childExits => exact sound.childExits stepped
    | childKilled signal => exact sound.childKilled stepped
  · cases stepped

/-- Every state of a run is sound. -/
theorem run {acts : List Act} (sound : Sound root commandPid system)
    (ran : system.run root commandPid acts = some next) : Sound root commandPid next := by
  induction acts generalizing system with
  | nil =>
    have same : system = next := Option.some.inj ran
    rw [← same]
    exact sound
  | cons made rest ih =>
    unfold System.run at ran
    rw [List.foldlM_cons] at ran
    obtain ⟨middle, stepped, later⟩ := Option.bind_eq_some_iff.mp ran
    exact ih (sound.step stepped) later

end Sound

end NsProxy.Supervisor
