import NsProxy.Process.Reaper

/-!
# The status that the reaper reports

The status of the command is kept by the number of its process. The reaper overwrites it with
every later status of that number, so what it returns is the last one. It is the command's own
exactly when no later process of the same number ended differently.
-/

namespace NsProxy.Process

/-- The status that an answer of `waitpid` carries for a process that has ended. -/
def terminalStatus (commandPid : Pid) : Answer → Option Int
  | .waitpid (.ok (.exited pid code)) => if pid = commandPid then some code else none
  | .waitpid (.ok (.signaled pid signal _)) =>
    if pid = commandPid then some (128 + signal.number) else none
  | _ => none

/-- The statuses that `waitpid` gave for one process number, in order. -/
def terminalStatuses (commandPid : Pid) (answers : List Answer) : List Int :=
  answers.filterMap (terminalStatus commandPid)

/-- `waitpid` has reported that no child is left. -/
def NoChildLeft (answers : List Answer) : Prop :=
  answers.getLast? = some (.waitpid (.error .echild))

namespace Reaper

variable {root commandPid : Pid} {reaper next last : Reaper}

/-- What remains of the wait for the next signal changes no status. -/
theorem afterReaping_commandExitCode (reaper : Reaper) :
    reaper.afterReaping.commandExitCode = reaper.commandExitCode := by
  unfold afterReaping
  split <;> simp

/-- The reaper keeps the last status of the command's process number. -/
theorem step_commandExitCode {answer : Answer}
    (taken : step root commandPid reaper answer = some next) :
    next.commandExitCode = (terminalStatus commandPid answer).or reaper.commandExitCode := by
  rcases step_cases taken with ⟨result, -, rfl, rfl⟩ | ⟨signal, deadline, now, proc, -, rfl, rfl⟩ |
    ⟨timeout, errno, -, rfl, rfl⟩ | ⟨timeout, signal, managed, now, -, rfl, rfl⟩
  · cases result with
    | error errno => cases errno <;> rfl
    | ok status =>
      cases status with
      | exited pid code =>
        unfold reap note terminalStatus
        by_cases own : pid = commandPid
        · simp [own]
        · simp [own]
      | signaled pid signal coreDumped =>
        unfold reap note terminalStatus
        by_cases own : pid = commandPid
        · simp [own]
        · simp [own]
      | stillAlive => exact afterReaping_commandExitCode _
      | _ => rfl
  · obtain ⟨sent, result, -, ⟨causes, -, stopped⟩ | ⟨rest, -, waits⟩⟩ :=
      forward_cases root reaper signal deadline now proc
    · rw [stopped]
      rfl
    · rw [waits]
      rfl
  · cases errno <;> rfl
  · by_cases child : signal = .sigchld
    · simp [child, terminalStatus]
    · simp [child, terminalStatus, terminate]

/-- At the end of a run the kept status is the last one of the command's process number. -/
theorem run_commandExitCode (answers : List Answer) (reaper : Reaper)
    (ran : run root commandPid reaper answers = some last) :
    last.commandExitCode =
      (terminalStatuses commandPid answers).getLast?.or reaper.commandExitCode := by
  induction answers generalizing reaper with
  | nil =>
    have same : reaper = last := by simpa [run] using ran
    rw [same]
    rfl
  | cons answer rest ih =>
    obtain ⟨next, taken, later⟩ := run_cons ran
    rw [ih next later, step_commandExitCode taken]
    unfold terminalStatuses
    cases status : terminalStatus commandPid answer with
    | none => simp [status]
    | some code =>
      rw [List.filterMap_cons_some status]
      cases rest.filterMap (terminalStatus commandPid) with
      | nil => rfl
      | cons first others => simp [List.getLast?_cons]

/-- Only `ECHILD` makes the reaper return a code, and it is the kept one. -/
theorem step_returned_ok {answer : Answer} {code : Int}
    (taken : step root commandPid reaper answer = some next)
    (returned : next.control = .returned (.ok code)) :
    answer = .waitpid (.error .echild) ∧ reaper.commandExitCode = some code := by
  rcases step_cases taken with ⟨result, standing, rfl, rfl⟩ |
    ⟨signal, deadline, now, proc, -, rfl, rfl⟩ | ⟨timeout, errno, -, rfl, rfl⟩ |
    ⟨timeout, signal, managed, now, -, rfl, rfl⟩
  · rcases reap_cases commandPid (reaper.log (.reaped result)) result with ⟨kept, same⟩ |
      ⟨-, same⟩ | ⟨signal, deadline, -, same⟩ | ⟨errno, ended, failed, -, code, same⟩
    · simp [same, standing] at returned
    · simp [same] at returned
    · simp [same] at returned
    · rw [same] at returned
      have own := code _ (Control.returned.inj returned)
      rw [failed, own.1]
      exact ⟨rfl, own.2⟩
  · obtain ⟨sent, result, -, ⟨causes, -, stopped⟩ | ⟨rest, -, waits⟩⟩ :=
      forward_cases root reaper signal deadline now proc
    · simp [stopped] at returned
    · simp [waits] at returned
  · cases errno <;> simp [interrupt, Error.context] at returned
  · simp at returned

/-- A run that returns a code ends with `ECHILD`, and the code is the kept status. -/
theorem run_returned_ok {answers : List Answer} {code : Int}
    (ran : run root commandPid start answers = some last)
    (returned : last.control = .returned (.ok code)) :
    NoChildLeft answers ∧ (terminalStatuses commandPid answers).getLast? = some code := by
  rcases List.eq_nil_or_concat answers with empty | ⟨earlier, final, parts⟩
  · have same : start = last := by simpa [run, empty] using ran
    rw [← same] at returned
    simp [start] at returned
  · rw [parts, List.concat_eq_append] at ran ⊢
    obtain ⟨before, reached, taken⟩ := run_append ran
    have ended := step_returned_ok taken returned
    have kept := run_commandExitCode earlier start reached
    have silent : terminalStatus commandPid final = none := by
      rw [ended.1]
      rfl
    constructor
    · rw [NoChildLeft, ended.1]
      simp
    · rw [ended.2] at kept
      unfold terminalStatuses at kept ⊢
      rw [List.filterMap_append, List.filterMap_cons_none silent, List.filterMap_nil,
        List.append_nil, kept]
      simp [start]

end Reaper

/-- The status reported is the command's own: no child is left, and the code is that of the
first process of the command's number that ended. -/
def ReportsCommand (commandPid : Pid) (answers : List Answer) (code : Int) : Prop :=
  NoChildLeft answers ∧ (terminalStatuses commandPid answers).head? = some code

/-- The reaper reports the command's own status exactly when the last process of the command's
number that ended carried the same status as the first. -/
theorem exit_status_iff (root commandPid : Pid) (answers : List Answer) (last : Reaper) (code : Int)
    (ran : Reaper.run root commandPid .start answers = some last)
    (returned : last.control = .returned (.ok code)) :
    ReportsCommand commandPid answers code ↔
      (terminalStatuses commandPid answers).getLast? =
        (terminalStatuses commandPid answers).head? := by
  have reported := Reaper.run_returned_ok ran returned
  unfold ReportsCommand
  rw [reported.2]
  constructor
  · intro own
    exact own.2.symm
  · intro same
    exact ⟨reported.1, same.symm⟩

/-- A command that is killed and has one descendant, which ends later under another number. -/
theorem exit_status_killed_command :
    let answers : List Answer := [.waitpid (.ok (.signaled 100 .sigterm false)),
      .waitpid (.ok .stillAlive), .received .sigchld (by decide) 0,
      .waitpid (.ok (.exited 101 3)), .waitpid (.error .echild)]
    ReportsCommand 100 answers 143 :=
  (exit_status_iff 1 100 _ _ 143 rfl rfl).mpr (by decide)

/-- The number of the command's process is given to a descendant after the command was
reaped, and the status of the descendant is reported. -/
theorem exit_status_reused_pid :
    ¬ ∀ (root commandPid : Pid) (answers : List Answer) (last : Reaper) (code : Int),
      Reaper.run root commandPid .start answers = some last →
      last.control = .returned (.ok code) → ReportsCommand commandPid answers code := by
  intro always
  have own := always 1 100 [.waitpid (.ok (.exited 100 0)), .waitpid (.ok .stillAlive),
    .received .sigchld (by decide) 0, .waitpid (.ok (.exited 100 7)), .waitpid (.error .echild)]
    _ 7 rfl rfl
  have first : (0 : Int) = 7 := Option.some.inj own.2
  omega

end NsProxy.Process
