import Mathlib.Data.Finset.Basic
import NsProxy.Lib.Calls
import NsProxy.Process.Reaper
import NsProxy.Setup.BindMounts

/-!
# Starting the command

`run_command_tree` and `exec_command` of `process.rs` by their system calls, in both processes
that `fork` returns to. The signals of the reaper are blocked before the fork, so that none is
lost between a look at the children and the wait for the next signal; the command is started
with the mask that the caller had.
-/

namespace NsProxy.Process

open Calls
open Setup (cString cString_eq_error cString_eq_ok)

/-- The calls. `execvp` returns on failure only and `exit` never does. -/
inductive LaunchCall
  /-- `prctl(PR_SET_CHILD_SUBREAPER, 1)`. -/
  | setChildSubreaper
  /-- `std::io::Error::last_os_error`. -/
  | lastOsError
  /-- `thread_swap_mask(SIG_BLOCK)`. -/
  | block (signals : Finset Signal)
  /-- `thread_set_mask`. -/
  | setMask (mask : Finset Signal)
  /-- `fork`. -/
  | fork
  /-- `execvp`. -/
  | execvp (prog : String) (args : List String)
  /-- `std::process::exit`. -/
  | exit (code : Int)
  /-- `wait_for_command_tree`. -/
  | waitForCommandTree (commandPid : Pid) (signals : Finset Signal)

/-- What `fork` returns. -/
inductive ForkResult
  | child
  | parent (child : Pid)

/-- What the calls return. -/
def LaunchCall.Result : LaunchCall → Type
  | setChildSubreaper | setMask _ => Except Setup.Errno Unit
  | lastOsError | execvp _ _ => Setup.Errno
  | block _ => Except Setup.Errno (Finset Signal)
  | fork => Except Setup.Errno ForkResult
  | exit _ => Empty
  | waitForCommandTree _ _ => Except Error Int

/-- The programs of `process.rs`. -/
abbrev launchCalls : Signature := ⟨LaunchCall, LaunchCall.Result⟩

/-- The process that makes the calls. -/
structure Launcher where
  /-- Whether it adopts orphans. -/
  subreaper : Bool
  /-- The blocked signals. -/
  mask : Finset Signal
  /-- Whether `fork` has returned here as the child. -/
  forked : Bool
  /-- The process that `fork` has returned as the child. -/
  command : Option Pid
  /-- `errno`. -/
  errno : Setup.Errno
  /-- The error of `thread_set_mask`, if it has failed. -/
  refused : Option Setup.Errno
  /-- Whether `execvp` has come back. -/
  tried : Bool

/-- A function that makes calls and may fail. -/
abbrev Launch (α : Type) : Type := Program.Fallible launchCalls Error α

/-- A single call. -/
def launchCall (made : LaunchCall) : Launch made.Result :=
  ExceptT.lift (@Program.make launchCalls made)

/-- `?` on the result of a call, with a context or without. -/
def launchContext {α : Type} (context : List String) (result : Except Setup.Errno α) : Launch α :=
  match result with
  | .ok value => pure value
  | .error errno => throw (context ++ [errno.nixText])

/-- `set_child_subreaper`. -/
def setChildSubreaper : Launch Unit := do
  match ← launchCall .setChildSubreaper with
  | .ok _ => return ()
  | .error _ =>
    let errno ← launchCall .lastOsError
    throw ["prctl(PR_SET_CHILD_SUBREAPER)", Setup.Errno.ioText errno]

/-- `CString::new` of every argument. -/
def cStrings : List String → Except Error Unit
  | [] => .ok ()
  | text :: rest => do
    Error.context "CString arg" (cString text)
    cStrings rest

/-- `exec_command`: it returns on failure only. -/
def execCommand : List String → Launch Unit
  | [] => throw ["no command specified"]
  | prog :: rest => do
    ExceptT.mk (pure (Error.context "CString prog" (cString prog)))
    ExceptT.mk (pure (cStrings (prog :: rest)))
    let errno ← launchCall (.execvp prog (prog :: rest))
    throw ["execvp", Setup.Errno.nixText errno]

/-- The signals that are blocked. -/
def blockedSignals : Finset Signal := managedSignals.toFinset

/-- `exec_command` with the exit after it; what follows its success is `unreachable!()`. -/
def execOrExit (command : List String) : Launch Int :=
  ExceptT.mk (do
    match ← (execCommand command).run with
    | .error _ =>
      let never ← @Program.make launchCalls (.exit 1)
      never.elim
    | .ok _ => return .error [])

/-- The branch of the child. -/
def becomeCommand (command : List String) (previousMask : Finset Signal) : Launch Int := do
  launchContext [] (← launchCall (.setMask previousMask))
  execOrExit command

/-- `run_command_tree`. -/
def runCommandTree (command : List String) : Launch Int := do
  ExceptT.mk (do return Error.context "set child subreaper" (← setChildSubreaper.run))
  let previousMask ← launchContext [] (← launchCall (.block blockedSignals))
  match ← launchContext ["fork command"] (← launchCall .fork) with
  | .child => becomeCommand command previousMask
  | .parent child =>
    ExceptT.mk (@Program.make launchCalls (.waitForCommandTree child blockedSignals))

/-! ## Both processes -/

/-- The process after a call. -/
def Launcher.after (launcher : Launcher) : (made : LaunchCall) → made.Result → Launcher
  | .setChildSubreaper, .ok _ => { launcher with subreaper := true }
  | .setChildSubreaper, .error errno => { launcher with errno := errno }
  | .block signals, .ok _ => { launcher with mask := launcher.mask ∪ signals }
  | .setMask mask, .ok _ => { launcher with mask := mask }
  | .setMask _, .error errno => { launcher with refused := some errno }
  | .execvp _ _, _ => { launcher with tried := true }
  -- The child of a subreaper is not one.
  | .fork, .ok .child => { launcher with forked := true, subreaper := false }
  | .fork, .ok (.parent child) => { launcher with command := some child }
  | _, _ => launcher

/-- What a call can return. -/
def Launcher.Answers (launcher : Launcher) : (made : LaunchCall) → made.Result → Prop
  | .lastOsError, errno => errno = launcher.errno
  | .block _, .ok mask => mask = launcher.mask
  | _, _ => True

/-- A command that can be handed to `execvp`. -/
def Executable (command : List String) : Prop :=
  command ≠ [] ∧ ∀ text ∈ command, 0 ∉ Text.asBytes text

/-- When each call is made, from the mask at the start. -/
def Proper (command : List String) (mask : Finset Signal) (launcher : Launcher) :
    LaunchCall → Prop
  -- The reaper's signals are blocked and orphans are adopted before there is a child.
  | .fork => launcher.subreaper = true ∧ launcher.mask = mask ∪ blockedSignals ∧
    launcher.forked = false
  -- The command is started as given, in the child, with the mask of the caller.
  | .execvp prog args => launcher.forked = true ∧ launcher.mask = mask ∧ args = command ∧
    args.head? = some prog ∧ Executable args ∧ launcher.tried = false
  -- The child exits when it has not become the command.
  | .exit code => launcher.forked = true ∧ launcher.mask = mask ∧ code = 1 ∧
    (launcher.tried = true ∨ ¬ Executable command)
  -- The reaper runs in the parent, with its signals blocked.
  | .waitForCommandTree commandPid signals => launcher.forked = false ∧
    launcher.subreaper = true ∧ launcher.command = some commandPid ∧
    signals = blockedSignals ∧ launcher.mask = mask ∪ blockedSignals
  | _ => True

/-- The system under `run_command_tree`. -/
def launchSystem (command : List String) (mask : Finset Signal) : Calls.System launchCalls :=
  ⟨Launcher, Proper command mask, Launcher.Answers, Launcher.after⟩

variable {command : List String} {mask : Finset Signal} {launcher : Launcher} {α : Type}
  {wanted : Except Error α → Launcher → Prop}

/-- A call is made when it is proper, and the function goes on with every answer. -/
theorem ensures_launchCall {made : LaunchCall} {next : made.Result → Launch α}
    (proper : Proper command mask launcher made)
    (rest : ∀ result, launcher.Answers made result →
      Ensures (launchSystem command mask) wanted (next result).run (launcher.after made result)) :
    Ensures (launchSystem command mask) wanted (launchCall made >>= next).run launcher :=
  ⟨proper, rest⟩

/-- Only texts without a NUL byte are accepted. -/
theorem cStrings_eq_ok {texts : List String} (fine : cStrings texts = .ok ()) :
    ∀ text ∈ texts, 0 ∉ Text.asBytes text := by
  induction texts with
  | nil => simp
  | cons text rest ih =>
    obtain ⟨_, head, tail⟩ := Error.bind_eq_ok.mp fine
    intro other member
    rcases List.mem_cons.mp member with same | later
    · rw [same]
      exact cString_eq_ok (Error.context_eq_ok.mp head)
    · exact ih tail other later

/-- Texts are refused for one that has a NUL byte. -/
theorem cStrings_eq_error {texts : List String} {causes : Error}
    (failed : cStrings texts = .error causes) : ∃ text ∈ texts, 0 ∈ Text.asBytes text := by
  induction texts with
  | nil => cases failed
  | cons text rest ih =>
    cases head : cString text with
    | error cause => exact ⟨text, List.mem_cons_self, cString_eq_error head⟩
    | ok fine =>
      have tail : cStrings rest = .error causes := by
        rw [← failed, cStrings, head]
        rfl
      obtain ⟨other, member, null⟩ := ih tail
      exact ⟨other, List.mem_cons_of_mem _ member, null⟩

/-- The child has not become the command. -/
structure Stays (command : List String) (mask : Finset Signal) (launcher : Launcher) : Prop where
  /-- It is the child. -/
  forked : launcher.forked = true
  /-- It has the mask of the caller. -/
  restored : launcher.mask = mask
  /-- `execvp` came back, or was not called for a command that it does not take. -/
  failed : launcher.tried = true ∨ ¬ Executable command

/-- `exec_command` in the child comes back with an error only. -/
theorem execCommand_ends (forked : launcher.forked = true) (restored : launcher.mask = mask)
    (untried : launcher.tried = false) :
    Ensures (launchSystem command mask)
      (fun result last => (∃ causes, result = .error causes) ∧ Stays command mask last)
      (execCommand command).run launcher := by
  cases parts : command with
  | nil => exact ⟨⟨_, rfl⟩, forked, restored, Or.inr fun able => able.1 rfl⟩
  | cons prog rest =>
    unfold execCommand
    have first : Ensures (launchSystem (prog :: rest) mask)
        (fun result last => result = Error.context "CString prog" (cString prog) ∧
          last = launcher)
        (ExceptT.mk (pure (Error.context "CString prog" (cString prog))) : Launch Unit).run
        launcher := ⟨rfl, rfl⟩
    have second : Ensures (launchSystem (prog :: rest) mask)
        (fun result last => result = cStrings (prog :: rest) ∧ last = launcher)
        (ExceptT.mk (pure (cStrings (prog :: rest))) : Launch Unit).run launcher := ⟨rfl, rfl⟩
    apply Ensures.tryThen first
    · rintro causes last ⟨failed, same⟩
      have unable : ¬ Executable (prog :: rest) := by
        intro able
        cases read : cString prog with
        | ok fine =>
          rw [read] at failed
          cases failed
        | error cause => exact able.2 prog List.mem_cons_self (cString_eq_error read)
      rw [same]
      exact ⟨⟨causes, rfl⟩, forked, restored, Or.inr unable⟩
    rintro _ last ⟨_, same⟩
    rw [same]
    apply Ensures.tryThen second
    · rintro causes last ⟨failed, same⟩
      obtain ⟨text, member, null⟩ := cStrings_eq_error failed.symm
      rw [same]
      exact ⟨⟨causes, rfl⟩, forked, restored, Or.inr fun able => able.2 text member null⟩
    rintro _ last ⟨fine, same⟩
    rw [same]
    apply ensures_launchCall
    · have able : Executable (prog :: rest) := ⟨List.cons_ne_nil _ _, cStrings_eq_ok fine.symm⟩
      exact ⟨forked, restored, rfl, rfl, able, untried⟩
    intro errno _
    exact ⟨⟨_, rfl⟩, forked, restored, Or.inl rfl⟩

/-- How `run_command_tree` returns: with a code in the reaper only, and in the child only with the
error of `thread_set_mask`. -/
def LaunchEnds (result : Except Error Int) (last : Launcher) : Prop :=
  match result with
  | .ok _ => last.forked = false ∧ last.command ≠ none
  | .error causes => last.forked = false ∨
    ∃ errno : Setup.Errno, last.refused = some errno ∧ causes = [errno.nixText]

/-- The child becomes the command or exits, once it has the mask; it never runs the reaper. -/
theorem becomeCommand_ends (forked : launcher.forked = true) (untried : launcher.tried = false) :
    Ensures (launchSystem command mask) LaunchEnds (becomeCommand command mask).run launcher := by
  unfold becomeCommand
  apply ensures_launchCall (by trivial)
  intro result _
  cases result with
  | error errno => exact Or.inr ⟨errno, rfl, rfl⟩
  | ok done =>
    let restored : Launcher := { launcher with mask := mask }
    have ends : Ensures (launchSystem command mask) _ (execCommand command).run restored :=
      execCommand_ends forked rfl untried
    apply Ensures.andThen ends
    rintro result last ⟨⟨causes, failed⟩, stays⟩
    rw [failed]
    exact ⟨⟨stays.forked, stays.restored, rfl, stays.failed⟩, fun never => never.elim⟩

/-- `set_child_subreaper` under its context. -/
theorem setChildSubreaper_ends (launcher : Launcher) :
    Ensures (launchSystem command mask)
      (fun result last => last.mask = launcher.mask ∧ last.forked = launcher.forked ∧
        last.tried = launcher.tried ∧ (result = .ok () → last.subreaper = true))
      (ExceptT.mk (do return Error.context "set child subreaper" (← setChildSubreaper.run)) :
        Launch Unit).run launcher := by
  apply Ensures.bind
  apply ensures_launchCall (by trivial)
  intro result _
  cases result with
  | ok done => exact ⟨rfl, rfl, rfl, fun _ => rfl⟩
  | error errno =>
    apply ensures_launchCall (by trivial)
    intro read _
    exact ⟨rfl, rfl, rfl, by simp [Error.context]⟩

/-- `run_command_tree` in both processes. -/
theorem runCommandTree_ends (unforked : launcher.forked = false) (own : launcher.mask = mask)
    (untried : launcher.tried = false) :
    Ensures (launchSystem command mask) LaunchEnds (runCommandTree command).run launcher := by
  unfold runCommandTree
  apply Ensures.tryThen (setChildSubreaper_ends launcher)
  · rintro causes last ⟨_, still, _⟩
    exact Or.inl (still.trans unforked)
  rintro _ second ⟨same, still, fresh, adopts⟩
  have adopts : second.subreaper = true := adopts rfl
  apply ensures_launchCall (by trivial)
  intro result answered
  cases result with
  | error errno => exact Or.inl (still.trans unforked)
  | ok previousMask =>
  have previous : previousMask = mask := by
    have known : previousMask = second.mask := answered
    rw [known, same, own]
  have blocked : second.mask ∪ blockedSignals = mask ∪ blockedSignals := by rw [same, own]
  apply ensures_launchCall
  · exact ⟨adopts, blocked, still.trans unforked⟩
  intro result _
  cases result with
  | error errno => exact Or.inl (still.trans unforked)
  | ok returned =>
    cases returned with
    | child =>
      rw [previous]
      exact becomeCommand_ends rfl (fresh.trans untried)
    | parent child =>
      refine ⟨⟨still.trans unforked, adopts, rfl, rfl, blocked⟩, fun result _ => ?_⟩
      cases result with
      | error causes => exact Or.inl (still.trans unforked)
      | ok code => exact ⟨still.trans unforked, by simp [launchSystem, Launcher.after]⟩

end NsProxy.Process
