import NsProxy.Setup.Mounting

/-!
# What the command inherits

The child under whatever the kernel and the parent answer: when the command is started, both
ends of the set-up channel, the TUN device and everything that was opened in between are closed
again, the network namespace is new and completely configured, and the one that was left is as
it was. The interface is there still because the parent holds the copy of the TUN device that it
was sent.
-/

namespace NsProxy.Namespace

open Calls Setup

variable {endian : Endian} {allowed : World → Op → Prop} {world : World} {sock : Fd}
  {wanted : Except Error Int → World → Prop}

/-! ## Steps of the set-up program -/

/-- An operation by its calls. -/
theorem ensures_perform {op : Op} {context : Option Error}
    {next : op.Result → SocketPair.Program setup} {spec : Except Error op.Result → World → Prop}
    (ensures : Ensures (kernel endian allowed) spec (operation endian op).run world)
    (failed : ∀ causes last, spec (.error causes) last →
      wanted (.error (context.getD [] ++ causes)) last)
    (went : ∀ value last, spec (.ok value) last →
      Ensures (kernel endian allowed) wanted (execute endian sock (next value)).run last) :
    Ensures (kernel endian allowed) wanted
      (execute endian sock (.perform op context next)).run world := by
  apply Ensures.bind
  apply Ensures.bind
  apply ensures.mono
  intro result last met
  cases result with
  | ok value => exact went value last met
  | error causes => exact failed causes last met

/-- A message is sent on the channel. -/
theorem ensures_send {message : Message} {context : Error} {next : SocketPair.Program setup}
    (isChannel : world.machine.opened sock = some .channel)
    (passes : ∀ passed ∈ message.fd, world.machine.opened passed ≠ none)
    (failed : ∀ causes last, Frame world last → wanted (.error causes) last)
    (went : ∀ last, Frame world last → last.machine = world.machine.passOn message →
      Ensures (kernel endian allowed) wanted (execute endian sock next).run last) :
    Ensures (kernel endian allowed) wanted
      (execute endian sock (.send message context next)).run world := by
  apply ensures_syscall (by simp)
  · exact ⟨isChannel, passes⟩
  intro result last _ frame machine _
  cases result with
  | error errno => exact ensures_throw (failed _ last frame)
  | ok done => exact went last frame machine

/-- A message is read from the channel. -/
theorem ensures_receive {purpose : Purpose} {eof context : Error}
    {next : Message → SocketPair.Program setup}
    (isChannel : world.machine.opened sock = some .channel)
    (failed : ∀ causes last, Frame world last → wanted (.error causes) last)
    (went : ∀ message last, Frame world last → last.machine = world.machine →
      Ensures (kernel endian allowed) wanted (execute endian sock (next message)).run last) :
    Ensures (kernel endian allowed) wanted
      (execute endian sock (.receive purpose eof context next)).run world := by
  unfold execute
  apply ensures_syscall (by simp)
  · exact isChannel
  intro result last _ frame machine _
  cases result with
  | error errno => exact ensures_throw (failed _ last frame)
  | ok read =>
    cases read with
    | none => exact ensures_throw (failed _ last frame)
    | some message => exact went message last frame machine

/-- The TUN descriptor is closed. -/
theorem close_ends {fd : Fd} (isOpen : world.machine.opened fd ≠ none) :
    Ensures (kernel endian allowed)
      (fun result last => result = .ok () ∧ Frame world last ∧
        last.machine = world.machine.release fd)
      (close fd).run world :=
  ensures_close isOpen fun _ frame machine => ensures_pure ⟨rfl, frame, machine⟩

/-! ## The child -/

/-- The loopback interface once it is up. -/
def upLoopback : Interface := { Interface.blank with flags := some upFlags }

/-- The network of the command: the loopback interface is up, and everything else goes through
the TUN interface. -/
def childNetwork : Network :=
  withTun ⟨Function.update (fun _ => none) Network.loopback (some upLoopback), []⟩ false

/-- The state in which the command is started, from the state after the namespace was made. -/
structure Inherits (world : World) (config : Setup.Config) (sock : Fd) (last : World) : Prop where
  /-- The command is not started twice. -/
  performed : last.performed = world.performed
  /-- Of the open descriptors, only the end of the channel is closed. -/
  opened : last.machine.opened = Function.update world.machine.opened sock none
  /-- The network is configured. -/
  network : last.machine.network = childNetwork
  /-- The parent was sent a copy of the TUN device. -/
  passed : eth0 ∈ last.machine.passed
  /-- The networks left behind are not touched. -/
  behind : last.machine.behind = world.machine.behind
  /-- The mounts of the plan were made. -/
  mounts : last.machine.mounts = world.machine.mounts ++ mountPlan config.bindMounts ∨
    last.machine.mounts = world.machine.mounts ++
      (mountPlan config.bindMounts ++ [.tmpfs "/etc/ssh/ssh_config.d"])
  /-- Of the temporary files, only those are left that could not be unlinked. -/
  unlinked : ∀ path, last.machine.files path = world.machine.files path ∨
    ∃ errno, (SystemCall.unlink path, errno) ∈ last.failed

/-- Calls that leave the machine as it is can come first. -/
theorem Inherits.of_frame {config : Setup.Config} {second last : World}
    (frame : Frame world second) (same : second.machine = world.machine)
    (inherits : Inherits second config sock last) : Inherits world config sock last := by
  obtain ⟨performed, opened, network, passed, behind, mounts, unlinked⟩ := inherits
  rw [same] at opened behind mounts unlinked
  rw [frame.performed] at performed
  exact ⟨performed, opened, network, passed, behind, mounts, unlinked⟩

/-- How the child ends: with an error before the command, or after the command was started. -/
def ChildEnds (world : World) (config : Setup.Config) (result : Except Error Int)
    (last : World) : Prop :=
  (∃ causes, result = .error causes ∧ last.performed = world.performed) ∨
    last.performed = world.performed ++ [.runCommandTree config.command]

/-- A child that fails before its command has run nothing. -/
theorem ChildEnds.failed {config : Setup.Config} {causes : Error} {last : World}
    (frame : Frame world last) : ChildEnds world config (.error causes) last :=
  Or.inl ⟨causes, rfl, frame.performed⟩

/-- The command may be started in the state it inherits. -/
def Permits (allowed : World → Op → Prop) (world : World) (config : Setup.Config) (sock : Fd) :
    Prop :=
  ∀ last, Inherits world config sock last → allowed last (.runCommandTree config.command)

/-- Step 9 and 10: both descriptors are closed, and the command is started. -/
theorem runCommand_ends {first : World} {config : Setup.Config} {fd : Fd}
    (permits : Permits allowed first config sock) (frame : Frame first world)
    (apart : fd ≠ sock) (absent : first.machine.opened fd = none)
    (isChannel : first.machine.opened sock = some .channel)
    (opened : world.machine.opened =
      Function.update first.machine.opened fd (some (.tun (some eth0))))
    (network : world.machine.network = childNetwork) (passed : eth0 ∈ world.machine.passed)
    (behind : world.machine.behind = first.machine.behind)
    (mounts : world.machine.mounts = first.machine.mounts ++ mountPlan config.bindMounts ∨
      world.machine.mounts = first.machine.mounts ++
        (mountPlan config.bindMounts ++ [.tmpfs "/etc/ssh/ssh_config.d"]))
    (unlinked : ∀ path, world.machine.files path = first.machine.files path ∨
      ∃ errno, (SystemCall.unlink path, errno) ∈ world.failed) :
    Ensures (kernel endian allowed) (ChildEnds first config)
      (execute endian sock (runCommand config fd)).run world := by
  have channelOpen : world.machine.opened sock = some .channel := by
    rw [opened, Function.update_of_ne apart.symm, isChannel]
  apply ensures_close (by simp [channelOpen])
  intro second closed released
  rw [release_plain channelOpen rfl] at released
  have tunOpen : second.machine.opened fd = some (.tun (some eth0)) := by
    simp [released, Machine.closed, opened, Function.update, apart]
  have shared : eth0 ∈ second.machine.passed := by
    rw [released]
    exact passed
  apply ensures_perform (close_ends (by simp [tunOpen]))
  · rintro causes last ⟨ended, _⟩
    cases ended
  rintro _ third ⟨_, again, machine⟩
  have both := (frame.trans closed).trans again
  -- The interface stays, since the parent has a copy of its descriptor.
  have inherits : Inherits first config sock third := by
    have machine : third.machine = (world.machine.closed sock).closed fd := by
      rw [machine, release_shared tunOpen shared, released]
    refine ⟨both.performed, ?_, by rw [machine]; exact network, by rw [machine]; exact passed,
      by rw [machine]; exact behind, by rw [machine]; exact mounts, ?_⟩
    · rw [machine]
      simp only [Machine.closed, opened]
      rw [Function.update_comm apart.symm, Function.update_idem]
      rw [← absent, Function.update_eq_self]
    · intro path
      rw [machine]
      rcases unlinked path with same | ⟨errno, failed⟩
      · exact Or.inl same
      · exact Or.inr ⟨errno, (closed.trans again).failed.subset failed⟩
  refine ⟨permits third inherits, fun result _ => ?_⟩
  have started : (after endian third (.perform (.runCommandTree config.command)) result).performed =
      first.performed ++ [.runCommandTree config.command] := by
    rw [← both.performed]
    rfl
  cases result with
  | error causes => exact Or.inr started
  | ok code => exact Or.inr started

/-- The network after `bringup_loopback` in a new namespace. -/
theorem apply_loopback_fresh :
    Network.fresh.apply endian (loopbackRequest endian) =
      some ⟨Function.update (fun _ => none) Network.loopback (some upLoopback), []⟩ := by
  rw [apply_loopbackRequest]
  simp [Network.change, Network.put, Network.fresh, upLoopback]

/-- Steps 4 to 10, in a new network namespace. -/
theorem setUpChild_ends {config : Setup.Config} (permits : Permits allowed world config sock)
    (isFresh : world.machine.network = .fresh) (alone : world.machine.passed = [])
    (isChannel : world.machine.opened sock = some .channel) :
    Ensures (kernel endian allowed) (ChildEnds world config)
      (execute endian sock (setUpChild config)).run world := by
  apply ensures_perform (bringupLoopback_ends world)
  · rintro causes last ⟨frame, _⟩
    exact ChildEnds.failed frame
  rintro _ second ⟨one, network, applied, up⟩
  rw [isFresh, apply_loopback_fresh] at applied
  have upNetwork := Option.some.inj applied
  have own : eth0 ∉ second.machine.passed := by
    rw [up, inNetwork, alone]
    exact List.not_mem_nil
  apply ensures_perform (createTun_ends second own)
  · rintro causes last ⟨frame, _⟩
    exact ChildEnds.failed (one.trans frame)
  rintro (fd : Fd) third ⟨two, absent, persistent, attachable, attached⟩
  have new : persistent = false := by
    rcases attachable with ⟨_, new⟩ | ⟨found, there, _⟩
    · exact new
    · rw [up, network_inNetwork, ← upNetwork] at there
      have absent : Function.update (fun _ => none) Network.loopback (some upLoopback) eth0 =
        none := by decide
      cases absent.symm.trans there
  rw [new] at attached
  rw [up, opened_inNetwork] at absent
  have apart : fd ≠ sock := by
    intro same
    rw [same, isChannel] at absent
    cases absent
  apply ensures_perform (setupMountNamespace_ends third config.bindMounts)
  · rintro causes last ⟨added, mounts, _⟩
    exact ChildEnds.failed ((one.trans two).trans mounts.frame)
  rintro _ fourth ⟨added, mounts, planned⟩
  have whole := (one.trans two).trans mounts.frame
  have opened : fourth.machine.opened =
      Function.update world.machine.opened fd (some (.tun (some eth0))) := by
    rw [mounts.machine, attached, up]
    rfl
  apply ensures_send
  · rw [opened, Function.update_of_ne apart.symm, isChannel]
  · intro passed given
    have same : fd = passed := Option.some.inj given
    rw [← same, opened]
    simp
  · intro causes last frame
    exact ChildEnds.failed (whole.trans frame)
  intro fifth sent same
  -- The message takes a copy of the TUN device to the parent.
  have same : fifth.machine = { fourth.machine with
      passed := eth0 :: fourth.machine.passed } := by
    rw [same]
    simp [Machine.passOn, opened, Handle.attached]
  apply ensures_receive
  · rw [same]
    exact (congrFun opened sock).trans (by rw [Function.update_of_ne apart.symm, isChannel])
  · intro causes last frame
    exact ChildEnds.failed ((whole.trans sent).trans frame)
  intro message sixth read again
  have frame := (whole.trans sent).trans read
  rw [same] at again
  dsimp only
  split
  · exact ChildEnds.failed frame
  · apply runCommand_ends permits frame apart absent isChannel
    · rw [again, opened]
    · rw [again, mounts.machine, attached, up, ← upNetwork]
      rfl
    · rw [again]
      exact List.mem_cons_self
    · rw [again, mounts.machine, attached, up]
      rfl
    · rw [again, mounts.machine, attached, up]
      rcases planned with planned | planned
      · rw [planned]
        exact Or.inl rfl
      · rw [planned]
        exact Or.inr rfl
    · intro path
      rw [again]
      have before : third.machine.files = world.machine.files := by
        rw [attached, up]
        rfl
      rcases mounts.unlinked path with kept | ⟨errno, failed⟩
      · exact Or.inl (by rw [kept, before])
      · exact Or.inr ⟨errno, (sent.trans read).failed.subset failed⟩

/-- Steps 2 to 10. -/
theorem signalParent_ends {config : Setup.Config} (needsMaps : Bool)
    (permits : Permits allowed world config sock)
    (isFresh : world.machine.network = .fresh) (alone : world.machine.passed = [])
    (isChannel : world.machine.opened sock = some .channel) :
    Ensures (kernel endian allowed) (ChildEnds world config)
      (execute endian sock (signalParent config needsMaps)).run world := by
  have later : ∀ last, Frame world last → last.machine = world.machine →
      Ensures (kernel endian allowed) (ChildEnds world config)
        (execute endian sock (setUpChild config)).run last := by
    intro last frame same
    rw [← same] at isFresh alone isChannel
    have permitted : Permits allowed last config sock := fun reached inherits =>
      permits reached (inherits.of_frame frame same)
    apply (setUpChild_ends permitted isFresh alone isChannel).mono
    intro result reached ends
    unfold ChildEnds at ends ⊢
    rw [frame.performed] at ends
    exact ends
  apply ensures_send isChannel (by simp)
  · intro causes last frame
    exact ChildEnds.failed frame
  intro second sent same
  have unchanged : second.machine = world.machine := same
  cases needsMaps with
  | false => exact later second sent unchanged
  | true =>
    apply ensures_receive (by rw [unchanged, isChannel])
    · intro causes last frame
      exact ChildEnds.failed (sent.trans frame)
    intro message third read again
    dsimp only
    split
    · exact ChildEnds.failed (sent.trans read)
    · exact later third (sent.trans read) (again.trans unchanged)

/-- `create_namespace` puts the process into a new network namespace, or fails and changes
nothing. -/
theorem createNamespace_ends (world : World) :
    Ensures (kernel endian allowed)
      (Ends world
        (fun needsMaps machine => machine =
          world.machine.unshared (if needsMaps then .newUserNet else .newNet))
        (fun machine => machine = world.machine))
      createNamespace.run world := by
  unfold createNamespace
  apply ensures_syscall (by simp) (by trivial)
  intro result second _ first machine _
  cases result with
  | ok done => exact ensures_pure ⟨first, machine⟩
  | error errno =>
    have machine : second.machine = world.machine := machine
    apply ensures_syscall (by simp) (by trivial)
    intro result third _ later after recorded
    cases result with
    | ok done =>
      have after : third.machine = second.machine.unshared .newUserNet := after
      rw [machine] at after
      exact ensures_pure ⟨first.trans later, after⟩
    | error errno =>
      have after : third.machine = second.machine := after
      exact ⟨first.trans later, Failed.before first (.now recorded rfl), after.trans machine⟩

/-- `child_main` on its end of the channel. -/
theorem childMain_ends {config : Setup.Config}
    (permits : ∀ flags second, second.machine = world.machine.unshared flags →
      flags ≠ .newNs → Frame world second → Permits allowed second config sock)
    (isChannel : world.machine.opened sock = some .channel) :
    Ensures (kernel endian allowed) (ChildEnds world config)
      (execute endian sock (childMain config)).run world := by
  apply ensures_perform (createNamespace_ends world)
  · rintro causes last ⟨frame, _⟩
    exact ChildEnds.failed frame
  rintro (needsMaps : Bool) second ⟨frame, unshared⟩
  have permitted : Permits allowed second config sock := by
    apply permits _ second unshared _ frame
    cases needsMaps <;> simp
  have isFresh : second.machine.network = .fresh := by
    cases needsMaps <;> rw [unshared] <;> rfl
  have alone : second.machine.passed = [] := by
    cases needsMaps <;> rw [unshared] <;> rfl
  have still : second.machine.opened sock = some .channel := by
    cases needsMaps <;> rw [unshared] <;> exact isChannel
  apply (signalParent_ends needsMaps permitted isFresh alone still).mono
  intro result last ends
  unfold ChildEnds at ends ⊢
  rw [frame.performed] at ends
  exact ends

/-- The state in which the command is started, from the state after the fork. -/
structure AtCommand (world : World) (config : Setup.Config) (parentSock childSock : Fd)
    (last : World) : Prop where
  /-- The command is not started twice. -/
  performed : last.performed = world.performed
  /-- The open descriptors are those before, without the two ends of the channel. -/
  opened : last.machine.opened =
    Function.update (Function.update world.machine.opened parentSock none) childSock none
  /-- The network is new and configured. -/
  network : last.machine.network = childNetwork
  /-- The parent was sent the copy of the TUN device that keeps the interface. -/
  passed : eth0 ∈ last.machine.passed
  /-- The network that nsproxy was started in is left as it was. -/
  behind : last.machine.behind = world.machine.behind ++ [world.machine.network]
  /-- The mounts of the plan were made. -/
  mounts : last.machine.mounts = world.machine.mounts ++ mountPlan config.bindMounts ∨
    last.machine.mounts = world.machine.mounts ++
      (mountPlan config.bindMounts ++ [.tmpfs "/etc/ssh/ssh_config.d"])
  /-- Of the temporary files, only those are left that could not be unlinked. -/
  unlinked : ∀ path, last.machine.files path = world.machine.files path ∨
    ∃ errno, (SystemCall.unlink path, errno) ∈ last.failed

/-- The command is started in the right state only, and nothing else is called as a whole. -/
def OnlyCommand (world : World) (config : Setup.Config) (parentSock childSock : Fd)
    (last : World) (op : Op) : Prop :=
  op = .runCommandTree config.command ∧ AtCommand world config parentSock childSock last

/-- How the child exits: with code one when the command was not started. -/
def ChildExits (world : World) (config : Setup.Config) (code : Int) (last : World) : Prop :=
  last.performed = world.performed ∧ code = 1 ∨
    last.performed = world.performed ++ [.runCommandTree config.command]

/-- The child once the end of the parent is closed. -/
theorem childExit_ends {config : Setup.Config} {parentSock childSock : Fd} {second : World}
    (closed : Frame world second) (machine : second.machine = world.machine.closed parentSock)
    (isChannel : second.machine.opened childSock = some .channel) :
    Ensures (kernel endian (OnlyCommand world config parentSock childSock))
      (ChildExits world config) (childExit endian childSock config) second := by
  have permits : ∀ flags third, third.machine = second.machine.unshared flags →
      flags ≠ .newNs → Frame second third →
        Permits (OnlyCommand world config parentSock childSock) third config childSock := by
    intro flags third unshared new frame last inherits
    obtain ⟨performed, opened, network, passed, behind, mounts, unlinked⟩ := inherits
    have whole := closed.trans frame
    rw [unshared, machine] at opened behind mounts unlinked
    cases flags with
    | newNs => exact absurd rfl new
    | newNet =>
      exact ⟨rfl, performed.trans whole.performed, opened, network, passed, behind, mounts,
        unlinked⟩
    | newUserNet =>
      exact ⟨rfl, performed.trans whole.performed, opened, network, passed, behind, mounts,
        unlinked⟩
  apply Ensures.andThen (childMain_ends permits isChannel)
  intro result last ends
  unfold ChildEnds at ends
  rw [closed.performed] at ends
  rcases ends with ⟨causes, failed, performed⟩ | performed
  · rw [failed]
    exact Or.inl ⟨performed, rfl⟩
  · cases result with
    | ok code => exact Or.inr performed
    | error causes => exact Or.inr performed

/-- The child of `main` in whatever way its calls are answered. -/
theorem forkedChild_ends {config : Setup.Config} {parentSock childSock : Fd}
    (apart : parentSock ≠ childSock) (parentOpen : world.machine.opened parentSock = some .channel)
    (childOpen : world.machine.opened childSock = some .channel) :
    Ensures (kernel endian (OnlyCommand world config parentSock childSock))
      (ChildExits world config) (forkedChild endian parentSock childSock config) world := by
  have isOpen : world.machine.opened parentSock ≠ none := by simp [parentOpen]
  refine ⟨isOpen, fun result _ => ?_⟩
  have small : ∀ op, SystemCall.close parentSock ≠ .perform op := by simp
  have machine : (after endian world (.close parentSock) result).machine =
      world.machine.closed parentSock := by
    rw [← release_plain parentOpen rfl]
    cases result <;> rfl
  apply childExit_ends (after_frame endian world small result) machine
  rw [machine]
  simp only [Machine.closed]
  rw [Function.update_of_ne apart.symm, childOpen]

/-- Along every run of the child, whatever the kernel and the parent answer, every call is made
on descriptors that are open and of the kind it is for. Where the command is started, the open
descriptors are those before the fork without the two ends of the channel, the process is in a
new network namespace with the loopback interface up, the interface and the default route
configured and the old network untouched, the parent was sent the copy of the TUN device that
keeps the interface, the mounts of the plan were made, and a temporary file is left only if its
`unlink` failed. A child that never starts the command exits with code one. -/
theorem command_inherits_clean_child (endian : Endian) (config : Setup.Config) (world : World)
    {parentSock childSock : Fd} (apart : parentSock ≠ childSock)
    (parentOpen : world.machine.opened parentSock = some .channel)
    (childOpen : world.machine.opened childSock = some .channel)
    (rest : Program systemCalls Int) (last : World)
    (ran : Relation.ReflTransGen
      (Step (kernel endian (OnlyCommand world config parentSock childSock)))
      (forkedChild endian parentSock childSock config, world) (rest, last)) :
    (∃ code, rest = .ret code ∧ ChildExits world config code last) ∨
      ∃ made next, rest = .call made next ∧
        Legal (OnlyCommand world config parentSock childSock) last made :=
  (forkedChild_ends apart parentOpen childOpen).run ran

/-- A process after the fork, with nothing open but the two ends of the channel. -/
def forkedWorld : World where
  machine :=
    { opened := Function.update (Function.update (fun _ => none) 3 (some .channel)) 4
        (some .channel)
      network := ⟨fun _ => none, []⟩
      behind := []
      userNamespace := false
      files := fun _ => none
      mounts := []
      passed := [] }
  failed := []
  performed := []

/-- A command with a mount of the user. -/
def homeConfig : Setup.Config := ⟨[homeMount], [], ["true"]⟩

/-- The program stands at the start of a command. -/
def startsCommand (command : List String) : Program systemCalls Int → Bool
  | .call (.perform (.runCommandTree started)) _ => started = command
  | _ => false

/-- What the test is for. -/
theorem of_startsCommand {command : List String} {program : Program systemCalls Int}
    (starts : startsCommand command program = true) :
    ∃ next, program = .call (.perform (.runCommandTree command)) next := by
  unfold startsCommand at starts
  split at starts
  · next started next =>
    rw [← of_decide_eq_true starts]
    exact ⟨next, rfl⟩
  · cases starts

/-- The run of 37 calls in which all succeed and the parent is ready: the child stands at the
start of the command, in the state that the command inherits. -/
theorem command_inherits_clean_child_started :
    ∃ next last, Relation.ReflTransGen
        (Step (kernel .little (OnlyCommand forkedWorld homeConfig 3 4)))
        (forkedChild .little 3 4 homeConfig, forkedWorld)
        (.call (.perform (.runCommandTree ["true"])) next, last) ∧
      AtCommand forkedWorld homeConfig 3 4 last := by
  let system := kernel .little (OnlyCommand forkedWorld homeConfig 3 4)
  let child := forkedChild .little 3 4 homeConfig
  let reached := follow system obliging 37 child forkedWorld
  let last := reached.2
  have starts : startsCommand ["true"] reached.1 = true := by decide +kernel
  obtain ⟨next, stands⟩ := of_startsCommand starts
  have ran : Relation.ReflTransGen (Step system) (child, forkedWorld)
      (.call (.perform (.runCommandTree ["true"])) next, last) := by
    rw [← stands]
    exact run_follow system (answers_obliging .little) 37 child forkedWorld (by decide +kernel)
  refine ⟨next, last, ran, ?_⟩
  have apart : (3 : Fd) ≠ 4 := by decide
  rcases command_inherits_clean_child .little homeConfig forkedWorld apart
      (by simp [forkedWorld, Function.update]) (by simp [forkedWorld, Function.update]) _ last ran
    with ⟨code, ended, _⟩ | ⟨made, later, same, legal⟩
  · cases ended
  · injection same with same
    rw [← same] at legal
    exact legal.2

end NsProxy.Namespace
